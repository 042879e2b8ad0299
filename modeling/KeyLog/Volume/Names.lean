import KeyLog.Volume.Medium

/-!
# Opening, renaming, removing

The operations that go by name.  Each says which of the things in its way it reports: a place that
cannot be reached comes first, then what stands at the place.
-/

namespace KeyLog
namespace Volume

/-- Opens the object that a path leads to; with `create`, a name that leads nowhere gets a new
empty object. -/
def openFile (volume : Volume) (text : String) (create : Bool) : Except SystemError Nat × Volume :=
  match volume.locate text with
  | .error cause => (.error cause, volume)
  | .ok .directory => (.error .isDirectory, volume)
  | .ok (.name path asDirectory) =>
    if create && asDirectory then (.error .isDirectory, volume)
    else
      match volume.lookUp path with
      | .error cause => (.error cause, volume)
      | .ok (some .directory) => (.error .isDirectory, volume)
      | .ok (some (.file object)) =>
        if asDirectory then (.error .notDirectory, volume) else (.ok object, volume)
      | .ok none =>
        if create then
          let (object, volume) := volume.create path
          (.ok object, volume)
        else (.error .noEntry, volume)

/-- Opens an object for writing from scratch: it is created where it is missing, and emptied. -/
def openEmpty (volume : Volume) (text : String) : Except SystemError Nat × Volume :=
  match volume.openFile text true with
  | (.error cause, volume) => (.error cause, volume)
  | (.ok object, volume) => (.ok object, volume.store object [])

/-- Takes the name of a file away. -/
def remove (volume : Volume) (text : String) : Option SystemError × Volume :=
  match volume.locate text with
  | .error cause => (some cause, volume)
  | .ok .directory => (some .isDirectory, volume)
  | .ok (.name path asDirectory) =>
    match volume.lookUp path with
    | .error cause => (some cause, volume)
    | .ok none => (some .noEntry, volume)
    | .ok (some .directory) => (some .isDirectory, volume)
    | .ok (some (.file _)) =>
      if asDirectory then (some .notDirectory, volume) else (none, volume.unlink path)

/-- The names below a place. -/
def below (volume : Volume) (path : Path) : List (Path × Node) :=
  volume.entries.filter fun entry => path.isPrefixOf entry.1 && entry.1 != path

/-- Moves a directory with all that is in it. -/
def moveTree (volume : Volume) (source target : Path) : Volume :=
  { volume with
    entries := volume.entries.map fun entry =>
      if source.isPrefixOf entry.1 then (target ++ entry.1.drop source.length, entry.2) else entry }

/-- Gives what a path leads to another name.  A file may take the name of a file, and a directory
that of an empty directory. -/
def rename (volume : Volume) (source target : String) : Option SystemError × Volume :=
  match volume.locate source, volume.locate target with
  | .error cause, _ => (some cause, volume)
  | _, .error cause => (some cause, volume)
  | .ok .directory, _ => (some .isDirectory, volume)
  | _, .ok .directory => (some .isDirectory, volume)
  | .ok (.name old oldAsDirectory), .ok (.name new newAsDirectory) =>
    match volume.lookUp old, volume.lookUp new with
    | .error cause, _ => (some cause, volume)
    | .ok none, _ => (some .noEntry, volume)
    | _, .error cause => (some cause, volume)
    | .ok (some (.file object)), .ok there =>
      if oldAsDirectory || newAsDirectory then (some .notDirectory, volume)
      else if old = new then (none, volume)
      else
        match there with
        | some .directory => (some .isDirectory, volume)
        | _ => (none, (volume.unlink old).link new (.file object))
    | .ok (some .directory), .ok there =>
      if old = new then (none, volume)
      else if old.isPrefixOf new then (some .invalidArgument, volume)
      else
        match there with
        | some (.file _) => (some .notDirectory, volume)
        | some .directory =>
          if (volume.below new).isEmpty then (none, (volume.unlink new).moveTree old new)
          else (some .notEmpty, volume)
        | none => (none, volume.moveTree old new)

/-- Makes a directory. -/
def makeDirectory (volume : Volume) (text : String) : Option SystemError × Volume :=
  match volume.locate text with
  | .error cause => (some cause, volume)
  | .ok .directory => (some .alreadyExists, volume)
  | .ok (.name path _) =>
    match volume.lookUp path with
    | .error cause => (some cause, volume)
    | .ok (some _) => (some .alreadyExists, volume)
    | .ok none => (none, volume.link path .directory)

/-- Removes an empty directory. -/
def removeDirectory (volume : Volume) (text : String) : Option SystemError × Volume :=
  match volume.locate text with
  | .error cause => (some cause, volume)
  | .ok .directory => (some .invalidArgument, volume)
  | .ok (.name path _) =>
    match volume.lookUp path with
    | .error cause => (some cause, volume)
    | .ok none => (some .noEntry, volume)
    | .ok (some (.file _)) => (some .notDirectory, volume)
    | .ok (some .directory) =>
      if (volume.below path).isEmpty then (none, volume.unlink path)
      else (some .notEmpty, volume)

/-- All names, each as one text, in byte order. -/
def list (volume : Volume) : List (String × Node) :=
  (volume.entries.map fun entry => ("/".intercalate entry.1, entry.2)).mergeSort fun a b =>
    !(Utf8.Before b.1 a.1 : Bool)

end Volume
end KeyLog
