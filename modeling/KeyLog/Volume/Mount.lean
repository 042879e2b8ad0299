import KeyLog.Volume.Names

/-!
# Bringing files into a volume

A volume that stands for a few files from elsewhere: each is put under its own path, with the
directories that the path goes through.
-/

namespace KeyLog
namespace Volume

/-- The volume with the directories that the pieces of a path go through, from a directory on. -/
def makeWay (volume : Volume) (here : Path) : List String → Volume
  | [] => volume
  | piece :: rest =>
    if piece = "" ∨ piece = "." then makeWay volume here rest
    else if piece = ".." then makeWay volume here.dropLast rest
    else if rest.all String.isEmpty then volume
    else makeWay (volume.link (here ++ [piece]) .directory) (here ++ [piece]) rest

/-- The volume with a file under a path, or at least with the way to it. -/
def mount (volume : Volume) (path : String) (bytes : Option Bytes) : Volume :=
  let volume := volume.makeWay [] (Path.pieces path)
  match bytes with
  | none => volume
  | some bytes =>
    match volume.openFile path true with
    | (.error _, volume) => volume
    | (.ok object, volume) => volume.store object bytes

/-- The bytes of the file that a path leads to. -/
def bytesAt? (volume : Volume) (path : String) : Option Bytes :=
  match volume.openFile path false with
  | (.error _, _) => none
  | (.ok object, _) => some (volume.content object)

end Volume
end KeyLog
