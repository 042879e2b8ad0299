import KeyLog.Volume.Names

/-!
# Work on the volume itself

What somebody does to files without asking a store: writing, cutting, renaming and removing them,
and looking at them.  Such work goes by names, is never limited, and is what the handles of a
session may find done behind their backs.
-/

namespace KeyLog
namespace Session

/-- What can be done to the volume directly. -/
inductive DiskCommand where
  /-- Replaces what the file holds, and creates it where it is missing. -/
  | write (path : String) (bytes : Bytes)
  /-- Adds to what the file holds, and creates it where it is missing. -/
  | append (path : String) (bytes : Bytes)
  | overwrite (path : String) (offset : Nat) (bytes : Bytes)
  | resize (path : String) (length : Nat)
  | remove (path : String)
  | rename (source target : String)
  | makeDirectory (path : String)
  | removeDirectory (path : String)
  | read (path : String)
  | list

/-- What the volume shows. -/
inductive DiskReply where
  | done
  | bytes (bytes : Bytes)
  /-- Every name, with its size if it is a file. -/
  | listing (entries : List (String × Option Nat))

/-- Does something to the object that a path leads to. -/
def onObject (volume : Volume) (path : String) (create : Bool)
    (change : Volume → Nat → DiskReply × Volume) : Except SystemError DiskReply × Volume :=
  match volume.openFile path create with
  | (.error cause, volume) => (.error cause, volume)
  | (.ok object, volume) =>
    let (reply, volume) := change volume object
    (.ok reply, volume)

/-- The reply of an operation that only may fail. -/
def ofFailure : Option SystemError × Volume → Except SystemError DiskReply × Volume
  | (some cause, volume) => (.error cause, volume)
  | (none, volume) => (.ok .done, volume)

/-- Carries out a command on the volume. -/
def DiskCommand.run (volume : Volume) : DiskCommand → Except SystemError DiskReply × Volume
  | .write path bytes =>
    onObject volume path true fun volume object => (.done, volume.store object bytes)
  | .append path bytes =>
    onObject volume path true fun volume object =>
      (.done, (volume.append .perfect object (volume.size object) bytes).2)
  | .overwrite path offset bytes =>
    onObject volume path false fun volume object => (.done, volume.overwrite object offset bytes)
  | .resize path length =>
    onObject volume path false fun volume object =>
      (.done, (volume.resize .perfect object length).2)
  | .remove path => ofFailure (volume.remove path)
  | .rename source target => ofFailure (volume.rename source target)
  | .makeDirectory path => ofFailure (volume.makeDirectory path)
  | .removeDirectory path => ofFailure (volume.removeDirectory path)
  | .read path =>
    onObject volume path false fun volume object => (.bytes (volume.content object), volume)
  | .list =>
    let entries := volume.list.map fun entry =>
      match entry.2 with
      | .file object => (entry.1, some (volume.size object))
      | .directory => (entry.1, none)
    (.ok (.listing entries), volume)

end Session
end KeyLog
