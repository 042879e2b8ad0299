import KeyLog.CommandLine.Run
import KeyLog.Foreign
import KeyLog.Session.Disk

/-!
# What is asked and answered in a session

The vocabulary of a session: the commands for each kind of thing that can be open, and what comes
of them.  An answer about an open store or an open log file also carries what can be seen of it
from outside, so that every step shows whether its handle still counts right.
-/

namespace KeyLog
namespace Session

/-! ## On a store -/

/-- What can be asked of an open store. -/
inductive StoreCommand where
  | get (key : String)
  | set (key value : String)
  | contains (key : String)
  | keys
  /-- Makes a cursor. -/
  | iterate (cursor : String)
  | compact
  | info
  /-- Closes the store, or drops it.  Closing also forces the bytes to the disk, which nobody can
  tell as long as it succeeds. -/
  | close

/-- What a store answers. -/
inductive StoreReply where
  | done
  | opened (stats : ReplayStats)
  | value (value : String)
  | truth (value : Bool)
  | keys (keys : List String)
  | compacted (stats : CompactionStats)
  | info (isEmpty : Bool) (settings : Settings) (stats : ReplayStats)

/-- What can be seen of an open store at any time: the number of its keys and the size of its
log. -/
structure StoreState where
  keys : Nat
  size : Nat

/-- What can be seen of a store. -/
def storeState (store : Store) : StoreState := ⟨store.size, store.logSize⟩

/-! ## On a log file -/

/-- What can be asked of an open log file. -/
inductive FileCommand where
  | replay
  | append (record : Record)
  | readAt (span : Span)
  /-- Forces the bytes of the log to the disk. -/
  | sync
  /-- The same, and the handle is given up. -/
  | close

/-- What a log file answers. -/
inductive FileReply where
  | done
  | opened (path : String) (sync : SyncPolicy)
  | replayed (replay : Replay)
  | appended (span : Span)
  | record (record : Record)

/-- What can be seen of an open log file at any time. -/
structure FileState where
  length : Nat
  isEmpty : Bool

/-- What can be seen of a log file. -/
def fileState (file : LogFile) : FileState := ⟨file.length, file.isEmpty⟩

/-! ## Through the C interface -/

/-- The calls of the C interface.  A handle without a name is null, and so is a text without
bytes; `place` says whether there is a place for the result. -/
inductive ForeignCommand where
  | openStore (handle : String) (path : Option Bytes) (place : Bool)
  | get (handle : Option String) (key : Option Bytes) (place : Bool)
  | set (handle : Option String) (key value : Option Bytes)
  | close (handle : Option String)
  | iterate (handle : Option String) (cursor : String) (place : Bool)
  | next (cursor : Option String) (place : Bool)
  | destroy (cursor : Option String)
  /-- Frees a null string. -/
  | freeNull

/-- What a call leaves in the place for its result, handles being alike. -/
inductive ForeignResult where
  | text (text : String)
  | handle

/-! ## Commands and answers -/

/-- What can be done in a session. -/
inductive Command where
  | limit (limit : Option Nat)
  | disk (command : DiskCommand)
  | openStore (handle : String) (settings : Settings)
  | store (handle : String) (command : StoreCommand)
  | verify (path : String)
  | openFile (handle path : String) (create : Bool) (sync : SyncPolicy)
  | file (handle : String) (command : FileCommand)
  | foreign (command : ForeignCommand)
  | cursor (name : String) (query : KeyCursor.Query)
  | commandLine (words : List String)

/-- What comes of it. -/
inductive Answer where
  | done
  /-- Nothing of that kind has that name. -/
  | noHandle
  | disk (result : Except SystemError DiskReply)
  /-- The result, and the state of the store if it is open afterwards. -/
  | store (result : Except StoreError StoreReply) (state : Option StoreState)
  | verified (result : Except StoreError ReplayStats)
  | file (result : Except StoreError FileReply) (state : Option FileState)
  /-- The status, and what became of the place for the result if the call has one. -/
  | foreign (status : Foreign.Status) (out : Option (Foreign.Out ForeignResult))
  | cursor (reply : KeyCursor.Reply)
  | commandLine (report : CommandLine.Report)

end Session
end KeyLog
