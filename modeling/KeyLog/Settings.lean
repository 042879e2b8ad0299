/-!
# Settings of a store
-/

namespace KeyLog

/-- How often the log is forced to the disk.  No answer of a store depends on it. -/
inductive SyncPolicy where
  /-- After every write. -/
  | everyWrite
  /-- After so many writes. -/
  | everyWrites (count : Nat)
  deriving DecidableEq, Repr

/-- How a store is opened. -/
structure Settings where
  /-- The path of the log. -/
  path : String := "./heap.db"
  /-- A missing log is created. -/
  createIfMissing : Bool := true
  sync : SyncPolicy := .everyWrite
  deriving DecidableEq, Repr

end KeyLog
