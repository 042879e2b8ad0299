import KeyLog.Index.Basic
import KeyLog.Scanner

/-!
# Replaying a log

A log is the history of a store: replaying it means scanning all its records in order and keeping,
for each key, the place of the last one.  The first fault ends the replay, and nothing of the index
built so far is handed out.

The recursion ends because every record uses up bytes of the source.
-/

namespace KeyLog

/-- The counts of a replay. -/
structure ReplayStats where
  /-- All records. -/
  records : Nat
  /-- The keys that have a record. -/
  liveKeys : Nat
  /-- The records that a later record of the same key replaces. -/
  superseded : Nat
  /-- The bytes of all records. -/
  bytes : Nat
  deriving DecidableEq, Repr

/-- What a replay finds. -/
structure Replay where
  index : Index
  stats : ReplayStats

namespace Replay

/-- Goes on with a replay that has met some records and left an index of them. -/
def resume (scanner : Scanner) (index : Index) (records superseded : Nat) :
    Except StoreError Replay :=
  match _h : scanner.nextRecord with
  | (.error error, _) => .error error
  | (.ok none, after) => .ok ⟨index, ⟨records, index.size, superseded, after.offset⟩⟩
  | (.ok (some scanned), after) =>
    let (older, index) := index.replace scanned.record.key scanned.span
    resume after index (records + 1) (superseded + if older.isSome then 1 else 0)
termination_by scanner.source.bytesLeft
decreasing_by exact Scanner.bytesLeft_nextRecord _h

/-- Replays a source from its beginning. -/
def ofSource (source : Source) : Except StoreError Replay :=
  resume (.start source) .empty 0 0

/-- Replays the bytes of a log. -/
def ofBytes (bytes : Bytes) : Except StoreError Replay := ofSource (.ofBytes bytes)

end Replay
end KeyLog
