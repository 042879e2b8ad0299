import KeyLog.CommandLine.Help
import KeyLog.Store.Compaction

/-!
# Carrying out a command line

A command line is carried out on a volume, from opening the log on.  `verify` replays the log and
opens no store; everything else is a task for an open store, and only `set` creates the log where it
is missing.  It does so before it looks at the key, so a refused key leaves an empty log behind.

In the end the store is closed.  Closing only forces the bytes to the disk, which is taken to
succeed (`KeyLog.Volume.Medium`), so there is nothing to carry out for it here.

Nothing is printed unless the action succeeds.  A key without a value has an exit code of its own.
-/

namespace KeyLog
namespace CommandLine

/-- What is said where an ordinary answer would stand on the other channel. -/
inductive Complaint where
  /-- The key has no value. -/
  | notFound
  /-- The command line is refused. -/
  | usage
  | failure (error : StoreError)
  deriving DecidableEq, Repr

/-- The exit code that goes with a complaint. -/
def Complaint.exitCode : Complaint → Nat
  | .notFound => 1
  | .usage | .failure _ => 2

/-- What a run leaves for its caller to see. -/
structure Report where
  output : String
  complaint : Option Complaint
  deriving DecidableEq, Repr

namespace Report

/-- The report of a run that went well. -/
def success (output : String) : Report := ⟨output, none⟩

/-- The report of an error. -/
def ofError : StoreError → Report
  | .notFound => ⟨"", some .notFound⟩
  | error => ⟨"", some (.failure error)⟩

/-- The exit code of the run. -/
def exitCode (report : Report) : Nat :=
  match report.complaint with
  | none => 0
  | some complaint => complaint.exitCode

/-- The report of a result, given what it prints. -/
def ofResult {α : Type} (print : α → String) : Except StoreError α → Report
  | .ok result => success (print result)
  | .error error => ofError error

end Report

/-- What `verify` prints. -/
def printStats (stats : ReplayStats) : String :=
  s!"ok: {stats.records} records, {stats.liveKeys} live keys, {stats.superseded} superseded, " ++
    s!"{stats.bytes} bytes\n"

/-- What `compact` prints. -/
def printCompaction (stats : CompactionStats) : String :=
  s!"compacted: {stats.liveRecords} live records, {stats.bytesBefore} -> {stats.bytesAfter} " ++
    s!"bytes ({stats.reclaimed} reclaimed)\n"

/-- What `keys` prints. -/
def printKeys (keys : List String) : String := String.join (keys.map (· ++ "\n"))

/-- Carries out a task on an open store. -/
def Task.run (volume : Volume) (store : Store) : Task → Report × Volume
  | .get key => (.ofResult (· ++ "\n") (store.get volume key).1, volume)
  | .set key value =>
    match store.set (.limited none) volume key value with
    | (result, _, volume) => (.ofResult (fun _ => "") result, volume)
  | .keys => (.success (printKeys store.keys.pending), volume)
  | .compact =>
    match store.compact (.limited none) volume with
    | (result, _, volume) => (.ofResult printCompaction result, volume)

/-- The task needs no log that exists already. -/
def Task.creates : Task → Bool
  | .set _ _ => true
  | .get _ | .keys | .compact => false

/-- Carries out an action on the log at a path. -/
def Action.run (volume : Volume) (path : String) : Action → Report × Volume
  | .verify => (.ofResult printStats (Replay.verify volume path), volume)
  | .onStore task =>
    match Store.openWith volume { path, createIfMissing := task.creates } with
    | (.error error, volume) => (.ofError error, volume)
    | (.ok store, volume) => task.run volume store

/-- Carries out a request. -/
def Request.answer (volume : Volume) : Request → Report × Volume
  | .refused => (⟨"", some .usage⟩, volume)
  | .help topic => (.success topic.text, volume)
  | .version => (.success versionLine, volume)
  | .run path action => action.run volume path

/-- Carries out a command line. -/
def run (volume : Volume) (words : List String) : Report × Volume :=
  (Request.ofWords words).answer volume

end CommandLine
end KeyLog
