import KeyLog.Store.Basic

/-!
# Compaction

Compacting a store writes its log anew, so that it holds the current record of each key and nothing
else, in the order of the keys.  The new log is drafted beside the old one, under a temporary name,
and takes its place by a renaming only when it is complete.

## Why it is a machine

What matters about compaction is what happens when it stops halfway: because a write is cut off,
because a record cannot be read, or because the process is gone.  So it is a machine with a
`Phase`, and a `step` does at most one thing to the volume.  The states in which it can be stopped
are then states of the machine, and `run` is nothing but stepping until a step finishes it.

The old log is only read until the phase `replacing`, and its handle moves with the reading; every
error leads through `removing`, which takes the temporary name away and hands the error on.

## The draft is buffered

Records are collected and written out in larger pieces.  When a record cannot be read, what was
collected before it is still written out before the draft is given up; that can be seen only by
somebody else who holds the object of the temporary name.
-/

namespace KeyLog

/-- What a compaction did. -/
structure CompactionStats where
  liveRecords : Nat
  bytesBefore : Nat
  bytesAfter : Nat
  deriving DecidableEq, Repr

/-- The bytes by which the log became shorter; none if it did not. -/
def CompactionStats.reclaimed (stats : CompactionStats) : Nat :=
  stats.bytesBefore - stats.bytesAfter

namespace Compaction

/-- The name under which the compacted version of a log is drafted. -/
def temporaryPath (path : String) : String := path ++ ".compact"

/-- How many bytes are collected before they are written out. -/
def bufferSize : Nat := 8192

/-- Adds bytes to those that were collected: what is to be written out now, and what is collected
then. -/
def collect (pending bytes : Bytes) : Bytes × Bytes :=
  let total := pending.length + bytes.length
  if total < bufferSize ∨ total = bufferSize ∧ bytes.length < bufferSize then
    ([], pending ++ bytes)
  else if bufferSize ≤ bytes.length then (pending ++ bytes, [])
  else (pending, bytes)

/-- Collecting loses no byte and keeps the order. -/
theorem collect_append (pending bytes : Bytes) :
    (collect pending bytes).1 ++ (collect pending bytes).2 = pending ++ bytes := by
  unfold collect
  dsimp only
  split
  · rfl
  · split <;> simp

/-- A new log in the making. -/
structure Draft where
  /-- The object of the temporary name. -/
  object : Nat
  /-- Bytes that are not written out yet. -/
  pending : Bytes
  /-- The places of the records in the new log. -/
  index : Index
  /-- Where the next record begins in the new log. -/
  offset : Nat

/-- How far an unfinished compaction is. -/
inductive Phase where
  /-- The temporary name is about to be opened. -/
  | opening (todo : List (String × Span))
  /-- Records are copied, and these are left. -/
  | copying (draft : Draft) (todo : List (String × Span))
  /-- The draft is complete and about to be opened as a log. -/
  | reopening (index : Index)
  /-- The new log is about to take the name of the old one. -/
  | replacing (file : LogFile) (index : Index)
  /-- The draft is given up; what was collected is still written out. -/
  | discarding (draft : Draft) (error : StoreError)
  /-- The temporary name is about to be taken away. -/
  | removing (error : StoreError)

/-- What a compaction comes to: the new log and its index, or why there is none. -/
abbrev Outcome := Except StoreError (LogFile × Index)

/-- Where a step leads. -/
inductive Progress where
  | to (phase : Phase)
  | finished (outcome : Outcome)

/-- The phase after one more record, and the bytes that go to the draft for it. -/
def Draft.add (draft : Draft) (key : String) (record : Record) : Bytes × Draft :=
  let bytes := record.encode
  let (out, pending) := collect draft.pending bytes
  (out,
    { draft with
      pending
      index := draft.index.insert key ⟨draft.offset, bytes.length⟩
      offset := draft.offset + bytes.length })

/-- Writes bytes to the draft, if there are any.  Nobody else writes to it, so its end is where its
writer stands. -/
def write (medium : Medium) (volume : Volume) (object : Nat) (bytes : Bytes) :
    Option SystemError × Volume :=
  if bytes.isEmpty then (none, volume)
  else volume.append medium object (volume.size object) bytes

/-- One step of the compaction of a log, and the handle on that log afterwards.  It does at most one
thing to the volume. -/
def step (medium : Medium) (file : LogFile) (volume : Volume) :
    Phase → Progress × LogFile × Volume
  | .opening todo =>
    match volume.openEmpty (temporaryPath file.path) with
    | (.error cause, volume) => (.to (.removing (.io cause)), file, volume)
    | (.ok object, volume) => (.to (.copying ⟨object, [], .empty, 0⟩ todo), file, volume)
  | .copying draft ((key, span) :: todo) =>
    match file.readAt volume span with
    | (.error error, file) => (.to (.discarding draft error), file, volume)
    | (.ok record, file) =>
      let (out, draft) := draft.add key record
      match write medium volume draft.object out with
      | (some cause, volume) => (.to (.removing (.io cause)), file, volume)
      | (none, volume) => (.to (.copying draft todo), file, volume)
  | .copying draft [] =>
    match write medium volume draft.object draft.pending with
    | (some cause, volume) => (.to (.removing (.io cause)), file, volume)
    | (none, volume) => (.to (.reopening draft.index), file, volume)
  | .reopening index =>
    match LogFile.openAt volume (temporaryPath file.path) false file.sync with
    | (.error error, volume) => (.to (.removing error), file, volume)
    | (.ok draft, volume) => (.to (.replacing draft index), file, volume)
  | .replacing draft index =>
    match volume.rename (temporaryPath file.path) file.path with
    | (some cause, volume) => (.to (.removing (.io cause)), file, volume)
    | (none, volume) => (.finished (.ok ({ draft with path := file.path }, index)), file, volume)
  | .discarding draft error =>
    (.to (.removing error), file, (write medium volume draft.object draft.pending).2)
  | .removing error =>
    (.finished (.error error), file, (volume.remove (temporaryPath file.path)).2)

/-- A bound on the steps that are left. -/
def Phase.stepsLeft : Phase → Nat
  | .opening todo => todo.length + 5
  | .copying _ todo => todo.length + 4
  | .reopening _ => 3
  | .replacing _ _ => 2
  | .discarding _ _ => 1
  | .removing _ => 0

/-- Every step that does not finish brings the end nearer. -/
theorem stepsLeft_step {medium : Medium} {file moved : LogFile} {volume after : Volume}
    {phase next : Phase} (h : step medium file volume phase = (.to next, moved, after)) :
    next.stepsLeft < phase.stepsLeft := by
  cases phase with
  | opening todo =>
    simp only [step] at h
    split at h <;> cases h <;> simp only [Phase.stepsLeft] <;> omega
  | copying draft todo =>
    cases todo with
    | nil =>
      simp only [step] at h
      split at h <;> cases h <;> simp [Phase.stepsLeft]
    | cons entry todo =>
      simp only [step] at h
      split at h
      · cases h
        simp only [Phase.stepsLeft, List.length_cons]
        omega
      · split at h <;> cases h <;> simp only [Phase.stepsLeft, List.length_cons] <;> omega
  | reopening index =>
    simp only [step] at h
    split at h <;> cases h <;> simp [Phase.stepsLeft]
  | replacing draft index =>
    simp only [step] at h
    split at h <;> cases h
    simp [Phase.stepsLeft]
  | discarding draft error =>
    cases h
    simp [Phase.stepsLeft]
  | removing error => cases h

/-- Goes on to the end from some phase, and hands back the handle on the old log as well. -/
def run (medium : Medium) (file : LogFile) (volume : Volume) (phase : Phase) :
    Outcome × LogFile × Volume :=
  match _h : step medium file volume phase with
  | (.finished outcome, file, volume) => (outcome, file, volume)
  | (.to next, file, volume) => run medium file volume next
termination_by phase.stepsLeft
decreasing_by exact stepsLeft_step _h

end Compaction

namespace Store

/-- Compacts the store.  The log and the index change only if the new log is in place. -/
def compact (medium : Medium) (volume : Volume) (store : Store) :
    Except StoreError CompactionStats × Store × Volume :=
  match Compaction.run medium store.file volume (.opening store.index.entries) with
  | (.error error, file, volume) => (.error error, { store with file }, volume)
  | (.ok (file, index), _, volume) =>
    (.ok ⟨store.index.size, store.file.length, file.length⟩, { store with file, index }, volume)

end Store
end KeyLog
