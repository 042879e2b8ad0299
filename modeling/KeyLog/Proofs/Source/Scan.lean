import KeyLog.Proofs.Source.Buffered

/-!
# Scanning through a buffer

A scan asks its source for each record in three pieces, and a replay asks until the log ends.  This
file has both as programs that ask, so that they can be run on a source that is read through a
buffer in a loop, where the end of a piece, a refill of the buffer and an interruption may fall
inside any of the three requests.

* `Cursor.run_run`, `Cursor.run_replay`: the programs, run on a source, are the scans and the
  replays.
* `Scanner.delivery_does_not_matter`: hence neither depends on how the bytes arrive.
-/

namespace KeyLog

open Source (Program)

/-! ## One record -/

namespace Source.Program

/-- Asks for `n` bytes of the record at `offset`; fewer mean that the log ends inside it. -/
def demand (n offset : Nat) : Program (Except StoreError Bytes) :=
  .ask n fun
    | .error cause => .done (.error (.io cause))
    | .ok got =>
      if got.length < n then .done (.error (.corruption offset (.cutShort n got.length)))
      else .done (.ok got)

/-- Asks for the bytes of the record at `offset` after its key length. -/
def demandRest (keyLength : UInt8) (offset : Nat) : Program (Except StoreError Bytes) :=
  (demand (keyLength.toNat + Layout.valueLengthWidth) offset).bind fun
    | .error error => .done (.error error)
    | .ok upToValue =>
      let valueLength := LittleEndian.value (upToValue.drop keyLength.toNat)
      if Layout.maxValueSize < valueLength then
        .done (.error (.corruption offset (.valueTooLong valueLength)))
      else
        (demand (valueLength + Layout.checksumWidth) offset).bind fun
          | .error error => .done (.error error)
          | .ok fromValue => .done (.ok (upToValue ++ fromValue))

/-- Asks for the bytes of the record at `offset`; there are none at the end of the log. -/
def demandRecord (offset : Nat) : Program (Except StoreError (Option Bytes)) :=
  .ask Layout.keyLengthWidth fun
    | .error cause => .done (.error (.io cause))
    | .ok [] => .done (.ok none)
    | .ok (keyLength :: _) =>
      (demandRest keyLength offset).bind fun
        | .error error => .done (.error error)
        | .ok bytes => .done (.ok (some (keyLength :: bytes)))

theorem run_demand (n offset : Nat) (source : Source) :
    (demand n offset).run Source.take source = Scanner.demand n offset source := by
  rw [demand, run, Scanner.demand]
  cases source.take n with
  | mk answer rest =>
    cases answer with
    | error cause => rfl
    | ok got =>
      dsimp only [run]
      split <;> rfl

theorem run_demandRest (keyLength : UInt8) (offset : Nat) (source : Source) :
    (demandRest keyLength offset).run Source.take source =
      Scanner.demandRest keyLength offset source := by
  rw [demandRest, run_bind, run_demand, Scanner.demandRest]
  cases Scanner.demand (keyLength.toNat + Layout.valueLengthWidth) offset source with
  | mk answer rest =>
    cases answer with
    | error error => rfl
    | ok upToValue =>
      dsimp only
      split
      · rfl
      · rw [run_bind, run_demand]
        generalize Scanner.demand _ offset rest = second
        obtain ⟨error | fromValue, rest'⟩ := second
        · rfl
        · rfl

theorem run_demandRecord (offset : Nat) (source : Source) :
    (demandRecord offset).run Source.take source = Scanner.demandRecord offset source := by
  rw [demandRecord, run, Scanner.demandRecord]
  generalize source.take Layout.keyLengthWidth = first
  obtain ⟨cause | got, rest⟩ := first
  · rfl
  cases got with
  | nil => rfl
  | cons keyLength more =>
    dsimp only
    rw [run_bind, run_demandRest]
    generalize Scanner.demandRest keyLength offset rest = second
    obtain ⟨error | bytes, rest'⟩ := second
    · rfl
    · rfl

end Source.Program

/-! ## Scans and replays -/

/-- A scan, without the source that it reads. -/
structure Cursor where
  /-- The offset of the next record. -/
  offset : Nat
  /-- A call of `next` has reported a fault. -/
  failed : Bool

namespace Cursor

/-- A scan from the beginning. -/
def start : Cursor := ⟨0, false⟩

/-- The scan of a source. -/
def on (cursor : Cursor) (source : Source) : Scanner := ⟨source, cursor.offset, cursor.failed⟩

/-- Asks for the next record. -/
def nextRecord (cursor : Cursor) : Program (Except StoreError (Option Scanned) × Cursor) :=
  (Program.demandRecord cursor.offset).bind fun
    | .error error => .done (.error error, cursor)
    | .ok none => .done (.ok none, cursor)
    | .ok (some bytes) =>
      match Record.decode cursor.offset bytes with
      | .error error => .done (.error error, cursor)
      | .ok record =>
        .done (.ok (some ⟨⟨cursor.offset, bytes.length⟩, record⟩),
          { cursor with offset := cursor.offset + bytes.length })

/-- Asks for the next record on behalf of a caller who stops at the first fault. -/
def next (cursor : Cursor) : Program (Except StoreError (Option Scanned) × Cursor) :=
  if cursor.failed then .done (.ok none, cursor)
  else
    cursor.nextRecord.bind fun
      | (.error error, after) => .done (.error error, { after with failed := true })
      | (.ok scanned, after) => .done (.ok scanned, after)

/-- Answers one call. -/
def answer (cursor : Cursor) : Scanner.Call → Program (Except StoreError (Option Scanned) × Cursor)
  | .nextRecord => cursor.nextRecord
  | .next => cursor.next

/-- Answers a run of calls. -/
def run (cursor : Cursor) : List Scanner.Call → Program (List Scanner.Step)
  | [] => .done []
  | call :: calls =>
    (cursor.answer call).bind fun (result, after) =>
      (after.run calls).bind fun steps => .done (⟨result, after.offset⟩ :: steps)

/-- Goes on with a replay that has met some records and left an index of them, for `limit` calls at
most. -/
def resume (cursor : Cursor) (index : Index) (records superseded : Nat) :
    Nat → Program (Option (Except StoreError Replay))
  | 0 => .done none
  | limit + 1 =>
    cursor.nextRecord.bind fun
      | (.error error, _) => .done (some (.error error))
      | (.ok none, after) =>
        .done (some (.ok ⟨index, ⟨records, index.size, superseded, after.offset⟩⟩))
      | (.ok (some scanned), after) =>
        let (older, index) := index.replace scanned.record.key scanned.span
        after.resume index (records + 1) (superseded + if older.isSome then 1 else 0) limit

/-- A replay from the beginning, for `limit` calls at most. -/
def replay (limit : Nat) : Program (Option (Except StoreError Replay)) :=
  start.resume .empty 0 0 limit

/-! ## On a source -/

theorem run_nextRecord (cursor : Cursor) (source : Source) :
    ∃ result after rest, cursor.nextRecord.run Source.take source = ((result, after), rest) ∧
      (cursor.on source).nextRecord = (result, after.on rest) := by
  rw [nextRecord, Program.run_bind, Program.run_demandRecord, Scanner.nextRecord]
  dsimp only [on]
  generalize Scanner.demandRecord cursor.offset source = first
  obtain ⟨answer, rest⟩ := first
  match answer with
  | .error error => exact ⟨_, _, _, rfl, rfl⟩
  | .ok none => exact ⟨_, _, _, rfl, rfl⟩
  | .ok (some bytes) =>
    dsimp only
    cases Record.decode cursor.offset bytes with
    | error error => exact ⟨_, _, _, rfl, rfl⟩
    | ok record => exact ⟨_, _, _, rfl, rfl⟩

theorem run_answer (cursor : Cursor) (call : Scanner.Call) (source : Source) :
    ∃ result after rest, (cursor.answer call).run Source.take source = ((result, after), rest) ∧
      (cursor.on source).answer call = (result, after.on rest) := by
  obtain ⟨result, after, rest, hrun, hnext⟩ := cursor.run_nextRecord source
  cases call with
  | nextRecord => exact ⟨result, after, rest, hrun, hnext⟩
  | next =>
    rw [answer, Scanner.answer, next, Scanner.next, hnext]
    by_cases hfailed : cursor.failed = true
    · rw [if_pos hfailed, if_pos (show (cursor.on source).failed = true from hfailed)]
      exact ⟨_, _, _, rfl, rfl⟩
    · rw [if_neg hfailed, if_neg (show ¬(cursor.on source).failed = true from hfailed),
        Program.run_bind, hrun]
      cases result with
      | error error => exact ⟨_, _, _, rfl, rfl⟩
      | ok scanned => exact ⟨_, _, _, rfl, rfl⟩

/-- **The program of a run of calls**, run on a source, is the run of the scanner. -/
theorem run_run (cursor : Cursor) (calls : List Scanner.Call) (source : Source) :
    ((cursor.run calls).run Source.take source).1 = (cursor.on source).run calls := by
  induction calls generalizing cursor source with
  | nil => rfl
  | cons call calls ih =>
    obtain ⟨result, after, rest, hrun, hanswer⟩ := cursor.run_answer call source
    rw [run, Program.run_bind, hrun, Scanner.run, hanswer]
    dsimp only
    rw [Program.run_bind, Program.run, ih]
    rfl

/-- **The program of a replay**, run on a source, is the replay, if it may make a call for each byte
and one more. -/
theorem run_resume {cursor : Cursor} {limit : Nat} {source : Source}
    (hlimit : source.bytesLeft < limit) (index : Index) (records superseded : Nat) :
    ((cursor.resume index records superseded limit).run Source.take source).1 =
      some (Replay.resume (cursor.on source) index records superseded) := by
  induction limit generalizing cursor source index records superseded with
  | zero => exact absurd hlimit (Nat.not_lt_zero _)
  | succ limit ih =>
    obtain ⟨result, after, rest, hrun, hnext⟩ := cursor.run_nextRecord source
    rw [resume, Program.run_bind, hrun, Replay.resume_eq, hnext]
    match result with
    | .error error => rfl
    | .ok none => rfl
    | .ok (some scanned) =>
      -- the record has used up a byte at least, so that the calls that are left are enough
      have hless : rest.bytesLeft < source.bytesLeft := Scanner.bytesLeft_nextRecord hnext
      exact ih (Nat.lt_of_lt_of_le hless (Nat.le_of_lt_succ hlimit)) _ _ _

theorem run_replay {limit : Nat} {source : Source} (hlimit : source.bytesLeft < limit) :
    ((replay limit).run Source.take source).1 = some (Replay.ofSource source) :=
  run_resume hlimit _ _ _

end Cursor

/-! ## However the bytes arrive -/

/-- **It does not matter how the bytes arrive.**  Let a source deliver some bytes in any pieces,
with any interruptions among them, and then end.

* Every run of calls of a scanner, also after faults and after the end, has the results, and after
  each call the offset, that it has if all the bytes come in one piece.
* A replay comes to the same end as a replay of the bytes.
* The same holds if the source is read in a loop through a buffer of any size, for a replay that may
  make a call for each byte and one more. -/
theorem Scanner.delivery_does_not_matter {source : Source} (h : source.steady = true) :
    (∀ calls, (start source).run calls = (start (.ofBytes source.bytes)).run calls) ∧
    Replay.ofSource source = Replay.ofBytes source.bytes ∧
    ∀ capacity,
      (∀ calls, ((Cursor.start.run calls).run (Buffered.readFull capacity) ⟨[], source⟩).1 =
        (start (.ofBytes source.bytes)).run calls) ∧
      ∀ limit, source.bytesLeft < limit →
        ((Cursor.replay limit).run (Buffered.readFull capacity) ⟨[], source⟩).1 =
          some (Replay.ofBytes source.bytes) := by
  have halike : source.Alike (.ofBytes source.bytes) :=
    ⟨h, Source.steady_ofBytes _, (Source.bytes_ofBytes _).symm⟩
  have hrun := run_alike (alike_start halike)
  have hreplay := Replay.ofSource_alike halike
  refine ⟨hrun, hreplay, fun capacity => ⟨fun calls => ?_, fun limit hlimit => ?_⟩⟩
  · rw [(Program.run_buffered capacity _ rfl).1, Cursor.run_run]
    exact hrun calls
  · rw [(Program.run_buffered capacity _ rfl).1, Cursor.run_replay hlimit, hreplay]
    rfl

/-! ## Bytes in pieces -/

/-- A record and one byte behind it.  The pieces end inside the fields of the record, one piece has
no bytes, and there are interruptions in front of the pieces. -/
def Source.scattered : Source :=
  [.interruption, .data (.written [1]), .interruption, .data (.written [0x61, 1, 0]),
    .data (.written []), .interruption, .interruption,
    .data (.written [0, 0, 0x31, 0x23, 0x48, 0xe1, 0x6c, 1])]

/-- A scan of the pieces hands out the record and reports the byte, as it does if they come in one
piece, and so it does through a buffer for two bytes; and a replay fails. -/
theorem Scanner.delivery_does_not_matter_scattered :
    Source.scattered.steady = true ∧
      ((start .scattered).run [.next, .nextRecord, .next]).map (·.result.isOk) =
        [true, false, true] ∧
      ((Cursor.start.run [.next, .nextRecord, .next]).run (Buffered.readFull 2)
          ⟨[], .scattered⟩).1 =
        (start (.ofBytes Source.scattered.bytes)).run [.next, .nextRecord, .next] ∧
      Source.scattered.bytesLeft < 13 ∧
      ((Cursor.replay 13).run (Buffered.readFull 2) ⟨[], .scattered⟩).1 =
        some (Replay.ofBytes Source.scattered.bytes) := by
  have hsteady : Source.scattered.steady = true := rfl
  have hlimit : Source.scattered.bytesLeft < 13 := by decide +kernel
  have hresults : ((start (.ofBytes Source.scattered.bytes)).run [.next, .nextRecord, .next]).map
      (·.result.isOk) = [true, false, true] := by decide +kernel
  obtain ⟨hrun, -, hbuffered⟩ := delivery_does_not_matter hsteady
  obtain ⟨hruns, hreplays⟩ := hbuffered 2
  exact ⟨hsteady, by rw [hrun, hresults], hruns _, hlimit, hreplays 13 hlimit⟩

end KeyLog
