import KeyLog.Proofs.Source.Ending

/-!
# How far a scan gets

Whoever scans a log may ask with `nextRecord` or with `next`, and asks again after each answer.  As
long as no call has reported a fault the scan stands *behind* a log: what was delivered are the
bytes of its records, and the offset is their number.

* `Scanner.Behind.nextRecord`: from there a call goes behind one more record, reports the end, or
  reports a fault.
* `Scanner.behind_after`: so any run of calls without a fault ends behind a log.
* `Scanner.Behind.answer_eq_some_iff`: and the next call hands out the record that the next bytes
  begin with, whichever way it is asked.
-/

namespace KeyLog
namespace Scanner

/-- The scan after a run of calls. -/
def after (scanner : Scanner) : List Call → Scanner
  | [] => scanner
  | call :: calls => (scanner.answer call).2.after calls

/-- The scan has gone through a log with which the data begin, and stands behind it. -/
structure Behind (scanner : Scanner) (data : Bytes) (log : Log) : Prop where
  steady : scanner.source.steady = true
  bytes : data = log.bytes ++ scanner.source.bytes
  offset : scanner.offset = log.bytes.length
  sound : scanner.failed = false

variable {scanner : Scanner} {data : Bytes} {log : Log}

/-- A scan begins behind the empty log. -/
theorem behind_start {source : Source} (h : source.steady = true) :
    (start source).Behind source.bytes [] :=
  ⟨h, rfl, rfl, rfl⟩

/-! ## One call -/

/-- **A call from behind a log** goes behind one more record, reports the end and stays, or reports
a fault where no record begins. -/
theorem Behind.nextRecord (h : scanner.Behind data log) :
    (∃ record rest after, scanner.source.bytes = record.encode ++ rest ∧
      scanner.nextRecord = (.ok (some ⟨⟨log.bytes.length, record.size⟩, record⟩), after) ∧
        after.Behind data (log ++ [record])) ∨
    (∃ after, scanner.source.bytes = [] ∧ scanner.nextRecord = (.ok none, after) ∧
      after.Behind data log) ∨
    (∃ error after, Log.Stuck scanner.source.bytes ∧
      scanner.nextRecord = (.error error, after)) := by
  have hdelivers := Source.delivers_of_steady h.steady
  by_cases hstuck : Log.Stuck scanner.source.bytes
  · by_cases hnil : scanner.source.bytes = []
    · obtain ⟨after, hnext, hafter⟩ := nextRecord_of_nil (hnil ▸ hdelivers)
      obtain ⟨hsteady, hbytes⟩ := (hafter rfl).steady
      refine .inr (.inl ⟨_, hnil, hnext, hsteady, ?_, h.offset, h.sound⟩)
      rw [hbytes, ← hnil]
      exact h.bytes
    · obtain ⟨reason, -, -, after, -, -, -, hnext⟩ := nextRecord_of_stuck hdelivers hstuck hnil
      exact .inr (.inr ⟨_, _, hstuck, hnext⟩)
  · unfold Log.Stuck at hstuck
    push Not at hstuck
    obtain ⟨record, rest, hbytes⟩ := hstuck
    obtain ⟨after, hnext, hafter⟩ := nextRecord_of_encode (hbytes ▸ hdelivers)
    obtain ⟨hsteady, hrest⟩ := hafter.steady
    rw [h.offset] at hnext
    refine .inl ⟨record, rest, _, hbytes, hnext, hsteady, ?_, ?_, h.sound⟩
    · rw [Log.bytes_append, Log.bytes_singleton, hrest, List.append_assoc, ← hbytes]
      exact h.bytes
    · rw [Log.bytes_append, Log.bytes_singleton, List.length_append, Record.length_encode]

/-- Both ways to ask give the same answer as long as no fault was reported. -/
theorem answer_fst (h : scanner.failed = false) (call : Call) :
    (scanner.answer call).1 = scanner.nextRecord.1 := by
  cases call with
  | nextRecord => rfl
  | next =>
    simp only [answer, next, h, Bool.false_eq_true, if_false]
    split <;> simp_all

/-- And they leave the same, unless they report a fault. -/
theorem answer_of_nextRecord (h : scanner.failed = false) {found : Option Scanned}
    {after : Scanner} (hnext : scanner.nextRecord = (.ok found, after)) (call : Call) :
    scanner.answer call = (.ok found, after) := by
  cases call with
  | nextRecord => exact hnext
  | next => simp only [answer, next, h, hnext, Bool.false_eq_true, if_false]

/-- **Whichever way it is asked, the next call hands out the record that the next bytes begin
with**, with the place behind the log, and it hands out no other. -/
theorem Behind.answer_eq_some_iff (h : scanner.Behind data log) (call : Call)
    (scanned : Scanned) :
    (scanner.answer call).1 = .ok (some scanned) ↔
      scanned.span = ⟨log.bytes.length, scanned.record.size⟩ ∧
        ∃ rest, data = log.bytes ++ scanned.record.encode ++ rest := by
  rw [answer_fst h.sound]
  rcases h.nextRecord with
    ⟨record, rest, after, hbytes, hnext, -⟩ | ⟨after, hbytes, hnext, -⟩ |
      ⟨error, after, hstuck, hnext⟩
  · rw [hnext, Except.ok.injEq, Option.some.injEq]
    constructor
    · rintro rfl
      exact ⟨rfl, rest, by rw [h.bytes, hbytes, List.append_assoc]⟩
    · rintro ⟨hspan, rest', hdata⟩
      rw [h.bytes, hbytes, List.append_assoc] at hdata
      obtain ⟨hrecord, -⟩ := Record.encode_append_inj (List.append_cancel_left hdata)
      obtain ⟨span, other⟩ := scanned
      dsimp only at hspan hrecord
      rw [hspan, hrecord]
  · rw [hnext]
    refine iff_of_false (by simp) ?_
    rintro ⟨-, rest, hdata⟩
    rw [h.bytes, hbytes, List.append_assoc] at hdata
    exact Log.stuck_nil _ _ (List.append_cancel_left hdata)
  · rw [hnext]
    refine iff_of_false (by simp) ?_
    rintro ⟨-, rest, hdata⟩
    rw [h.bytes, List.append_assoc] at hdata
    exact hstuck _ _ (List.append_cancel_left hdata)

/-! ## Runs of calls -/

/-- **A run of calls without a fault ends behind a log.** -/
theorem Behind.after (h : scanner.Behind data log) {calls : List Call}
    (hsucceeds : ∀ step ∈ scanner.run calls, step.result.isOk = true) :
    ∃ more : Log, (scanner.after calls).Behind data (log ++ more) := by
  induction calls generalizing scanner log with
  | nil => exact ⟨[], by rwa [List.append_nil]⟩
  | cons call calls ih =>
    have hfirst : (scanner.answer call).1.isOk = true := hsucceeds _ List.mem_cons_self
    have hlater : ∀ step ∈ (scanner.answer call).2.run calls, step.result.isOk = true :=
      fun step hstep => hsucceeds step (List.mem_cons_of_mem _ hstep)
    rw [answer_fst h.sound] at hfirst
    rcases h.nextRecord with
      ⟨record, rest, after, -, hnext, hbehind⟩ | ⟨after, -, hnext, hbehind⟩ |
        ⟨error, after, -, hnext⟩
    · rw [answer_of_nextRecord h.sound hnext] at hlater
      obtain ⟨more, hmore⟩ := ih hbehind hlater
      refine ⟨record :: more, ?_⟩
      rw [Scanner.after, answer_of_nextRecord h.sound hnext, List.append_cons]
      exact hmore
    · rw [answer_of_nextRecord h.sound hnext] at hlater
      rw [Scanner.after, answer_of_nextRecord h.sound hnext]
      exact ih hbehind hlater
    · rw [hnext] at hfirst
      cases hfirst

/-- The same from the beginning of a source. -/
theorem behind_after {source : Source} (h : source.steady = true) {calls : List Call}
    (hsucceeds : ∀ step ∈ (start source).run calls, step.result.isOk = true) :
    ∃ log : Log, ((start source).after calls).Behind source.bytes log :=
  (behind_start h).after hsucceeds

end Scanner
end KeyLog
