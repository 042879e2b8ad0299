import KeyLog.Proofs.Log.Scan

/-!
# A scan after faults

`nextRecord` may be called again when it has reported a fault.  What it had taken from the source by
then is not put back, and the offset stays where it was.  So from then on the scan stands further in
the data than its offset says, by all that was lost to faults, and every record that it still hands
out is said to lie that much in front of its real place.  Whoever asks with `next` alone is not
misled: after the first fault he gets nothing.

* `Scanner.Strayed`: how much further a scan stands than its offset says.
* `Scanner.Strayed.nextRecord`: what one call does to that.
* `Scanner.Strayed.after`: hence what a run of calls does to it.
* `Scanner.faults_lead_astray`: offsets and places in any run of calls.
-/

namespace KeyLog

/-- The record stands in the data at the place where it is said to have been found. -/
def Scanned.StandsIn (scanned : Scanned) (data : Bytes) : Prop :=
  (data.drop scanned.span.offset).take scanned.span.length = scanned.record.encode

instance (scanned : Scanned) (data : Bytes) : Decidable (scanned.StandsIn data) :=
  inferInstanceAs (Decidable (_ = _))

namespace Scanner

/-- The number of bytes that a run of calls takes from the source. -/
def consumed (scanner : Scanner) (calls : List Call) : Nat :=
  scanner.source.bytesLeft - (scanner.after calls).source.bytesLeft

/-- The number of bytes among them that were taken by calls that reported a fault. -/
def lost (scanner : Scanner) : List Call → Nat
  | [] => 0
  | call :: calls =>
    (if (scanner.answer call).1.isOk then 0 else scanner.consumed [call]) +
      (scanner.answer call).2.lost calls

/-- The scan of some data stands further than its offset says, by a number of bytes. -/
structure Strayed (scanner : Scanner) (data : Bytes) (gap : Nat) : Prop where
  within : scanner.offset + gap ≤ data.length
  delivers : scanner.source.Delivers (data.drop (scanner.offset + gap)) none

variable {scanner : Scanner} {data : Bytes} {gap : Nat}

theorem strayed_start {source : Source} (h : source.steady = true) :
    (start source).Strayed source.bytes 0 :=
  ⟨Nat.zero_le _, Source.delivers_of_steady h⟩

theorem Strayed.bytesLeft (h : scanner.Strayed data gap) :
    scanner.offset + gap + scanner.source.bytesLeft = data.length := by
  rw [h.delivers.bytesLeft, List.length_drop, Nat.add_sub_of_le h.within]

/-! ## One call -/

/-- A call that hands out a record moves the offset on by its bytes, and the scan has strayed no
further. -/
theorem Strayed.of_encode (h : scanner.Strayed data gap) {record : Record} {rest : Bytes}
    {after : Source} (hfront : data.drop (scanner.offset + gap) = record.encode ++ rest)
    (hafter : after.Delivers rest none) :
    Strayed { scanner with source := after, offset := scanner.offset + record.size } data gap := by
  have hlength := congrArg List.length hfront
  rw [List.length_drop, List.length_append, record.length_encode] at hlength
  have hrest : data.drop (scanner.offset + record.size + gap) = rest := by
    rw [Nat.add_right_comm, ← List.drop_drop, hfront, List.drop_left' record.length_encode]
  refine ⟨?_, ?_⟩
  · have := h.within
    have := record.size_pos
    dsimp only
    omega
  · rw [hrest]
    exact hafter

/-- A call that has taken some bytes without moving the offset on has strayed by them. -/
theorem Strayed.of_taken (h : scanner.Strayed data gap) {taken rest : Bytes} {after : Source}
    (hfront : data.drop (scanner.offset + gap) = taken ++ rest) (hafter : after.Delivers rest none) :
    Strayed { scanner with source := after } data (gap + taken.length) := by
  have hlength := congrArg List.length hfront
  rw [List.length_drop, List.length_append] at hlength
  have hrest : data.drop (scanner.offset + (gap + taken.length)) = rest := by
    rw [← Nat.add_assoc, ← List.drop_drop, hfront, List.drop_left]
  refine ⟨?_, ?_⟩
  · have := h.within
    dsimp only
    omega
  · rw [hrest]
    exact hafter

/-- **A call of `nextRecord`** hands out the record that stands where the scan really is, and says
that it lies at the offset; or it finds the end; or it reports a fault and has strayed further, by
one byte at least. -/
theorem Strayed.nextRecord (h : scanner.Strayed data gap) :
    (∃ record after, scanner.nextRecord =
        (.ok (some ⟨⟨scanner.offset, record.size⟩, record⟩), after) ∧
      (data.drop (scanner.offset + gap)).take record.size = record.encode ∧
        after.Strayed data gap) ∨
    (∃ after, scanner.nextRecord = (.ok none, after) ∧ after.Strayed data gap) ∨
    ∃ error after more, scanner.nextRecord = (.error error, after) ∧
      after.offset = scanner.offset ∧ 0 < more ∧ after.Strayed data (gap + more) := by
  by_cases hstuck : Log.Stuck (data.drop (scanner.offset + gap))
  · by_cases hnil : data.drop (scanner.offset + gap) = []
    · obtain ⟨after, hnext, hafter⟩ := nextRecord_of_nil (hnil ▸ h.delivers)
      exact .inr (.inl ⟨_, hnext, h.within, hnil.symm ▸ hafter rfl⟩)
    · obtain ⟨reason, taken, rest, after, hfront, hsome, hafter, hnext⟩ :=
        nextRecord_of_stuck h.delivers hstuck hnil
      exact .inr (.inr ⟨_, _, taken.length, hnext, rfl, List.length_pos_iff.2 hsome,
        h.of_taken hfront hafter⟩)
  · unfold Log.Stuck at hstuck
    push Not at hstuck
    obtain ⟨record, rest, hfront⟩ := hstuck
    obtain ⟨after, hnext, hafter⟩ := nextRecord_of_encode (hfront ▸ h.delivers)
    refine .inl ⟨record, _, hnext, ?_, h.of_encode hfront hafter⟩
    rw [hfront, List.take_left' record.length_encode]

/-- Either way to ask is a call of `nextRecord`, or comes to nothing because a fault was reported. -/
theorem answer_cases (scanner : Scanner) (call : Call) :
    scanner.answer call = (.ok none, scanner) ∨
      ∃ failed, scanner.answer call =
        (scanner.nextRecord.1, { scanner.nextRecord.2 with failed }) := by
  cases call with
  | nextRecord => exact .inr ⟨scanner.nextRecord.2.failed, rfl⟩
  | next =>
    rw [answer, next]
    split
    · exact .inl rfl
    · right
      split
      next error after hnext => exact ⟨true, by rw [hnext]⟩
      next found after hnext => exact ⟨after.failed, by rw [hnext]⟩

/-- **A record that is handed out** stands where the scan really is, and is said to lie at the
offset. -/
theorem Strayed.answer_eq_some (h : scanner.Strayed data gap) {call : Call} {scanned : Scanned}
    (hanswer : (scanner.answer call).1 = .ok (some scanned)) :
    scanned.span = ⟨scanner.offset, scanned.record.size⟩ ∧
      (data.drop (scanner.offset + gap)).take scanned.record.size = scanned.record.encode := by
  rcases scanner.answer_cases call with hnone | ⟨failed, hcall⟩
  · rw [hnone] at hanswer
    cases hanswer
  · rw [hcall] at hanswer
    rcases h.nextRecord with
      ⟨record, after, hnext, hrecord, -⟩ | ⟨after, hnext, -⟩ | ⟨error, after, more, hnext, -⟩
    · rw [hnext] at hanswer
      cases hanswer
      exact ⟨rfl, hrecord⟩
    · rw [hnext] at hanswer
      cases hanswer
    · rw [hnext] at hanswer
      cases hanswer

/-- **A call** makes the scan stray if it reports a fault, and then by what it has taken, which is
something. -/
theorem Strayed.answer (h : scanner.Strayed data gap) (call : Call) :
    ((scanner.answer call).1.isOk = true ∧ (scanner.answer call).2.Strayed data gap) ∨
      ((scanner.answer call).1.isOk = false ∧ 0 < scanner.consumed [call] ∧
        (scanner.answer call).2.Strayed data (gap + scanner.consumed [call])) := by
  have hleft := h.bytesLeft
  rcases scanner.answer_cases call with hnone | ⟨failed, hcall⟩
  · rw [hnone]
    exact .inl ⟨rfl, h⟩
  · rcases h.nextRecord with
      ⟨record, after, hnext, -, hafter⟩ | ⟨after, hnext, hafter⟩ |
        ⟨error, after, more, hnext, hoffset, hmore, hafter⟩
    · rw [hcall, hnext]
      exact .inl ⟨rfl, hafter.within, hafter.delivers⟩
    · rw [hcall, hnext]
      exact .inl ⟨rfl, hafter.within, hafter.delivers⟩
    · -- the offset has not moved, so that what was taken is what the scan has strayed
      have hconsumed : scanner.consumed [call] = more := by
        have hleft' := hafter.bytesLeft
        rw [hoffset] at hleft'
        simp only [consumed, Scanner.after, hcall, hnext]
        omega
      rw [hconsumed, hcall, hnext]
      exact .inr ⟨rfl, hmore, hafter.within, hafter.delivers⟩

/-! ## Runs of calls -/

/-- **A run of calls** makes the scan stray by what is lost to faults. -/
theorem Strayed.after (h : scanner.Strayed data gap) (calls : List Call) :
    (scanner.after calls).Strayed data (gap + scanner.lost calls) := by
  induction calls generalizing scanner gap with
  | nil => exact h
  | cons call calls ih =>
    rw [Scanner.after, lost]
    rcases h.answer call with ⟨hok, hafter⟩ | ⟨hfault, -, hafter⟩
    · rw [if_pos hok, Nat.zero_add]
      exact ih hafter
    · rw [if_neg (by rw [hfault]; exact Bool.false_ne_true), ← Nat.add_assoc]
      exact ih hafter

/-- Nothing is lost if and only if no fault is reported. -/
theorem Strayed.lost_eq_zero_iff (h : scanner.Strayed data gap) {calls : List Call} :
    scanner.lost calls = 0 ↔ ∀ step ∈ scanner.run calls, step.result.isOk = true := by
  induction calls generalizing scanner gap with
  | nil => exact iff_of_true rfl fun step hstep => nomatch hstep
  | cons call calls ih =>
    rw [lost, run, List.forall_mem_cons]
    rcases h.answer call with ⟨hok, hafter⟩ | ⟨hfault, hsome, -⟩
    · rw [if_pos hok, Nat.zero_add, ih hafter]
      exact (and_iff_right hok).symm
    · rw [if_neg (by rw [hfault]; exact Bool.false_ne_true)]
      refine iff_of_false (by omega) fun hall => ?_
      rw [hfault] at hall
      exact absurd hall.1 Bool.false_ne_true

/-- The offset says how much was consumed, less what was lost to faults. -/
theorem Strayed.offset_add_lost (h : scanner.Strayed data 0) (hstart : scanner.offset = 0)
    (calls : List Call) :
    (scanner.after calls).offset + scanner.lost calls = scanner.consumed calls := by
  have hleft := h.bytesLeft
  have hleft' := (h.after calls).bytesLeft
  rw [consumed]
  omega

/-! ## Asking with `next` alone -/

/-- After a fault that `next` has reported, it gives nothing for ever. -/
theorem after_of_failed (h : scanner.failed = true) {calls : List Call}
    (hnext : ∀ call ∈ calls, call = .next) : scanner.after calls = scanner := by
  induction calls with
  | nil => rfl
  | cons call calls ih =>
    obtain ⟨rfl, hlater⟩ := List.forall_mem_cons.1 hnext
    have hanswer : scanner.answer .next = (.ok none, scanner) := by
      rw [answer, next, if_pos h]
    rw [Scanner.after, hanswer]
    exact ih hlater

/-- Whoever asks with `next` alone has lost nothing, or has come to the first fault. -/
theorem lost_eq_zero_or_failed (scanner : Scanner) {calls : List Call}
    (hnext : ∀ call ∈ calls, call = .next) :
    scanner.lost calls = 0 ∨ (scanner.after calls).failed = true := by
  induction calls generalizing scanner with
  | nil => exact .inl rfl
  | cons call calls ih =>
    obtain ⟨rfl, hlater⟩ := List.forall_mem_cons.1 hnext
    rw [lost, Scanner.after]
    cases hresult : (scanner.answer .next).1 with
    | ok found =>
      rw [Except.isOk, Except.toBool, if_pos rfl, Nat.zero_add]
      exact ih _ hlater
    | error error =>
      -- the first fault, whatever was lost before it
      have hfailed : (scanner.answer .next).2.failed = true := by
        rw [answer, next] at hresult ⊢
        split at hresult
        · cases hresult
        next hsound =>
          rw [if_neg hsound]
          split at hresult
          next => rfl
          next => cases hresult
      exact .inr ((after_of_failed hfailed hlater).symm ▸ hfailed)

/-! ## Offsets and places -/

/-- **What faults do to offsets and places.**  Let a source deliver some data, in any pieces and with
any interruptions, and let a scan of it answer a run of calls, in any mix and also after faults.

* The offset is the number of bytes consumed so far, less those that were lost to faults; and
  nothing is lost if and only if no call has reported a fault.
* A record that the next call hands out is said to lie at the offset.  It really begins behind all
  the bytes consumed so far, so that it stands where it is said to if no call has reported a fault.
* Whoever asks with `next` alone is never told a wrong place. -/
theorem faults_lead_astray {source : Source} (h : source.steady = true) (calls : List Call) :
    ((start source).after calls).offset + (start source).lost calls =
      (start source).consumed calls ∧
    ((start source).lost calls = 0 ↔
      ∀ step ∈ (start source).run calls, step.result.isOk = true) ∧
    (∀ call scanned, (((start source).after calls).answer call).1 = .ok (some scanned) →
      scanned.span = ⟨((start source).after calls).offset, scanned.record.size⟩ ∧
      Scanned.StandsIn ⟨⟨(start source).consumed calls, scanned.record.size⟩, scanned.record⟩
        source.bytes ∧
      ((start source).lost calls = 0 → scanned.StandsIn source.bytes)) ∧
    ((∀ call ∈ calls, call = .next) →
      ∀ scanned, (((start source).after calls).answer .next).1 = .ok (some scanned) →
        scanned.StandsIn source.bytes) := by
  have hoffset := (strayed_start h).offset_add_lost rfl calls
  have hafter := (strayed_start h).after calls
  rw [Nat.zero_add] at hafter
  have hplace : (start source).lost calls = 0 →
      ∀ call scanned, (((start source).after calls).answer call).1 = .ok (some scanned) →
        scanned.StandsIn source.bytes := by
    intro hnone call scanned hanswer
    obtain ⟨hspan, hrecord⟩ := hafter.answer_eq_some hanswer
    rw [hnone, Nat.add_zero] at hrecord
    rw [Scanned.StandsIn, hspan]
    exact hrecord
  refine ⟨hoffset, (strayed_start h).lost_eq_zero_iff, fun call scanned hanswer => ?_,
    fun hnext scanned hanswer => ?_⟩
  · obtain ⟨hspan, hrecord⟩ := hafter.answer_eq_some hanswer
    rw [hoffset] at hrecord
    exact ⟨hspan, hrecord, fun hnone => hplace hnone call scanned hanswer⟩
  · rcases (start source).lost_eq_zero_or_failed hnext with hnone | hfailed
    · exact hplace hnone .next scanned hanswer
    · rw [answer, next, if_pos hfailed] at hanswer
      cases hanswer

/-! ## A record behind an altered one -/

theorem eq_ok_of_toOption {result : Except StoreError (Option Scanned)} {found : Option Scanned}
    (h : result.toOption = some found) : result = .ok found := by
  cases result with
  | error error => cases h
  | ok other => rw [Option.some.inj h]

/-- A record with another key than it was written with, and a whole record behind it. -/
def behindAltered : Bytes :=
  [1, 0x7a, 1, 0, 0, 0, 0x31, 0x23, 0x48, 0xe1, 0x6c] ++
    [1, 0x62, 1, 0, 0, 0, 0x32, 0x5a, 0x4a, 0xc5, 0xde]

/-- The call that reports the altered record loses its 11 bytes, and the second record, which the
next call hands out, stands behind them; `next` gives nothing then. -/
theorem faults_lead_astray_behindAltered :
    (Source.ofBytes behindAltered).steady = true ∧
      (start (.ofBytes behindAltered)).lost [.nextRecord] = 11 ∧
      (∃ scanned,
        (((start (.ofBytes behindAltered)).after [.nextRecord]).answer .next).1 =
            .ok (some scanned) ∧
          Scanned.StandsIn ⟨⟨11, scanned.record.size⟩, scanned.record⟩ behindAltered) ∧
      (((start (.ofBytes behindAltered)).after [.next]).answer .next).1 = .ok none := by
  obtain ⟨hoffset, -, hplaces, -⟩ :=
    faults_lead_astray (Source.steady_ofBytes behindAltered) [.nextRecord]
  have hconsumed : (start (.ofBytes behindAltered)).consumed [.nextRecord] = 11 := by
    decide +kernel
  have hstays : ((start (.ofBytes behindAltered)).after [.nextRecord]).offset = 0 := by
    decide +kernel
  obtain ⟨scanned, hscanned⟩ : ∃ scanned,
      (((start (.ofBytes behindAltered)).after [.nextRecord]).answer .next).1 =
        .ok (some scanned) := by
    refine ⟨⟨⟨0, 11⟩, (Record.ofTexts? "b" "2").get (by decide +kernel)⟩, eq_ok_of_toOption ?_⟩
    decide +kernel
  rw [hconsumed] at hplaces
  rw [hconsumed, hstays, Nat.zero_add] at hoffset
  rw [Source.bytes_ofBytes] at hplaces
  exact ⟨Source.steady_ofBytes _, hoffset, ⟨scanned, hscanned, (hplaces _ _ hscanned).2.1⟩,
    eq_ok_of_toOption (by decide +kernel)⟩

/-- **The offset is not the number of bytes consumed**, after the fault, and the second record does
not stand where it is said to have been found. -/
theorem offset_is_not_consumed_after_fault :
    ((start (.ofBytes behindAltered)).after [.nextRecord]).offset ≠
        (start (.ofBytes behindAltered)).consumed [.nextRecord] ∧
      ∃ scanned,
        (((start (.ofBytes behindAltered)).after [.nextRecord]).answer .nextRecord).1 =
            .ok (some scanned) ∧
          scanned.span = ⟨0, 11⟩ ∧ ¬ scanned.StandsIn behindAltered := by
  refine ⟨by decide +kernel, ⟨⟨0, 11⟩, (Record.ofTexts? "b" "2").get (by decide +kernel)⟩,
    eq_ok_of_toOption ?_, rfl, ?_⟩
  · decide +kernel
  · decide +kernel

end Scanner
end KeyLog
