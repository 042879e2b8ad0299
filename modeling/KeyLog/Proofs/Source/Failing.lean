import KeyLog.Proofs.Log.Replay
import KeyLog.Proofs.Source.Ending
import KeyLog.Proofs.Source.Scan

/-!
# Replaying a source that fails

A source that fails has not ended: the bytes that it would have delivered are unknown, and a log
that seems to stop in the middle of a record need not be damaged.  So a replay that runs into the
failure reports the failure.  It reports damage only where the bytes that were delivered are enough
to know of it, because a length in them is out of bounds, or because a record that is there from
beginning to end does not decode.

* `Scanner.nextRecord_of_fails`: what a call reports behind the log with which the bytes begin.
* `Replay.reports_failure_of_source`: hence what a replay of a failing source reports.
-/

namespace KeyLog

namespace Scanner

/-- **A call on a source that fails**, where no record begins: the failure is reported, unless the
bytes are enough to know of damage, and then the damage is. -/
theorem nextRecord_of_fails {scanner : Scanner} {bytes : Bytes} {cause : SystemError}
    (h : scanner.source.Delivers bytes (some cause)) (hstuck : Log.Stuck bytes) :
    (¬ Log.Spoilt bytes ∧ ∃ after, scanner.nextRecord = (.error (.io cause), after)) ∨
      Log.Spoilt bytes ∧ ∃ reason after,
        scanner.nextRecord = (.error (.corruption scanner.offset reason), after) ∧
          reason.isTruncation = false := by
  rcases hstuck.cases with rfl | hshort | hspoilt
  · obtain ⟨after, hnext, -⟩ := nextRecord_of_nil h
    exact .inl ⟨Log.not_spoilt_nil, _, hnext⟩
  · obtain ⟨needed, found, after, hnext, -⟩ := nextRecord_of_cutShort h hshort
    exact .inl ⟨hshort.not_spoilt, _, hnext⟩
  · obtain ⟨reason, taken, rest, after, -, -, -, hreason, hnext⟩ := nextRecord_of_spoilt h hspoilt
    exact .inr ⟨hspoilt, reason, _, hnext, hreason⟩

end Scanner

namespace Replay

/-- **A source that fails is never taken for a log that ends.**  Let a source deliver some bytes, in
any pieces and with any interruptions, and then fail.  The bytes begin with a log behind which no
record begins.  A replay hands out no index.  It reports the failure, unless what stands behind the
log has a value length out of bounds, or is there from beginning to end and does not decode; then it
reports damage at the end of the log, and never that bytes are missing.

The same holds if the source is read in a loop through a buffer of any size, for a replay that may
make a call for each byte and one more. -/
theorem reports_failure_of_source {source : Source} {data : Bytes} {cause : SystemError}
    (h : source.Delivers data (some cause)) :
    (∃ (log : Log) (rest : Bytes), data = log.bytes ++ rest ∧ Log.Stuck rest) ∧
    (∀ (log : Log) (rest : Bytes), data = log.bytes ++ rest → Log.Stuck rest →
      (¬ Log.Spoilt rest → ofSource source = .error (.io cause)) ∧
      (Log.Spoilt rest → ∃ reason,
        ofSource source = .error (.corruption log.bytes.length reason) ∧
          reason.isTruncation = false)) ∧
    ∀ capacity limit, source.bytesLeft < limit →
      ((Cursor.replay limit).run (Buffered.readFull capacity) ⟨[], source⟩).1 =
        some (ofSource source) := by
  refine ⟨Log.exists_longest data, ?_, ?_⟩
  · rintro log rest rfl hstuck
    obtain ⟨after, shadowed, hreplay, hafter, hoffset, -⟩ := ofSource_log log h
    rw [hreplay, resume_eq]
    rcases Scanner.nextRecord_of_fails hafter hstuck with
      ⟨hsound, stopped, hnext⟩ | ⟨hspoilt, reason, stopped, hnext, hreason⟩
    · rw [hnext]
      exact ⟨fun _ => rfl, fun hspoilt => absurd hspoilt hsound⟩
    · rw [hnext, hoffset]
      exact ⟨fun hsound => absurd hspoilt hsound, fun _ => ⟨reason, rfl, hreason⟩⟩
  · intro capacity limit hlimit
    rw [(Source.Program.run_buffered capacity _ rfl).1, Cursor.run_replay hlimit]

/-! ## A source that fails inside a record -/

/-- A record for a source that fails. -/
def lastWhole : Record := (Record.ofTexts? "a" "1").get (by decide +kernel)

/-- The record in two pieces, and behind it some bytes; then a read fails. -/
def brokenBehind (rest : Bytes) : Source :=
  [.data (.written [1, 0x61, 1]), .interruption,
    .data (.written [0, 0, 0, 0x31, 0x23, 0x48, 0xe1, 0x6c]), .data (.written rest),
    .interruption, .failure (.other "unplugged"), .data (.written [0])]

theorem delivers_brokenBehind (rest : Bytes) :
    (brokenBehind rest).Delivers (Log.bytes [lastWhole] ++ rest) (some (.other "unplugged")) := by
  have hrecord : Log.bytes [lastWhole] =
      [1, 0x61, 1] ++ [0, 0, 0, 0x31, 0x23, 0x48, 0xe1, 0x6c] := by
    decide +kernel
  have hlater := Source.Delivers.data (.written rest)
    (.interruption (.fails (.other "unplugged") [.data (.written [0])]))
  have hall := Source.Delivers.data (.written [1, 0x61, 1])
    (.interruption (.data (.written [0, 0, 0, 0x31, 0x23, 0x48, 0xe1, 0x6c]) hlater))
  rw [hrecord, List.append_assoc]
  simpa [brokenBehind, Extent.bytes] using hall

/-- If the source fails inside the key of a second record, the failure is reported; if it fails
behind a value length that is out of bounds, that is reported, at the end of the first record. -/
theorem reports_failure_of_source_unplugged :
    (brokenBehind [2, 0x62]).Delivers (Log.bytes [lastWhole] ++ [2, 0x62])
        (some (.other "unplugged")) ∧
      Log.Stuck [2, 0x62] ∧ ¬ Log.Spoilt [2, 0x62] ∧
      ofSource (brokenBehind [2, 0x62]) = .error (.io (.other "unplugged")) ∧
      Log.Spoilt [1, 0x62, 0, 0, 1, 0] ∧
      ∃ reason, ofSource (brokenBehind [1, 0x62, 0, 0, 1, 0]) = .error (.corruption 11 reason) := by
  have hshort : Log.CutShort [2, 0x62] := .lengths rfl (by decide)
  have hstuck : Log.Stuck [2, 0x62] := by
    have hcut : [2, 0x62] = ((Record.ofTexts? "bb" "2").get (by decide +kernel)).encode.take 2 := by
      decide +kernel
    rw [hcut]
    exact stuck_take_encode (by decide +kernel)
  have hspoilt : Log.Spoilt [1, 0x62, 0, 0, 1, 0] := by
    refine .tooLong ⟨1, [0x62], [0, 0, 1, 0], [], rfl, rfl, rfl, rfl, rfl⟩ ?_
    decide +kernel
  obtain ⟨-, hfails, -⟩ := reports_failure_of_source (delivers_brokenBehind [2, 0x62])
  obtain ⟨-, hdamaged, -⟩ := reports_failure_of_source (delivers_brokenBehind [1, 0x62, 0, 0, 1, 0])
  obtain ⟨reason, hreason, -⟩ := (hdamaged _ _ rfl hspoilt.stuck).2 hspoilt
  have hlength : (Log.bytes [lastWhole]).length = 11 := by decide +kernel
  exact ⟨delivers_brokenBehind _, hstuck, hshort.not_spoilt,
    (hfails _ _ rfl hstuck).1 hshort.not_spoilt, hspoilt, reason, hlength ▸ hreason⟩

end Replay
end KeyLog
