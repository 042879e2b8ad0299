import KeyLog.Proofs.Log.Scan
import KeyLog.Proofs.Store.Lookup

/-!
# Scanning a log and reading at a place

There are two ways to the records of a log.  A scan finds out for itself how long each record is,
and learns it piece by piece; a handle that reads at a place is told the length, and refuses bytes
that are left over.  Both find the same records, because an encoding delimits itself: at one offset
there is one length at most with which a record can be read.

* `Volume.HasAt.unique`: one record at most begins at an offset.
* `LogFile.readAt_eq_ok_iff`: a handle that counts its object right finds the records that lie
  there.
* `LogFile.scanning_agrees_with_reading`: hence a scan of the object hands out what the handle finds
  at the offsets that the scan gets to, and the other way round.
-/

namespace KeyLog

/-- **One record at most begins at an offset**, so a place that begins there can have one length
only. -/
theorem Volume.HasAt.unique {volume : Volume} {object offset length length' : Nat}
    {record record' : Record} (h : volume.HasAt object ⟨offset, length⟩ record)
    (h' : volume.HasAt object ⟨offset, length'⟩ record') : length = length' ∧ record = record' := by
  obtain ⟨front, back, hcontent, hoffset, hlength⟩ := h
  obtain ⟨front', back', hcontent', hoffset', hlength'⟩ := h'
  rw [hcontent, List.append_assoc, List.append_assoc] at hcontent'
  obtain ⟨-, hrest⟩ := List.append_inj hcontent' (hoffset.trans hoffset'.symm)
  obtain ⟨rfl, -⟩ := Record.encode_append_inj hrest
  exact ⟨hlength.symm.trans hlength', rfl⟩

/-- A record that lies in an object ends before the object does. -/
theorem Volume.HasAt.stop_le {volume : Volume} {object : Nat} {span : Span} {record : Record}
    (h : volume.HasAt object span record) : span.stop ≤ volume.size object := by
  obtain ⟨front, back, hcontent, hoffset, hlength⟩ := h
  rw [size_eq, hcontent, List.length_append, List.length_append, hoffset, hlength]
  exact Nat.le_add_right _ _

namespace LogFile

variable {volume : Volume} {file : LogFile}

/-- **A handle that counts its object right** finds a record at a place if and only if the record
lies there. -/
theorem readAt_eq_ok_iff (hcounts : file.length = volume.size file.object)
    (hfits : volume.size file.object ≤ Medium.maxObjectSize) (span : Span) (record : Record) :
    (file.readAt volume span).1 = .ok record ↔ volume.HasAt file.object span record := by
  rw [readAt, recordAt_eq_ok_iff, hcounts]
  exact ⟨fun h => h.2.2, fun h => ⟨h.stop_le, Nat.le_trans h.stop_le hfits, h⟩⟩

/-- What a scan hands out next is what lies at the offset that it has got to. -/
theorem answer_eq_some_iff_hasAt {scanner : Scanner} {log : Log} {object : Nat}
    (h : scanner.Behind (volume.content object) log) (call : Scanner.Call) (scanned : Scanned) :
    (scanner.answer call).1 = .ok (some scanned) ↔
      scanned.span.offset = scanner.offset ∧ volume.HasAt object scanned.span scanned.record := by
  obtain ⟨⟨offset, length⟩, record⟩ := scanned
  rw [h.answer_eq_some_iff, h.offset]
  dsimp only
  constructor
  · rintro ⟨hspan, rest, hdata⟩
    cases hspan
    exact ⟨rfl, log.bytes, rest, hdata, rfl, record.length_encode⟩
  · rintro ⟨hoffset, front, back, hcontent, hfront, hlength⟩
    -- what lies in front of the record is the log that the scan has gone through
    have hbytes := h.bytes
    rw [hcontent, List.append_assoc] at hbytes
    obtain ⟨hlog, -⟩ := List.append_inj hbytes (hfront.trans hoffset)
    refine ⟨?_, back, by rw [hcontent, hlog]⟩
    rw [← record.length_encode, hoffset, hlength]

/-- **A scan and a handle find the same records.**  Let a handle count the bytes of its object
right, and let the object be scanned, from a source that delivers its bytes in any pieces.  As long
as no call has reported a fault:

* each record that a call hands out, the handle reads at the place that comes with it, and the bytes
  of the place decode to it;
* each record that the handle reads at the offset that the scan has got to, with whatever length, is
  what the next call hands out, and the place with this length comes with it.

The handle reads a record at a place if and only if the bytes of the record lie there, so that at no
offset records can be read with two different lengths.  An object has no more bytes than the largest
size of an object. -/
theorem scanning_agrees_with_reading (hcounts : file.length = volume.size file.object)
    (hfits : volume.size file.object ≤ Medium.maxObjectSize) {source : Source}
    (hsteady : source.steady = true) (hbytes : source.bytes = volume.content file.object)
    {calls : List Scanner.Call}
    (hsucceeds : ∀ step ∈ (Scanner.start source).run calls, step.result.isOk = true) :
    (∀ call scanned, (((Scanner.start source).after calls).answer call).1 = .ok (some scanned) →
      scanned.span.offset = ((Scanner.start source).after calls).offset ∧
      (file.readAt volume scanned.span).1 = .ok scanned.record ∧
      Record.decode scanned.span.offset
        (((volume.content file.object).drop scanned.span.offset).take scanned.span.length) =
          .ok scanned.record) ∧
    (∀ length record,
      (file.readAt volume ⟨((Scanner.start source).after calls).offset, length⟩).1 = .ok record →
        ∀ call, (((Scanner.start source).after calls).answer call).1 =
          .ok (some ⟨⟨((Scanner.start source).after calls).offset, length⟩, record⟩)) ∧
    (∀ span record, (file.readAt volume span).1 = .ok record ↔
      volume.HasAt file.object span record) ∧
    ∀ offset length length' record record',
      (file.readAt volume ⟨offset, length⟩).1 = .ok record →
        (file.readAt volume ⟨offset, length'⟩).1 = .ok record' →
          length = length' ∧ record = record' := by
  obtain ⟨log, hbehind⟩ := Scanner.behind_after hsteady hsucceeds
  rw [hbytes] at hbehind
  have hread := readAt_eq_ok_iff hcounts hfits
  refine ⟨?_, ?_, hread, ?_⟩
  · intro call scanned hanswer
    obtain ⟨hoffset, hat⟩ := (answer_eq_some_iff_hasAt hbehind call scanned).1 hanswer
    refine ⟨hoffset, (hread _ _).2 hat, ?_⟩
    rw [← Volume.read_eq, (Volume.hasAt_iff.1 hat).1, Record.decode_encode]
  · intro length record hrecord call
    exact (answer_eq_some_iff_hasAt hbehind call ⟨⟨_, length⟩, record⟩).2
      ⟨rfl, (hread _ _).1 hrecord⟩
  · intro offset length length' record record' hrecord hrecord'
    exact ((hread _ _).1 hrecord).unique ((hread _ _).1 hrecord')

/-! ## A log with something behind it -/

/-- A record of the key `x`. -/
def recordOfX : Record := (Record.ofTexts? "x" "1").get (by decide +kernel)

/-- A record of the key `y`. -/
def recordOfY : Record := (Record.ofTexts? "y" "2").get (by decide +kernel)

/-- The two records, one behind the other. -/
def pair : Log := [recordOfX, recordOfY]

/-- An object with the two records and a byte behind them. -/
def pairAndByte : Volume := Volume.empty.store 0 (pair.bytes ++ [7])

/-- A handle that counts all its bytes. -/
def onPairAndByte : LogFile := ⟨"heap", 0, 23, 0, .everyWrite⟩

/-- A source that delivers the same bytes in three pieces, and is interrupted between them. -/
def inPieces : Source :=
  [.data (.written (pair.bytes.take 5)), .interruption, .data (.written (pair.bytes.drop 5)),
    .interruption, .data (.written [7])]

/-- Behind the first record, the second one is what the handle reads and what the scan hands out. -/
theorem scanning_agrees_with_reading_inPieces :
    onPairAndByte.length = pairAndByte.size onPairAndByte.object ∧
      pairAndByte.size onPairAndByte.object ≤ Medium.maxObjectSize ∧
      inPieces.steady = true ∧ inPieces.bytes = pairAndByte.content onPairAndByte.object ∧
      (∀ step ∈ (Scanner.start inPieces).run [.next], step.result.isOk = true) ∧
      (onPairAndByte.readAt pairAndByte ⟨11, 11⟩).1 = .ok recordOfY ∧
      ∀ call, (((Scanner.start inPieces).after [.next]).answer call).1 =
        .ok (some ⟨⟨11, 11⟩, recordOfY⟩) := by
  have hcounts : onPairAndByte.length = pairAndByte.size onPairAndByte.object := by
    decide +kernel
  have hfits : pairAndByte.size onPairAndByte.object ≤ Medium.maxObjectSize := by decide +kernel
  have hsteady : inPieces.steady = true := rfl
  have hbytes : inPieces.bytes = pairAndByte.content onPairAndByte.object := by decide +kernel
  have hsucceeds : ∀ step ∈ (Scanner.start inPieces).run [.next], step.result.isOk = true :=
    List.all_eq_true.1 (by decide +kernel)
  have hat : pairAndByte.HasAt onPairAndByte.object ⟨11, 11⟩ recordOfY :=
    ⟨recordOfX.encode, [7], by decide +kernel, by decide +kernel, by decide +kernel⟩
  have hread : (onPairAndByte.readAt pairAndByte ⟨11, 11⟩).1 = .ok recordOfY :=
    (readAt_eq_ok_iff hcounts hfits _ _).2 hat
  have hoffset : ((Scanner.start inPieces).after [.next]).offset = 11 := by decide +kernel
  obtain ⟨-, hnext, -, -⟩ :=
    scanning_agrees_with_reading hcounts hfits hsteady hbytes hsucceeds
  rw [hoffset] at hnext
  exact ⟨hcounts, hfits, hsteady, hbytes, hsucceeds, hread, hnext 11 recordOfY hread⟩

end LogFile
end KeyLog
