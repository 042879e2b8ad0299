import KeyLog.Replay

/-!
# How the bytes arrive

A scan does not depend on how its bytes arrive.  Two steady sources that deliver the same bytes,
cut and interrupted in whatever way, are `Alike`, and whoever asks them the same gets the same.

* `Scanner.run_alike`: every run of calls has the same answers and offsets.
* `Replay.ofSource_alike`: every replay comes to the same end.
* `Replay.ofSource_ofSparse`: hence a log may be replayed extent by extent, as it is kept, and the
  outcome is that of its bytes.
-/

namespace KeyLog

/-- Both sources are steady and deliver the same bytes. -/
structure Source.Alike (a b : Source) : Prop where
  left : a.steady = true
  right : b.steady = true
  bytes : a.bytes = b.bytes

/-- What is asked of one source can be asked of the other, with the same answer, and what is left
of them is alike again. -/
theorem Source.Alike.take {a b : Source} (h : a.Alike b) (n : Nat) :
    (a.take n).1 = (b.take n).1 ∧ (a.take n).2.Alike (b.take n).2 := by
  obtain ⟨after, htake, hsteady, hbytes⟩ := take_of_steady h.left n
  obtain ⟨after', htake', hsteady', hbytes'⟩ := take_of_steady h.right n
  rw [htake, htake']
  exact ⟨by rw [h.bytes], hsteady, hsteady', by rw [hbytes, hbytes', h.bytes]⟩

namespace Scanner

/-! ## One record -/

theorem demand_alike {a b : Source} (h : a.Alike b) (n offset : Nat) :
    (demand n offset a).1 = (demand n offset b).1 ∧
      (demand n offset a).2.Alike (demand n offset b).2 := by
  obtain ⟨hanswer, hrest⟩ := h.take n
  unfold demand
  cases ha : a.take n with
  | mk answer rest =>
    cases hb : b.take n with
    | mk answer' rest' =>
      rw [ha, hb] at hanswer hrest
      dsimp only at hanswer hrest
      subst hanswer
      cases answer with
      | error cause => exact ⟨rfl, hrest⟩
      | ok got =>
        dsimp only
        split
        · exact ⟨rfl, hrest⟩
        · exact ⟨rfl, hrest⟩

theorem demandRest_alike {a b : Source} (h : a.Alike b) (keyLength : UInt8) (offset : Nat) :
    (demandRest keyLength offset a).1 = (demandRest keyLength offset b).1 ∧
      (demandRest keyLength offset a).2.Alike (demandRest keyLength offset b).2 := by
  obtain ⟨hanswer, hrest⟩ := demand_alike h (keyLength.toNat + Layout.valueLengthWidth) offset
  unfold demandRest
  generalize demand (keyLength.toNat + Layout.valueLengthWidth) offset a = first at *
  generalize demand (keyLength.toNat + Layout.valueLengthWidth) offset b = first' at *
  obtain ⟨answer, rest⟩ := first
  obtain ⟨answer', rest'⟩ := first'
  dsimp only at hanswer hrest
  subst hanswer
  cases answer with
  | error cause => exact ⟨rfl, hrest⟩
  | ok upToValue =>
    dsimp only
    split
    · exact ⟨rfl, hrest⟩
    · generalize LittleEndian.value (upToValue.drop keyLength.toNat) = valueLength
      obtain ⟨hanswer, hrest⟩ := demand_alike hrest (valueLength + Layout.checksumWidth) offset
      generalize demand (valueLength + Layout.checksumWidth) offset rest = second at *
      generalize demand (valueLength + Layout.checksumWidth) offset rest' = second' at *
      obtain ⟨answer, rest⟩ := second
      obtain ⟨answer', rest'⟩ := second'
      dsimp only at hanswer hrest
      subst hanswer
      cases answer with
      | error cause => exact ⟨rfl, hrest⟩
      | ok fromValue => exact ⟨rfl, hrest⟩

theorem demandRecord_alike {a b : Source} (h : a.Alike b) (offset : Nat) :
    (demandRecord offset a).1 = (demandRecord offset b).1 ∧
      (demandRecord offset a).2.Alike (demandRecord offset b).2 := by
  obtain ⟨hanswer, hrest⟩ := h.take Layout.keyLengthWidth
  unfold demandRecord
  generalize a.take Layout.keyLengthWidth = first at *
  generalize b.take Layout.keyLengthWidth = first' at *
  obtain ⟨answer, rest⟩ := first
  obtain ⟨answer', rest'⟩ := first'
  dsimp only at hanswer hrest
  subst hanswer
  match answer with
  | .error cause => exact ⟨rfl, hrest⟩
  | .ok [] => exact ⟨rfl, hrest⟩
  | .ok (keyLength :: _) =>
    obtain ⟨hanswer, hrest⟩ := demandRest_alike hrest keyLength offset
    dsimp only
    generalize demandRest keyLength offset rest = second at *
    generalize demandRest keyLength offset rest' = second' at *
    obtain ⟨answer, rest⟩ := second
    obtain ⟨answer', rest'⟩ := second'
    dsimp only at hanswer hrest
    subst hanswer
    cases answer with
    | error cause => exact ⟨rfl, hrest⟩
    | ok bytes => exact ⟨rfl, hrest⟩

/-! ## Scans -/

/-- Two scans stand at the same offset of sources that are alike. -/
structure Alike (a b : Scanner) : Prop where
  source : a.source.Alike b.source
  offset : a.offset = b.offset
  failed : a.failed = b.failed

theorem alike_start {a b : Source} (h : a.Alike b) : (start a).Alike (start b) := ⟨h, rfl, rfl⟩

theorem Alike.nextRecord {a b : Scanner} (h : a.Alike b) :
    a.nextRecord.1 = b.nextRecord.1 ∧ a.nextRecord.2.Alike b.nextRecord.2 := by
  obtain ⟨source, offset, failed⟩ := a
  obtain ⟨source', offset', failed'⟩ := b
  obtain ⟨hsource, hoffset, hfailed⟩ := h
  dsimp only at hsource hoffset hfailed
  subst hoffset hfailed
  obtain ⟨hanswer, hrest⟩ := demandRecord_alike hsource offset
  unfold Scanner.nextRecord
  dsimp only
  generalize demandRecord offset source = first at *
  generalize demandRecord offset source' = first' at *
  obtain ⟨answer, rest⟩ := first
  obtain ⟨answer', rest'⟩ := first'
  dsimp only at hanswer hrest
  subst hanswer
  match answer with
  | .error error => exact ⟨rfl, hrest, rfl, rfl⟩
  | .ok none => exact ⟨rfl, hrest, rfl, rfl⟩
  | .ok (some bytes) =>
    dsimp only
    split
    · exact ⟨rfl, hrest, rfl, rfl⟩
    · exact ⟨rfl, hrest, rfl, rfl⟩

theorem Alike.next {a b : Scanner} (h : a.Alike b) :
    a.next.1 = b.next.1 ∧ a.next.2.Alike b.next.2 := by
  unfold Scanner.next
  rw [h.failed]
  split
  · exact ⟨rfl, h⟩
  · obtain ⟨hanswer, hafter⟩ := h.nextRecord
    generalize a.nextRecord = first at *
    generalize b.nextRecord = second at *
    obtain ⟨answer, after⟩ := first
    obtain ⟨answer', after'⟩ := second
    dsimp only at hanswer hafter
    subst hanswer
    cases answer with
    | error error => exact ⟨rfl, hafter.source, hafter.offset, rfl⟩
    | ok scanned => exact ⟨rfl, hafter⟩

/-- **Every run of calls has the same answers**, and the same offset after each of them. -/
theorem run_alike {a b : Scanner} (h : a.Alike b) (calls : List Call) :
    a.run calls = b.run calls := by
  induction calls generalizing a b with
  | nil => rfl
  | cons call calls ih =>
    have hanswer : (a.answer call).1 = (b.answer call).1 ∧
        (a.answer call).2.Alike (b.answer call).2 := by
      cases call with
      | nextRecord => exact h.nextRecord
      | next => exact h.next
    simp only [run]
    rw [hanswer.1, hanswer.2.offset, ih hanswer.2]

end Scanner

namespace Replay

/-- What the next record makes of a replay. -/
theorem resume_eq (scanner : Scanner) (index : Index) (records superseded : Nat) :
    resume scanner index records superseded =
      match scanner.nextRecord with
      | (.error error, _) => .error error
      | (.ok none, after) => .ok ⟨index, ⟨records, index.size, superseded, after.offset⟩⟩
      | (.ok (some scanned), after) =>
        resume after (index.insert scanned.record.key scanned.span) (records + 1)
          (superseded + if (index.find? scanned.record.key).isSome then 1 else 0) := by
  rw [resume]
  split
  next hnext => rw [hnext]
  next hnext => rw [hnext]
  next hnext =>
    rw [hnext]
    rfl

theorem resume_alike {a b : Scanner} (h : a.Alike b) (index : Index) (records superseded : Nat) :
    resume a index records superseded = resume b index records superseded := by
  fun_induction resume a index records superseded generalizing b with
  | case1 a index records superseded error after hnext =>
    have hanswer := h.nextRecord.1
    rw [hnext] at hanswer
    rw [resume_eq, ← Prod.eta b.nextRecord, ← hanswer]
  | case2 a index records superseded after hnext =>
    obtain ⟨hanswer, hafter⟩ := h.nextRecord
    rw [hnext] at hanswer hafter
    rw [resume_eq, ← Prod.eta b.nextRecord, ← hanswer]
    rw [show after.offset = b.nextRecord.2.offset from hafter.offset]
  | case3 a index records superseded scanned after hnext older index' hreplace ih =>
    obtain ⟨hanswer, hafter⟩ := h.nextRecord
    rw [hnext] at hanswer hafter
    cases hreplace
    rw [resume_eq b, ← Prod.eta b.nextRecord, ← hanswer]
    exact ih hafter

/-- **Every replay comes to the same end.** -/
theorem ofSource_alike {a b : Source} (h : a.Alike b) : ofSource a = ofSource b :=
  resume_alike (Scanner.alike_start h) _ _ _

/-- A log that is replayed as it is kept comes to the end that its bytes come to. -/
theorem ofSource_ofSparse (sparse : SparseBytes) :
    ofSource (.ofSparse sparse) = ofBytes sparse.toBytes :=
  ofSource_alike ⟨Source.steady_ofSparse sparse, Source.steady_ofBytes _, by
    rw [Source.bytes_ofSparse, Source.bytes_ofBytes]⟩

end Replay
end KeyLog
