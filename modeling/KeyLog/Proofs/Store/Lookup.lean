import KeyLog.Proofs.Record.Decode
import KeyLog.Store.Basic

/-!
# What is found at a place

Bytes of a log may be changed behind an open store, in any way: patched, cut, replaced by the bytes
of another record.  A look-up reads again what lies at the place that the index tells.  Nothing is
assumed here about the store or about what its object holds.

* `Volume.HasAt`: a record lies at a place of an object.
* `LogFile.recordAt_eq_ok_iff`, `LogFile.recordAt_cases`: what a handle finds at a place.
* `Store.get_eq_ok_iff`, `Store.get_of_find?_cases`: what a look-up answers.
-/

namespace KeyLog

/-- A record lies at a place of an object: the bytes from the first to the last of the place are its
encoding. -/
def Volume.HasAt (volume : Volume) (object : Nat) (span : Span) (record : Record) : Prop :=
  ∃ front back, volume.content object = front ++ record.encode ++ back ∧
    front.length = span.offset ∧ record.encode.length = span.length

/-- **A record lies at a place** if and only if reading the place gives its encoding and falls not
short of the length of the place. -/
theorem Volume.hasAt_iff {volume : Volume} {object : Nat} {span : Span} {record : Record} :
    volume.HasAt object span record ↔
      volume.read object span.offset span.length = record.encode ∧
        ¬ (volume.read object span.offset span.length).length < span.length := by
  constructor
  · rintro ⟨front, back, hcontent, hoffset, hlength⟩
    have hread : volume.read object span.offset span.length = record.encode := by
      rw [read_eq, hcontent, List.append_assoc, ← hoffset, List.drop_left, ← hlength,
        List.take_left]
    rw [hread, hlength]
    exact ⟨rfl, Nat.lt_irrefl _⟩
  · rintro ⟨hread, hwhole⟩
    rw [hread] at hwhole
    rw [read_eq] at hread
    have hlength : record.encode.length = span.length := by
      refine Nat.le_antisymm ?_ (Nat.le_of_not_lt hwhole)
      rw [← hread]
      exact List.length_take_le _ _
    refine ⟨(volume.content object).take span.offset,
      ((volume.content object).drop span.offset).drop span.length, ?_, ?_, hlength⟩
    · rw [← hread, List.append_assoc, List.take_append_drop, List.take_append_drop]
    · -- an offset past the end would leave nothing to read, and no record is empty
      have hpos := record.size_pos
      rw [← Record.length_encode, ← hread, List.length_take, List.length_drop] at hpos
      rw [List.length_take]
      omega

namespace LogFile

variable {volume : Volume} {file : LogFile} {span : Span}

/-- **A handle finds a record at a place** if and only if the record lies there, before the end of
the log as the handle counts it, and within what an object can have. -/
theorem recordAt_eq_ok_iff {record : Record} :
    file.recordAt volume span = .ok record ↔
      span.stop ≤ file.length ∧ span.stop ≤ Medium.maxObjectSize ∧
        volume.HasAt file.object span record := by
  rw [recordAt_eq, Volume.hasAt_iff]
  split
  next hpast =>
    constructor
    · intro h
      cases h
    · rintro ⟨hinside, -⟩
      exact absurd hpast (Nat.not_lt.2 hinside)
  next hinside =>
    split
    next hfar =>
      constructor
      · intro h
        cases h
      · rintro ⟨-, hnear, -⟩
        exact absurd hfar (Nat.not_lt.2 hnear)
    next hnear =>
      split
      next hshort =>
        constructor
        · intro h
          cases h
        · rintro ⟨-, -, -, hwhole⟩
          exact absurd hshort hwhole
      next hwhole =>
        rw [Record.decode_eq_ok_iff]
        exact ⟨fun h => ⟨Nat.le_of_not_lt hinside, Nat.le_of_not_lt hnear, h, hwhole⟩,
          fun h => h.2.2.1⟩

/-- **What a handle finds at a place**: a record, or damage at the offset of the place; only a place
that no object reaches to is refused by the system. -/
theorem recordAt_cases (hspan : span.stop ≤ file.length → span.stop ≤ Medium.maxObjectSize) :
    (∃ record, file.recordAt volume span = .ok record) ∨
      ∃ reason, file.recordAt volume span = .error (.corruption span.offset reason) := by
  rw [recordAt_eq]
  split
  · exact .inr ⟨_, rfl⟩
  next hinside =>
    rw [if_neg (Nat.not_lt.2 (hspan (Nat.le_of_not_lt hinside)))]
    split
    · exact .inr ⟨_, rfl⟩
    · rcases Record.decode_cases span.offset
          (volume.read file.object span.offset span.length) with
        ⟨record, -, hdecode⟩ | ⟨reason, hdecode⟩
      · exact .inl ⟨record, hdecode⟩
      · exact .inr ⟨reason, hdecode⟩

end LogFile

namespace Store

variable {volume : Volume} {store : Store} {key : String} {span : Span}

/-- A look-up changes nothing but where the handle stands. -/
theorem get_snd (volume : Volume) (store : Store) (key : String) :
    ∃ position, (store.get volume key).2 = { store with file := { store.file with position } } := by
  unfold get
  split
  · exact ⟨store.file.position, rfl⟩
  split
  · exact ⟨store.file.position, rfl⟩
  next span _ =>
    refine ⟨store.file.positionAfter volume span, ?_⟩
    simp only [LogFile.readAt]
    cases store.file.recordAt volume span <;> rfl

/-- A look-up of an indexed key answers what lies at its place, if that is a record of the key. -/
theorem get_of_find? (hkey : Admission.checkKey key = .ok ())
    (hfind : store.index.find? key = some span) :
    (store.get volume key).1 =
      match store.file.recordAt volume span with
      | .error error => .error error
      | .ok record =>
        if record.key = key then .ok record.value
        else .error (.corruption span.offset (.wrongKey key record.key)) := by
  simp only [get, hkey, hfind, LogFile.readAt]
  cases store.file.recordAt volume span <;> rfl

/-- **A look-up answers a value** if and only if the key may be asked for, and the record of the key
with this value lies at the place that the index tells, before the end of the log. -/
theorem get_eq_ok_iff (hlength : store.logSize ≤ Medium.maxObjectSize) {value : String} :
    (store.get volume key).1 = .ok value ↔
      Admission.checkKey key = .ok () ∧ ∃ span record, store.index.find? key = some span ∧
        span.stop ≤ store.logSize ∧ record.key = key ∧ record.value = value ∧
          volume.HasAt store.file.object span record := by
  cases hkey : Admission.checkKey key with
  | error error => simp only [get, hkey, reduceCtorEq, false_and]
  | ok _ =>
    cases hfind : store.index.find? key with
    | none => simp only [get, hkey, hfind, reduceCtorEq, false_and, exists_false, and_false]
    | some span =>
      rw [get_of_find? hkey hfind]
      constructor
      · intro h
        split at h
        · cases h
        next record hrecord =>
          obtain ⟨hstop, -, hat⟩ := LogFile.recordAt_eq_ok_iff.1 hrecord
          split at h
          next hsame => exact ⟨rfl, span, record, rfl, hstop, hsame, Except.ok.inj h, hat⟩
          · cases h
      · rintro ⟨-, _, record, hspan, hstop, hsame, rfl, hat⟩
        cases hspan
        have hrecord : store.file.recordAt volume span = .ok record :=
          LogFile.recordAt_eq_ok_iff.2 ⟨hstop, Nat.le_trans hstop hlength, hat⟩
        rw [hrecord]
        exact if_pos hsame

/-- **A look-up of an indexed key that answers no value** says that the log is damaged at the place
of the key. -/
theorem get_of_find?_cases (hlength : store.logSize ≤ Medium.maxObjectSize)
    (hkey : Admission.checkKey key = .ok ()) (hfind : store.index.find? key = some span) :
    (∃ value, (store.get volume key).1 = .ok value) ∨
      ∃ reason, (store.get volume key).1 = .error (.corruption span.offset reason) := by
  rw [get_of_find? hkey hfind]
  have hspan : span.stop ≤ store.file.length → span.stop ≤ Medium.maxObjectSize := by
    intro hstop
    exact Nat.le_trans hstop hlength
  rcases LogFile.recordAt_cases hspan with ⟨record, hrecord⟩ | ⟨reason, hrecord⟩
  · rw [hrecord]
    by_cases hsame : record.key = key
    · exact .inl ⟨record.value, if_pos hsame⟩
    · exact .inr ⟨.wrongKey key record.key, if_neg hsame⟩
  · exact .inr ⟨reason, by rw [hrecord]⟩

end Store

end KeyLog
