import KeyLog.Record.Frame

/-!
# Reading undoes writing

Reading a record accepts exactly what writing one produces, and gives it back.

* `Frame.parse_eq_ok_iff`: the first stage accepts exactly the bytes of frames.
* `Frame.toRecord_eq_ok_iff`: the second stage accepts exactly the frames of records.
* `Record.parse_eq_ok_iff`: hence bytes are read as a record exactly when they are its encoding, so
  every record has one encoding and every accepted byte string is one.
-/

namespace KeyLog

namespace Frame

/-! ## The first stage -/

/-- What was cut into a frame is what the frame was cut from. -/
theorem bytes_of_parse {bytes : Bytes} {frame : Frame} (h : parse bytes = .ok frame) :
    frame.bytes = bytes := by
  unfold parse at h
  split at h
  · cases h
  next keyLength rest =>
    split at h
    · cases h
    split at h
    · cases h
    dsimp only at h
    split at h
    · cases h
    split at h
    · cases h
    split at h
    · cases h
    split at h
    · cases h
    split at h
    · cases h
    next hzero hkey hlength hbound hvalue hchecksum hextra =>
    cases h
    simp only [Layout.valueLengthWidth, Layout.checksumWidth, List.length_drop] at *
    unfold Frame.bytes
    dsimp only
    have hbyte : UInt8.ofNat keyLength.toNat = keyLength := UInt8.ofNat_toNat
    generalize keyLength.toNat = n at *
    generalize hm : LittleEndian.value ((rest.drop n).take 4) = m at *
    -- each field has the length that the fields before it announce
    have hn : (rest.take n).length = n := by
      simp only [List.length_take]
      omega
    have hword : ((rest.drop n).take 4).length = 4 := by
      rw [List.length_take, List.length_drop]
      omega
    have hm' : (((rest.drop n).drop 4).take m).length = m := by
      simp only [List.length_take, List.length_drop]
      omega
    have hlast : (((rest.drop n).drop 4).drop m).length = 4 := by
      simp only [List.length_drop]
      omega
    rw [hm', hn, hbyte, UInt32.toNat_ofNat_of_lt' (LittleEndian.value_lt hlast),
      LittleEndian.word_value hlast, ← hm, LittleEndian.word_value hword, hm,
      List.take_append_drop, List.take_append_drop, List.take_append_drop]

/-- A frame is cut from its own bytes. -/
theorem parse_bytes (frame : Frame) : parse frame.bytes = .ok frame := by
  have hpos := frame.key_pos
  have hkey := frame.key_le
  have hvalue := frame.value_le
  simp only [Layout.maxKeySize, Layout.maxValueSize] at hkey hvalue
  have hlength : (UInt8.ofNat frame.key.length).toNat = frame.key.length := by
    rw [UInt8.toNat_ofNat']
    omega
  have hzero : ¬ UInt8.ofNat frame.key.length = 0 := by
    intro h
    rw [h] at hlength
    simp at hlength
    omega
  have hword : LittleEndian.value (LittleEndian.word frame.value.length) = frame.value.length :=
    LittleEndian.value_word (by omega)
  have hlast : LittleEndian.value (LittleEndian.word frame.stored.toNat) = frame.stored.toNat :=
    LittleEndian.value_word frame.stored.toNat_lt
  -- none of the refusals applies
  have h1 : ¬ frame.key.length + (4 + (frame.value.length + 4)) < frame.key.length := by omega
  have h2 : ¬ 4 + (frame.value.length + 4) < 4 := by omega
  have h3 : ¬ 65535 < frame.value.length := by omega
  have h4 : ¬ frame.value.length + 4 < frame.value.length := by omega
  unfold Frame.bytes parse
  simp [hzero, hlength, hword, hlast, h1, h2, h3, h4, Layout.valueLengthWidth,
    Layout.checksumWidth, Layout.maxValueSize]

/-- The first stage accepts exactly the bytes of frames. -/
theorem parse_eq_ok_iff {bytes : Bytes} {frame : Frame} :
    parse bytes = .ok frame ↔ bytes = frame.bytes :=
  ⟨fun h => (bytes_of_parse h).symm, fun h => h ▸ parse_bytes frame⟩

/-! ## The second stage -/

/-- The second stage accepts exactly the frames of records. -/
theorem toRecord_eq_ok_iff {frame : Frame} {record : Record} :
    frame.toRecord = .ok record ↔ frame = record.frame := by
  constructor
  · intro h
    unfold toRecord at h
    dsimp only at h
    split at h
    · cases h
    next hsum =>
      split at h
      · cases h
      next key hkey =>
        split at h
        · cases h
        next value hvalue =>
          cases h
          obtain ⟨keyBytes, valueBytes, stored, _, _, _⟩ := frame
          have hk := Utf8.decode_eq_ok_iff.1 hkey
          have hv := Utf8.decode_eq_ok_iff.1 hvalue
          dsimp only at hk hv hsum
          subst hk hv
          simp only [Record.frame, Frame.mk.injEq, true_and]
          exact (Decidable.not_not.1 hsum).symm
  · rintro rfl
    have hsum : ¬ Record.checksumOf record.frame.key record.frame.value ≠ record.frame.stored :=
      fun h => h rfl
    unfold toRecord
    dsimp only
    rw [if_neg hsum]
    split
    next fault hkey => cases (Utf8.decode_encode record.key).symm.trans hkey
    next key hkey =>
      split
      next fault hvalue => cases (Utf8.decode_encode record.value).symm.trans hvalue
      next value hvalue =>
        cases (Utf8.decode_encode record.key).symm.trans hkey
        cases (Utf8.decode_encode record.value).symm.trans hvalue
        rfl

end Frame

namespace Record

/-! ## Both stages -/

/-- **Reading a record accepts exactly its encoding.** -/
theorem parse_eq_ok_iff {bytes : Bytes} {record : Record} :
    parse bytes = .ok record ↔ bytes = record.encode := by
  rw [← bytes_frame]
  unfold parse
  constructor
  · intro h
    split at h
    · cases h
    next frame hframe =>
      rw [← Frame.toRecord_eq_ok_iff.1 h]
      exact Frame.parse_eq_ok_iff.1 hframe
  · rintro rfl
    rw [Frame.parse_bytes]
    exact Frame.toRecord_eq_ok_iff.2 rfl

/-- The same for a record at an offset, which plays no part in what is accepted. -/
theorem decode_eq_ok_iff {offset : Nat} {bytes : Bytes} {record : Record} :
    decode offset bytes = .ok record ↔ bytes = record.encode := by
  rw [← parse_eq_ok_iff]
  unfold decode
  split <;> simp_all

@[simp] theorem decode_encode (offset : Nat) (record : Record) :
    decode offset record.encode = .ok record :=
  decode_eq_ok_iff.2 rfl

end Record
end KeyLog
