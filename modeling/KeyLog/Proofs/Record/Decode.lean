import KeyLog.Record.Lemmas

/-!
# Reading any bytes as a record

`Record.parse_eq_ok_iff` says which bytes are read as a record.  This file says what happens to all
others, and that nothing but the given bytes is looked at.

* `Record.decode_cases`: bytes are the encoding of a record and read as that record, or they are
  reported as damaged at the offset that was given.
* `Frame.cutExact_eq`: no read reaches past the last byte.

## Reads that reach too far

`take` and `drop` answer for every number of bytes, so a length that was not tested would only give a
field that is too short.  `Frame.cutExact` makes the same decisions with reads that have no answer
beyond the last byte.  It always answers, and it answers as `Frame.parse` does; so every read of the
one is a read of as many bytes as there are, and so is every read of the other.
-/

namespace KeyLog

namespace Frame

/-! ## Reading inside the bytes -/

/-- Exactly `n` bytes and those behind them; no answer where fewer are left. -/
def takeExact (n : Nat) (bytes : Bytes) : Option (Bytes × Bytes) :=
  if n ≤ bytes.length then some (bytes.take n, bytes.drop n) else none

theorem takeExact_of_not_lt {n : Nat} {bytes : Bytes} (h : ¬ bytes.length < n) :
    takeExact n bytes = some (bytes.take n, bytes.drop n) :=
  if_pos (Nat.le_of_not_lt h)

/-- The fields of a frame. -/
def fields (frame : Frame) : Bytes × Bytes × UInt32 := (frame.key, frame.value, frame.stored)

/-- Cuts bytes into the fields of a record by exact reads; no answer if one of them reaches past the
last byte. -/
def cutExact (bytes : Bytes) : Option (Except Corruption (Bytes × Bytes × UInt32)) :=
  if bytes.isEmpty then some (.error (.missing .keyLength))
  else do
    let (first, rest) ← takeExact Layout.keyLengthWidth bytes
    let keyLength := LittleEndian.value first
    if keyLength = 0 then some (.error .emptyKey)
    else if rest.length < keyLength then some (.error (.missing .key))
    else do
      let (key, rest) ← takeExact keyLength rest
      if rest.length < Layout.valueLengthWidth then some (.error (.missing .valueLength))
      else do
        let (word, rest) ← takeExact Layout.valueLengthWidth rest
        let valueLength := LittleEndian.value word
        if Layout.maxValueSize < valueLength then some (.error (.valueTooLong valueLength))
        else if rest.length < valueLength then some (.error (.missing .value))
        else do
          let (value, rest) ← takeExact valueLength rest
          if rest.length < Layout.checksumWidth then some (.error (.missing .checksum))
          else do
            let (stored, rest) ← takeExact Layout.checksumWidth rest
            if rest.isEmpty then some (.ok (key, value, .ofNat (LittleEndian.value stored)))
            else some (.error (.trailing rest.length))

/-- **No read reaches past the last byte**: cutting by exact reads always answers, and it answers as
`parse` does. -/
theorem cutExact_eq (bytes : Bytes) : cutExact bytes = some ((parse bytes).map fields) := by
  cases bytes with
  | nil => rfl
  | cons keyLength rest =>
    have hfirst : takeExact Layout.keyLengthWidth (keyLength :: rest) = some ([keyLength], rest) :=
      if_pos (Nat.succ_le_succ (Nat.zero_le _))
    have hnumber : keyLength.toNat = 0 ↔ keyLength = 0 := UInt8.toNat_inj (b := 0)
    unfold cutExact parse
    simp only [List.isEmpty_cons, Bool.false_eq_true, if_false, hfirst, Option.bind_eq_bind,
      Option.bind_some, LittleEndian.value_cons, LittleEndian.value_nil, Nat.mul_zero, Nat.add_zero,
      hnumber]
    -- one field after the other is refused by both, or read by both
    by_cases hzero : keyLength = 0
    · simp only [hzero, ↓reduceIte, ↓reduceDIte, Except.map]
    by_cases hkey : rest.length < keyLength.toNat
    · simp only [hzero, hkey, ↓reduceIte, ↓reduceDIte, Except.map]
    simp only [hzero, hkey, ↓reduceIte, ↓reduceDIte, takeExact_of_not_lt hkey, Option.bind_some]
    generalize rest.drop keyLength.toNat = afterKey
    by_cases hlength : afterKey.length < Layout.valueLengthWidth
    · simp only [hlength, ↓reduceIte, Except.map]
    simp only [hlength, ↓reduceIte, takeExact_of_not_lt hlength, Option.bind_some]
    by_cases hbound : Layout.maxValueSize <
        LittleEndian.value (afterKey.take Layout.valueLengthWidth)
    · simp only [hbound, ↓reduceIte, ↓reduceDIte, Except.map]
    by_cases hvalue : (afterKey.drop Layout.valueLengthWidth).length <
        LittleEndian.value (afterKey.take Layout.valueLengthWidth)
    · simp only [hbound, hvalue, ↓reduceIte, ↓reduceDIte, Except.map]
    simp only [hbound, hvalue, ↓reduceIte, ↓reduceDIte, takeExact_of_not_lt hvalue,
      Option.bind_some]
    generalize (afterKey.drop Layout.valueLengthWidth).drop
      (LittleEndian.value (afterKey.take Layout.valueLengthWidth)) = afterValue
    by_cases hchecksum : afterValue.length < Layout.checksumWidth
    · simp only [hchecksum, ↓reduceIte, Except.map]
    simp only [hchecksum, ↓reduceIte, takeExact_of_not_lt hchecksum, Option.bind_some]
    have hempty : (afterValue.drop Layout.checksumWidth).isEmpty = true ↔
        ¬ Layout.checksumWidth < afterValue.length := by
      rw [List.isEmpty_iff, List.drop_eq_nil_iff, Nat.not_lt]
    by_cases hextra : Layout.checksumWidth < afterValue.length
    · simp only [hempty, hextra, not_true_eq_false, ↓reduceIte, Except.map, List.length_drop]
    · have hwhole : afterValue.take Layout.checksumWidth = afterValue :=
        List.take_of_length_le (Nat.le_of_not_lt hextra)
      simp only [hempty, hextra, not_false_eq_true, ↓reduceIte, Except.map, fields, hwhole]

end Frame

namespace Record

/-! ## All outcomes -/

/-- A key and a value within the bounds have a record. -/
theorem ofTexts?_of_bounds {key value : String} (hpos : 0 < Utf8.size key)
    (hkey : Utf8.size key ≤ Layout.maxKeySize) (hvalue : Utf8.size value ≤ Layout.maxValueSize) :
    ofTexts? key value = some ⟨key, value, hpos, hkey, hvalue⟩ :=
  dif_pos ⟨hpos, hkey, hvalue⟩

/-- **Bytes are the encoding of a record, or damaged at the offset.** -/
theorem decode_cases (offset : Nat) (bytes : Bytes) :
    (∃ record : Record, bytes = record.encode ∧ decode offset bytes = .ok record) ∨
      ∃ reason, decode offset bytes = .error (.corruption offset reason) := by
  cases hparse : parse bytes with
  | ok record =>
    have hbytes : bytes = record.encode := parse_eq_ok_iff.1 hparse
    exact .inl ⟨record, hbytes, decode_eq_ok_iff.2 hbytes⟩
  | error reason => exact .inr ⟨reason, by simp only [decode, hparse]⟩

/-- **Reading is the exact inverse of writing.**  Every key and value within the bounds have a
record, whose encoding has the size that the layout says and is read back as it, at any offset.
Whatever bytes are read as a record are the encoding of that record, which is the one of its two
texts; all other bytes are damaged, at the offset that was given.  And nothing is ever read beyond
the last byte. -/
theorem decode_inverts_encode :
    (∀ key value, 0 < Utf8.size key → Utf8.size key ≤ Layout.maxKeySize →
      Utf8.size value ≤ Layout.maxValueSize →
        ∃ record, ofTexts? key value = some record ∧ record.key = key ∧ record.value = value ∧
          record.encode.length = Layout.recordSize (Utf8.size key) (Utf8.size value) ∧
          ∀ offset, decode offset record.encode = .ok record) ∧
    (∀ offset data,
      (∃ record, decode offset data = .ok record ∧
        ofTexts? record.key record.value = some record ∧ record.encode = data) ∨
      ∃ reason, decode offset data = .error (.corruption offset reason)) ∧
    ∀ data, Frame.cutExact data = some ((Frame.parse data).map Frame.fields) := by
  refine ⟨?_, ?_, Frame.cutExact_eq⟩
  · intro key value hpos hkey hvalue
    refine ⟨_, ofTexts?_of_bounds hpos hkey hvalue, rfl, rfl, length_encode _, ?_⟩
    intro offset
    exact decode_encode offset _
  · intro offset data
    rcases decode_cases offset data with ⟨record, hdata, hdecode⟩ | ⟨reason, hdecode⟩
    · exact .inl ⟨record, hdecode,
        ofTexts?_of_bounds record.key_pos record.key_le record.value_le, hdata.symm⟩
    · exact .inr ⟨reason, hdecode⟩

end Record
end KeyLog
