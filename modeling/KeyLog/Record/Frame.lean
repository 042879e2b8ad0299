import KeyLog.Record.Basic
import KeyLog.StoreError

/-!
# Reading a record

The bytes of a record are read in two stages.  `Frame.parse` cuts them into the fields of the
layout and looks at nothing but lengths; `Frame.toRecord` then compares the checksum and reads the
two texts.  A frame keeps the bounds of the layout in its type, so the second stage has no length
left to test, and each stage is undone by writing: `Frame.bytes` for the first and
`Record.frame` for the second.

The first fault that stands in the bytes, from left to right, is the one reported: a length that
the bytes cannot hold comes before a checksum, and the checksum before the texts.
-/

namespace KeyLog

/-- The fields of a record as bytes, with lengths that the layout can hold. -/
structure Frame where
  key : Bytes
  value : Bytes
  /-- The checksum found in the bytes. -/
  stored : UInt32
  key_pos : 0 < key.length
  key_le : key.length ≤ Layout.maxKeySize
  value_le : value.length ≤ Layout.maxValueSize

namespace Frame

/-- The bytes that the frame was cut from. -/
def bytes (frame : Frame) : Bytes :=
  .ofNat frame.key.length ::
    (frame.key ++
      (LittleEndian.word frame.value.length ++
        (frame.value ++ LittleEndian.word frame.stored.toNat)))

/-- A key of the length that one byte announces is within the bounds, unless the byte is zero. -/
theorem key_fits {keyLength : UInt8} {rest : Bytes} (hzero : keyLength ≠ 0)
    (hkey : ¬ rest.length < keyLength.toNat) :
    0 < (rest.take keyLength.toNat).length ∧
      (rest.take keyLength.toNat).length ≤ Layout.maxKeySize := by
  have hne : keyLength.toNat ≠ 0 := fun h => hzero (UInt8.toNat_inj.1 h)
  have hlt := keyLength.toNat_lt
  rw [List.length_take, Layout.maxKeySize]
  omega

/-- A value of an announced length is within the bound if the length is. -/
theorem value_fits {valueLength : Nat} (bytes : Bytes)
    (hbound : ¬ Layout.maxValueSize < valueLength) :
    (bytes.take valueLength).length ≤ Layout.maxValueSize :=
  Nat.le_trans (List.length_take_le valueLength bytes) (Nat.le_of_not_lt hbound)

/-- Cuts bytes into the fields of a record. -/
def parse : Bytes → Except Corruption Frame
  | [] => .error (.missing .keyLength)
  | keyLength :: rest =>
    if hzero : keyLength = 0 then .error .emptyKey
    else if hkey : rest.length < keyLength.toNat then .error (.missing .key)
    else
      let afterKey := rest.drop keyLength.toNat
      if afterKey.length < Layout.valueLengthWidth then .error (.missing .valueLength)
      else
        let valueLength := LittleEndian.value (afterKey.take Layout.valueLengthWidth)
        let afterLength := afterKey.drop Layout.valueLengthWidth
        if hbound : Layout.maxValueSize < valueLength then .error (.valueTooLong valueLength)
        else if afterLength.length < valueLength then .error (.missing .value)
        else
          let afterValue := afterLength.drop valueLength
          if afterValue.length < Layout.checksumWidth then .error (.missing .checksum)
          else if Layout.checksumWidth < afterValue.length then
            .error (.trailing (afterValue.length - Layout.checksumWidth))
          else
            .ok
              { key := rest.take keyLength.toNat
                value := afterLength.take valueLength
                stored := .ofNat (LittleEndian.value afterValue)
                key_pos := (key_fits hzero hkey).1
                key_le := (key_fits hzero hkey).2
                value_le := value_fits afterLength hbound }

/-- The record of a frame whose checksum is right and whose key and value are texts. -/
def toRecord (frame : Frame) : Except Corruption Record :=
  let computed := Record.checksumOf frame.key frame.value
  if computed ≠ frame.stored then .error (.checksumMismatch frame.stored computed)
  else
    match hkey : Utf8.decode frame.key with
    | .error fault => .error (.notUtf8 .key fault)
    | .ok key =>
      match hvalue : Utf8.decode frame.value with
      | .error fault => .error (.notUtf8 .value fault)
      | .ok value =>
        have hk : Utf8.size key = frame.key.length := by
          rw [← Utf8.decode_eq_ok_iff.1 hkey, Utf8.length_encode]
        have hv : Utf8.size value = frame.value.length := by
          rw [← Utf8.decode_eq_ok_iff.1 hvalue, Utf8.length_encode]
        .ok ⟨key, value, hk ▸ frame.key_pos, hk ▸ frame.key_le, hv ▸ frame.value_le⟩

end Frame

namespace Record

/-- The fields of a record as bytes. -/
def frame (record : Record) : Frame where
  key := Utf8.encode record.key
  value := Utf8.encode record.value
  stored := record.checksum
  key_pos := by rw [Utf8.length_encode]; exact record.key_pos
  key_le := by rw [Utf8.length_encode]; exact record.key_le
  value_le := by rw [Utf8.length_encode]; exact record.value_le

@[simp] theorem bytes_frame (record : Record) : record.frame.bytes = record.encode := by
  simp only [frame, Frame.bytes, encode, Utf8.length_encode]

/-- The record that some bytes are, or what is wrong with them. -/
def parse (bytes : Bytes) : Except Corruption Record :=
  match Frame.parse bytes with
  | .error reason => .error reason
  | .ok frame => frame.toRecord

/-- Reads the record that begins at an offset of the log and has exactly the given bytes. -/
def decode (offset : Nat) (bytes : Bytes) : Except StoreError Record :=
  match parse bytes with
  | .error reason => .error (.corruption offset reason)
  | .ok record => .ok record

end Record
end KeyLog
