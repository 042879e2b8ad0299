import KeyLog.Checksum
import KeyLog.Layout
import KeyLog.Text.Utf8

/-!
# Records

A record is a key and a value, two texts whose sizes the layout can hold; the bounds are part of
the type, so every record has an encoding and no operation on records has to test them again.  The
checksum is not stored in a record: it is a function of the two texts, and only the bytes in the
log can disagree with it.
-/

namespace KeyLog

/-- A key and a value within the bounds of the layout. -/
structure Record where
  key : String
  value : String
  key_pos : 0 < Utf8.size key
  key_le : Utf8.size key ≤ Layout.maxKeySize
  value_le : Utf8.size value ≤ Layout.maxValueSize
  deriving DecidableEq

namespace Record

/-- The record of a key and a value, if their sizes are within the bounds. -/
def ofTexts? (key value : String) : Option Record :=
  if h : 0 < Utf8.size key ∧ Utf8.size key ≤ Layout.maxKeySize ∧
      Utf8.size value ≤ Layout.maxValueSize then
    some ⟨key, value, h.1, h.2.1, h.2.2⟩
  else none

/-- The checksum of a key and a value, given as bytes: one CRC-32 over both. -/
def checksumOf (key value : Bytes) : UInt32 := Checksum.crc32 (key ++ value)

/-- The checksum that belongs to the record. -/
def checksum (record : Record) : UInt32 :=
  checksumOf (Utf8.encode record.key) (Utf8.encode record.value)

/-- The bytes that the record takes in the log. -/
def size (record : Record) : Nat :=
  Layout.recordSize (Utf8.size record.key) (Utf8.size record.value)

/-- The bytes of the record, field by field as the layout says. -/
def encode (record : Record) : Bytes :=
  .ofNat (Utf8.size record.key) ::
    (Utf8.encode record.key ++
      (LittleEndian.word (Utf8.size record.value) ++
        (Utf8.encode record.value ++ LittleEndian.word record.checksum.toNat)))

@[simp] theorem length_encode (record : Record) : record.encode.length = record.size := by
  simp only [encode, size, Layout.recordSize_eq, List.length_cons, List.length_append,
    Utf8.length_encode, LittleEndian.length_word]
  omega

/-- No record is empty. -/
theorem size_pos (record : Record) : 0 < record.size := by
  rw [size, Layout.recordSize_eq]
  omega

/-- Two records with the same texts are the same. -/
theorem eq_of_texts {a b : Record} (hkey : a.key = b.key) (hvalue : a.value = b.value) : a = b := by
  cases a
  cases b
  cases hkey
  cases hvalue
  rfl

end Record
end KeyLog
