/-!
# The layout of a record

A record lies in the log as five fields without gaps:

    key length (1) | key | value length (4) | value | checksum (4)

A key has 1 to 255 bytes, so its length fits one byte; a value has at most 65535.  The sizes below
are the only numbers that the format knows.
-/

namespace KeyLog
namespace Layout

/-- The width of the key length. -/
def keyLengthWidth : Nat := 1

/-- The width of the value length. -/
def valueLengthWidth : Nat := 4

/-- The width of the checksum. -/
def checksumWidth : Nat := 4

/-- The most bytes a key may have. -/
def maxKeySize : Nat := 255

/-- The most bytes a value may have. -/
def maxValueSize : Nat := 65535

/-- The bytes that a record takes in the log, from the sizes of its key and its value. -/
def recordSize (keySize valueSize : Nat) : Nat :=
  keyLengthWidth + keySize + valueLengthWidth + valueSize + checksumWidth

/-- The same sum in words of 64 bits, for a caller who counts in those; it wraps around where the
sum does not fit. -/
def recordSizeWord (keySize valueSize : UInt64) : UInt64 :=
  .ofNat keyLengthWidth + keySize + .ofNat valueLengthWidth + valueSize + .ofNat checksumWidth

/-- The size of the smallest record: a key of one byte and an empty value. -/
def minRecordSize : Nat := recordSize 1 0

/-- The size of the largest record. -/
def maxRecordSize : Nat := recordSize maxKeySize maxValueSize

theorem recordSize_eq (keySize valueSize : Nat) :
    recordSize keySize valueSize = keySize + valueSize + 9 := by
  simp only [recordSize, keyLengthWidth, valueLengthWidth, checksumWidth]
  omega

/-- A record within the bounds has a size between the smallest and the largest. -/
theorem recordSize_bounds {keySize valueSize : Nat} (hpos : 0 < keySize)
    (hkey : keySize ≤ maxKeySize) (hvalue : valueSize ≤ maxValueSize) :
    minRecordSize ≤ recordSize keySize valueSize ∧
      recordSize keySize valueSize ≤ maxRecordSize := by
  simp only [minRecordSize, maxRecordSize, recordSize_eq, maxKeySize, maxValueSize] at *
  omega

end Layout
end KeyLog
