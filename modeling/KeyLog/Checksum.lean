import KeyLog.Bytes

/-!
# The CRC-32 of a byte string

The checksum of a record is the cyclic redundancy check of IEEE 802.3: the remainder of a
polynomial division over the field of two elements, in the reflected form in which the lowest bit
is divided first.

The definition divides bit by bit and uses no table.  A shift of the remainder is linear in
exclusive or, and so is everything built from it; that linearity is what a law about detected
changes rests on, and a table of 256 words would only hide it.
-/

namespace KeyLog
namespace Checksum

/-- The divisor, with its bits reflected and the highest one left out. -/
def polynomial : UInt32 := 0xEDB88320

/-- Divides out the lowest bit of the remainder. -/
def shiftBit (remainder : UInt32) : UInt32 :=
  if remainder &&& 1 = 1 then (remainder >>> 1) ^^^ polynomial else remainder >>> 1

/-- Divides out the lowest `n` bits of the remainder. -/
def shiftBits : Nat → UInt32 → UInt32
  | 0, remainder => remainder
  | n + 1, remainder => shiftBits n (shiftBit remainder)

/-- The remainder after one more byte. -/
def absorb (remainder : UInt32) (byte : UInt8) : UInt32 :=
  shiftBits 8 (remainder ^^^ byte.toUInt32)

/-- The CRC-32 of a byte string: all bits of the remainder are flipped before the first byte and
after the last one. -/
def crc32 (bytes : Bytes) : UInt32 :=
  ~~~ bytes.foldl absorb 0xFFFFFFFF

/-- The checksum of two byte strings laid end to end goes on from the remainder of the first. -/
theorem crc32_append (a b : Bytes) :
    crc32 (a ++ b) = ~~~ b.foldl absorb (a.foldl absorb 0xFFFFFFFF) := by
  simp [crc32, List.foldl_append]

end Checksum
end KeyLog
