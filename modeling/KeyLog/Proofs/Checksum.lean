import KeyLog.Checksum
import Mathlib.Algebra.Group.Nat.Defs

/-!
# Which changes a checksum notices

Two byte strings of one length have the same CRC-32 only if the difference between them is a multiple
of the divisor.  This file needs only the half of it that is a promise to the reader of a log: bytes
that differ within four neighbouring places never have the same checksum.

* `shiftBit_injective`, `foldl_absorb_injective`: nothing is lost on the way.  Remainders that differ
  go on to differ, whatever bytes follow.
* `foldl_absorb_of_length_le`: up to four bytes are absorbed like one word, because none of their bits
  has reached the lowest place before the last byte comes in.
* `eq_of_crc32_eq`: hence a change within four bytes changes the checksum.

## Why nothing is lost

A shift of the remainder is linear in exclusive or, so it is enough that no remainder but zero is
shifted to zero.  If the lowest bit was set, the divisor is taken away and leaves the highest bit set;
if it was not, the shift is a division by two without a rest.
-/

namespace KeyLog

namespace LittleEndian

/-- A number of `n` base-256 digits is below `256 ^ n`. -/
theorem value_lt_pow (bytes : Bytes) : value bytes < 256 ^ bytes.length := by
  induction bytes with
  | nil => exact Nat.one_pos
  | cons byte rest ih =>
    have hbyte := byte.toNat_lt
    rw [value_cons, List.length_cons, Nat.pow_succ]
    omega

/-- As many digits that stand for the same number are the same. -/
theorem value_injective {a b : Bytes} (hlength : a.length = b.length) (h : value a = value b) :
    a = b := by
  induction a generalizing b with
  | nil => exact (List.length_eq_zero_iff.1 hlength.symm).symm
  | cons x a ih =>
    cases b with
    | nil => cases hlength
    | cons y b =>
      have hx := x.toNat_lt
      have hy := y.toNat_lt
      rw [value_cons, value_cons] at h
      have hdigit : x = y := UInt8.toNat_inj.1 (by omega)
      have hrest : a = b := ih (Nat.succ.inj hlength) (by omega)
      rw [hdigit, hrest]

end LittleEndian

namespace Checksum

/-! ## One bit -/

theorem toNat_and_one (a : UInt32) : (a &&& 1).toNat = a.toNat % 2 := by
  rw [UInt32.toNat_and]
  exact Nat.and_one_is_mod a.toNat

theorem and_one_eq_one_iff (a : UInt32) : a &&& 1 = 1 ↔ a.toNat % 2 = 1 := by
  rw [← UInt32.toNat_inj, toNat_and_one]
  rfl

theorem toNat_shiftRight_one (a : UInt32) : (a >>> 1).toNat = a.toNat / 2 := by
  rw [UInt32.toNat_shiftRight]
  exact Nat.shiftRight_eq_div_pow a.toNat 1

/-- **A shift is linear in exclusive or.** -/
theorem shiftBit_xor (a b : UInt32) : shiftBit (a ^^^ b) = shiftBit a ^^^ shiftBit b := by
  have hlow : (a ^^^ b) &&& 1 = 1 ↔ ¬ (a &&& 1 = 1 ↔ b &&& 1 = 1) := by
    simp only [and_one_eq_one_iff, UInt32.toNat_xor]
    exact Nat.xor_mod_two_eq_one
  unfold shiftBit
  rw [UInt32.shiftRight_xor]
  by_cases ha : a &&& 1 = 1
  · by_cases hb : b &&& 1 = 1
    · -- the divisor is taken away twice, which is not at all
      rw [if_neg (by simp [hlow, ha, hb]), if_pos ha, if_pos hb, UInt32.xor_assoc,
        UInt32.xor_comm polynomial, UInt32.xor_assoc, UInt32.xor_self, UInt32.xor_zero]
    · rw [if_pos (by simp [hlow, ha, hb]), if_pos ha, if_neg hb, UInt32.xor_assoc,
        UInt32.xor_comm (b >>> 1), UInt32.xor_assoc]
  · by_cases hb : b &&& 1 = 1
    · rw [if_pos (by simp [hlow, ha, hb]), if_neg ha, if_pos hb, UInt32.xor_assoc]
    · rw [if_neg (by simp [hlow, ha, hb]), if_neg ha, if_neg hb]

/-- No remainder but zero is shifted to zero. -/
theorem eq_zero_of_shiftBit {a : UInt32} (h : shiftBit a = 0) : a = 0 := by
  have ha := a.toNat_lt
  unfold shiftBit at h
  split at h
  · -- the divisor has set the highest bit, which a shift has cleared
    have hshift : a >>> 1 = polynomial := UInt32.xor_eq_zero_iff.1 h
    have hvalue := congrArg UInt32.toNat hshift
    rw [toNat_shiftRight_one] at hvalue
    have : polynomial.toNat = 0xEDB88320 := rfl
    omega
  next hlow =>
    have hvalue := congrArg UInt32.toNat h
    rw [toNat_shiftRight_one] at hvalue
    rw [and_one_eq_one_iff] at hlow
    apply UInt32.toNat_inj.1
    have : (0 : UInt32).toNat = 0 := rfl
    omega

/-- Remainders that differ are shifted to remainders that differ. -/
theorem shiftBit_injective : Function.Injective shiftBit := by
  intro a b h
  have hdifference : shiftBit (a ^^^ b) = 0 := by
    rw [shiftBit_xor, h, UInt32.xor_self]
  exact UInt32.xor_eq_zero_iff.1 (eq_zero_of_shiftBit hdifference)

/-! ## Several bits -/

theorem shiftBits_xor (n : Nat) (a b : UInt32) :
    shiftBits n (a ^^^ b) = shiftBits n a ^^^ shiftBits n b := by
  induction n generalizing a b with
  | zero => rfl
  | succ n ih => rw [shiftBits, shiftBit_xor, ih, shiftBits, shiftBits]

theorem shiftBits_injective (n : Nat) : Function.Injective (shiftBits n) := by
  induction n with
  | zero => exact fun _ _ h => h
  | succ n ih => exact fun _ _ h => shiftBit_injective (ih h)

theorem shiftBits_add (m n : Nat) (remainder : UInt32) :
    shiftBits (m + n) remainder = shiftBits n (shiftBits m remainder) := by
  induction m generalizing remainder with
  | zero => rw [Nat.zero_add, shiftBits]
  | succ m ih => rw [Nat.succ_add, shiftBits, shiftBits, ih]

/-- A remainder whose lowest `n` bits are not set only moves down. -/
theorem shiftBits_of_multiple {n k : Nat} (h : 2 ^ n * k < 4294967296) :
    shiftBits n (.ofNat (2 ^ n * k)) = .ofNat k := by
  induction n with
  | zero => rw [Nat.pow_zero, Nat.one_mul, shiftBits]
  | succ n ih =>
    have hdouble : 2 ^ (n + 1) * k = 2 * (2 ^ n * k) := by
      rw [Nat.pow_succ, Nat.mul_comm (2 ^ n) 2, Nat.mul_assoc]
    rw [hdouble] at h
    have hvalue : (UInt32.ofNat (2 * (2 ^ n * k))).toNat = 2 * (2 ^ n * k) :=
      UInt32.toNat_ofNat_of_lt' h
    have hlow : ¬ UInt32.ofNat (2 * (2 ^ n * k)) &&& 1 = 1 := by
      rw [and_one_eq_one_iff, hvalue]
      omega
    have hhalf : UInt32.ofNat (2 * (2 ^ n * k)) >>> 1 = .ofNat (2 ^ n * k) := by
      apply UInt32.toNat_inj.1
      rw [toNat_shiftRight_one, hvalue,
        UInt32.toNat_ofNat_of_lt' (show 2 ^ n * k < 4294967296 by omega)]
      omega
    rw [hdouble, shiftBits, shiftBit, if_neg hlow, hhalf]
    exact ih (by omega)

/-! ## Bytes -/

/-- **Remainders that differ go on to differ**, whatever bytes follow. -/
theorem foldl_absorb_injective (bytes : Bytes) :
    Function.Injective fun remainder => bytes.foldl absorb remainder := by
  induction bytes with
  | nil => exact fun _ _ h => h
  | cons byte rest ih =>
    intro a b h
    have habsorb : absorb a byte = absorb b byte := ih h
    exact (UInt32.xor_left_inj _).1 (shiftBits_injective 8 habsorb)

/-- A byte that is followed by others makes up the lowest digit of their word. -/
theorem toUInt32_xor_ofNat (byte : UInt8) {k : Nat} (h : 256 * k < 4294967296) :
    byte.toUInt32 ^^^ .ofNat (256 * k) = .ofNat (byte.toNat + 256 * k) := by
  have hbyte := byte.toNat_lt
  have hsum : byte.toNat ^^^ 256 * k = byte.toNat + 256 * k := by
    -- the last eight bits come from the byte, and all others from the number
    have hlast := Nat.xor_mod_two_pow (a := byte.toNat) (b := 256 * k) (n := 8)
    have hfirst := Nat.xor_div_two_pow (a := byte.toNat) (b := 256 * k) (n := 8)
    rw [show 256 * k % 2 ^ 8 = 0 by omega, Nat.xor_zero] at hlast
    rw [show byte.toNat / 2 ^ 8 = 0 by omega, Nat.zero_xor] at hfirst
    omega
  apply UInt32.toNat_inj.1
  rw [UInt32.toNat_xor, UInt8.toNat_toUInt32, UInt32.toNat_ofNat_of_lt' h, hsum]
  exact (UInt32.toNat_ofNat_of_lt' (show byte.toNat + 256 * k < 4294967296 by omega)).symm

/-- **Up to four bytes are absorbed like one word.** -/
theorem foldl_absorb_of_length_le (remainder : UInt32) {bytes : Bytes} (h : bytes.length ≤ 4) :
    bytes.foldl absorb remainder =
      shiftBits (8 * bytes.length) (remainder ^^^ .ofNat (LittleEndian.value bytes)) := by
  induction bytes generalizing remainder with
  | nil => exact (UInt32.xor_zero).symm
  | cons byte rest ih =>
    have hrest : rest.length ≤ 3 := Nat.le_of_succ_le_succ h
    have hvalue : LittleEndian.value rest < 256 ^ 3 :=
      Nat.lt_of_lt_of_le (LittleEndian.value_lt_pow rest) (Nat.pow_le_pow_right (by decide) hrest)
    have hsmall : 256 * LittleEndian.value rest < 4294967296 := by omega
    have hshift : shiftBits 8 (.ofNat (256 * LittleEndian.value rest)) =
        .ofNat (LittleEndian.value rest) := shiftBits_of_multiple (n := 8) hsmall
    calc
      rest.foldl absorb (absorb remainder byte)
        = shiftBits (8 * rest.length)
            (shiftBits 8 (remainder ^^^ byte.toUInt32) ^^^ .ofNat (LittleEndian.value rest)) :=
          ih _ (Nat.le_succ_of_le hrest)
      _ = shiftBits (8 * rest.length) (shiftBits 8 (remainder ^^^ byte.toUInt32 ^^^
            .ofNat (256 * LittleEndian.value rest))) := by
          rw [shiftBits_xor 8 (remainder ^^^ byte.toUInt32), hshift]
      _ = shiftBits (8 + 8 * rest.length) (remainder ^^^
            .ofNat (byte.toNat + 256 * LittleEndian.value rest)) := by
          rw [shiftBits_add, UInt32.xor_assoc, toUInt32_xor_ofNat byte hsmall]
      _ = shiftBits (8 * (byte :: rest).length)
            (remainder ^^^ .ofNat (LittleEndian.value (byte :: rest))) := by
          rw [LittleEndian.value_cons, List.length_cons, Nat.mul_succ, Nat.add_comm]

/-- Up to four bytes are known from what they make of a remainder. -/
theorem eq_of_foldl_absorb (remainder : UInt32) {a b : Bytes} (hlength : a.length = b.length)
    (hshort : a.length ≤ 4) (h : a.foldl absorb remainder = b.foldl absorb remainder) : a = b := by
  have hsmall : ∀ bytes : Bytes, bytes.length ≤ 4 → LittleEndian.value bytes < 4294967296 := by
    intro bytes hbytes
    exact Nat.lt_of_lt_of_le (LittleEndian.value_lt_pow bytes)
      (Nat.pow_le_pow_right (by decide) hbytes)
  have hshort' : b.length ≤ 4 := hlength ▸ hshort
  rw [foldl_absorb_of_length_le remainder hshort, foldl_absorb_of_length_le remainder hshort',
    hlength] at h
  have hwords := (UInt32.xor_right_inj _).1 (shiftBits_injective _ h)
  have hvalues := congrArg UInt32.toNat hwords
  rw [UInt32.toNat_ofNat_of_lt' (hsmall a hshort),
    UInt32.toNat_ofNat_of_lt' (hsmall b hshort')] at hvalues
  exact LittleEndian.value_injective hlength hvalues

/-- **A change within four bytes changes the checksum**, whatever stands before and behind. -/
theorem eq_of_crc32_eq (front back : Bytes) {a b : Bytes} (hlength : a.length = b.length)
    (hshort : a.length ≤ 4) (h : crc32 (front ++ (a ++ back)) = crc32 (front ++ (b ++ back))) :
    a = b := by
  rw [crc32_append, crc32_append, List.foldl_append, List.foldl_append, UInt32.not_inj] at h
  exact eq_of_foldl_absorb _ hlength hshort (foldl_absorb_injective back h)

end Checksum
end KeyLog
