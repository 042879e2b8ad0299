/-!
# Byte strings and four-byte lengths

A log is a byte string, and the lengths and checksums in it are numbers of four bytes, the least
significant first.  Byte strings are lists here, so that a law about the log is an induction over
its bytes, and a length is a natural number that is cut into base-256 digits, so that `omega` sees
through the digits.

The two directions of the digit law, `value_word` and `word_value`, say that a word of four bytes
is nothing but a number below `2 ^ 32`.
-/

namespace KeyLog

/-- A string of bytes. -/
abbrev Bytes := List UInt8

namespace LittleEndian

/-- The four base-256 digits of a number, the least significant first.  A number of `2 ^ 32` or
more loses its higher digits. -/
def word (n : Nat) : Bytes :=
  [.ofNat n, .ofNat (n / 256), .ofNat (n / 65536), .ofNat (n / 16777216)]

/-- The number whose base-256 digits, the least significant first, are the given bytes. -/
def value (digits : Bytes) : Nat :=
  digits.foldr (fun digit rest => digit.toNat + 256 * rest) 0

@[simp] theorem length_word (n : Nat) : (word n).length = 4 := rfl

@[simp] theorem take_word_append (n : Nat) (rest : Bytes) : (word n ++ rest).take 4 = word n := rfl

@[simp] theorem drop_word_append (n : Nat) (rest : Bytes) : (word n ++ rest).drop 4 = rest := rfl

@[simp] theorem value_nil : value [] = 0 := rfl

@[simp] theorem value_cons (b : UInt8) (bs : Bytes) :
    value (b :: bs) = b.toNat + 256 * value bs := rfl

/-- A number below `2 ^ 32` is read back from its word. -/
theorem value_word {n : Nat} (h : n < 4294967296) : value (word n) = n := by
  simp only [word, value_cons, value_nil, UInt8.toNat_ofNat']
  omega

/-- Four bytes are the word of the number they stand for. -/
theorem word_value {bs : Bytes} (h : bs.length = 4) : word (value bs) = bs := by
  match bs, h with
  | [a, b, c, d], _ =>
    have ha := a.toNat_lt
    have hb := b.toNat_lt
    have hc := c.toNat_lt
    have hd := d.toNat_lt
    simp only [word, value_cons, value_nil, List.cons.injEq, and_true]
    refine ⟨?_, ?_, ?_, ?_⟩ <;> apply UInt8.toNat_inj.1 <;> rw [UInt8.toNat_ofNat'] <;> omega

/-- Four bytes stand for a number below `2 ^ 32`. -/
theorem value_lt {bs : Bytes} (h : bs.length = 4) : value bs < 4294967296 := by
  match bs, h with
  | [a, b, c, d], _ =>
    have ha := a.toNat_lt
    have hb := b.toNat_lt
    have hc := c.toNat_lt
    have hd := d.toNat_lt
    simp only [value_cons, value_nil]
    omega

end LittleEndian

end KeyLog
