import KeyLog.Bytes

/-!
# Text as bytes

Keys and values are texts, and a record holds their UTF-8 bytes.  `encode` gives the bytes of a
text and `decode` the text of some bytes; `decode_eq_ok_iff` says that each undoes the other.

Bytes that are no text are refused with a `Fault` that says where and how the text breaks off.
The longest valid beginning of the bytes is what counts: either the bytes end inside a sequence
that could still have become a character, or a byte appears which no sequence allows at its place.
Which bytes a sequence allows is the table `followers`; the second byte of some sequences has a
narrower range than the others, which keeps out overlong forms, surrogates and numbers past
`U+10FFFF`.
-/

namespace KeyLog
namespace Utf8

/-- The UTF-8 bytes of a text. -/
def encode (text : String) : Bytes := text.toByteArray.data.toList

/-- The number of bytes of a text. -/
def size (text : String) : Nat := text.utf8ByteSize

@[simp] theorem length_encode (text : String) : (encode text).length = size text :=
  Array.length_toList

/-- A text is known from its bytes. -/
theorem encode_injective {a b : String} (h : encode a = encode b) : a = b := by
  apply String.toByteArray_inj.1
  apply ByteArray.ext
  exact Array.toList_inj.1 h

/-! ## Where a text breaks off -/

/-- Why some bytes are not the bytes of a text. -/
inductive Fault where
  /-- The bytes end inside the character that begins at `index`. -/
  | incomplete (index : Nat)
  /-- The `length` bytes from `index` begin no character. -/
  | invalid (length index : Nat)
  deriving DecidableEq, Repr

/-- The wording of a fault. -/
def Fault.message : Fault → String
  | .incomplete index => s!"incomplete utf-8 byte sequence from index {index}"
  | .invalid length index => s!"invalid utf-8 sequence of {length} bytes from index {index}"

/-- A range of bytes, both ends included. -/
structure ByteRange where
  low : UInt8
  high : UInt8

/-- A byte lies in the range. -/
def ByteRange.contains (range : ByteRange) (byte : UInt8) : Bool :=
  range.low ≤ byte && byte ≤ range.high

/-- What a byte inside a sequence is when nothing narrower is asked of it. -/
def continuation : ByteRange := ⟨0x80, 0xBF⟩

/-- The ranges of the bytes that follow a leading byte, or nothing where the byte leads no
sequence. -/
def followers (lead : UInt8) : Option (List ByteRange) :=
  if lead < 0x80 then some []
  else if lead < 0xC2 then none
  else if lead < 0xE0 then some [continuation]
  else if lead = 0xE0 then some [⟨0xA0, 0xBF⟩, continuation]
  else if lead = 0xED then some [⟨0x80, 0x9F⟩, continuation]
  else if lead < 0xF0 then some [continuation, continuation]
  else if lead = 0xF0 then some [⟨0x90, 0xBF⟩, continuation, continuation]
  else if lead < 0xF4 then some [continuation, continuation, continuation]
  else if lead = 0xF4 then some [⟨0x80, 0x8F⟩, continuation, continuation]
  else none

/-- The first fault of some bytes, where the character in progress began at `start`, has `taken`
bytes and still awaits bytes of the given ranges.  Bytes without a fault are reported as breaking
off at their end. -/
def faultFrom (start taken : Nat) : List ByteRange → Bytes → Fault
  | [], [] => .incomplete (start + taken)
  | _ :: _, [] => .incomplete start
  | [], lead :: rest =>
    match followers lead with
    | none => .invalid 1 (start + taken)
    | some awaited => faultFrom (start + taken) 1 awaited rest
  | range :: awaited, byte :: rest =>
    if range.contains byte then faultFrom start (taken + 1) awaited rest
    else .invalid taken start

/-- The first fault of bytes that are no text. -/
def fault (bytes : Bytes) : Fault := faultFrom 0 0 [] bytes

/-! ## Reading a text -/

/-- The text of some bytes, or their first fault. -/
def decode (bytes : Bytes) : Except Fault String :=
  let raw : ByteArray := ⟨bytes.toArray⟩
  if h : raw.IsValidUTF8 then .ok (.ofByteArray raw h) else .error (fault bytes)

/-- **Reading and writing a text undo each other**: the bytes that are read as a text are exactly
the bytes that the text is written as. -/
theorem decode_eq_ok_iff {bytes : Bytes} {text : String} :
    decode bytes = .ok text ↔ encode text = bytes := by
  unfold decode
  constructor
  · intro h
    dsimp only at h
    split at h
    · cases h
      simp [encode]
    · cases h
  · rintro rfl
    have hraw : (⟨(encode text).toArray⟩ : ByteArray) = text.toByteArray := by
      simp [encode]
    have hvalid : (⟨(encode text).toArray⟩ : ByteArray).IsValidUTF8 := hraw ▸ text.isValidUTF8
    simp only [dif_pos hvalid]
    exact congrArg Except.ok (String.toByteArray_inj.1 hraw)

@[simp] theorem decode_encode (text : String) : decode (encode text) = .ok text :=
  decode_eq_ok_iff.2 rfl

/-! ## The order of texts -/

/-- One text comes before another: its bytes do, in the order of a dictionary. -/
def Before (a b : String) : Prop := encode a < encode b

/-- The bytes of `a` from an index on come before those of `b`, of which `left` are left. -/
def beforeFrom (a b : String) (index : Nat) : (left : Nat) → Bool
  | 0 => false
  | left + 1 =>
    if hb : index < size b then
      if ha : index < size a then
        let byte := a.getUTF8Byte ⟨index⟩ ha
        let other := b.getUTF8Byte ⟨index⟩ hb
        byte < other || (byte == other && beforeFrom a b (index + 1) left)
      else true
    else false

theorem drop_encode {text : String} {index : Nat} (h : index < size text) :
    (encode text).drop index = text.getUTF8Byte ⟨index⟩ h :: (encode text).drop (index + 1) := by
  rw [List.drop_eq_getElem_cons (by rw [length_encode]; exact h)]
  rfl

theorem beforeFrom_eq_true_iff {a b : String} {index left : Nat} (h : size b = index + left) :
    beforeFrom a b index left = true ↔ (encode a).drop index < (encode b).drop index := by
  induction left generalizing index with
  | zero =>
    have hb : (encode b).drop index = [] := List.drop_eq_nil_of_le (by rw [length_encode]; omega)
    simp [beforeFrom, hb]
  | succ left ih =>
    have hb : index < size b := by omega
    rw [beforeFrom, dif_pos hb, drop_encode hb]
    by_cases ha : index < size a
    · rw [dif_pos ha, drop_encode ha, List.cons_lt_cons_iff]
      simp [ih (show size b = index + 1 + left by omega)]
    · have hnil : (encode a).drop index = [] :=
        List.drop_eq_nil_of_le (by rw [length_encode]; omega)
      rw [dif_neg ha, hnil]
      simp

instance (a b : String) : Decidable (Before a b) :=
  decidable_of_iff (beforeFrom a b 0 (size b) = true) (beforeFrom_eq_true_iff (Nat.zero_add _).symm)

theorem Before.trans {a b c : String} (hab : Before a b) (hbc : Before b c) : Before a c :=
  List.lt_trans hab hbc

theorem Before.irrefl (a : String) : ¬ Before a a :=
  List.lt_irrefl _

/-- Of two different texts one comes before the other. -/
theorem Before.total {a b : String} (h : a ≠ b) : Before a b ∨ Before b a := by
  by_cases hab : Before a b
  · exact .inl hab
  · by_cases hba : Before b a
    · exact .inr hba
    · exact absurd (encode_injective (List.le_antisymm hba hab)) h

end Utf8
end KeyLog
