import KeyLog.Bytes

/-!
# Sparse byte strings

What a disk keeps of a byte string are its *extents*: stretches of bytes as they were written, and
holes, which nobody wrote and which read as zeros.  A `SparseBytes` is a byte string that is kept
like that.  Adding to its end touches nothing that is there already, a hole takes no room however
long it is, and the size is known without counting.

## What the operations mean

`toBytes` is the byte string that is meant.  The extents are nobody's business outside this module:
every operation has a law that says what it does to the bytes, whatever the extents are.

* `size_eq`: the size is the number of bytes.
* `toBytes_push`: an extent is added at the end.
* `read_eq`: reading gives the bytes of a range, as far as there are any.
* `toBytes_fit`: a byte string is cut, or filled with zeros, to a length.
* `toBytes_overwrite`: bytes are written over others, or past the end.
* `bytes_after`: the extents from an offset on hold the bytes from there on.
-/

namespace KeyLog

/-! ## Extents -/

/-- A stretch of a byte string. -/
inductive Extent where
  | written (bytes : Bytes)
  /-- Zeros that nobody wrote. -/
  | hole (size : Nat)
  deriving DecidableEq, Repr

namespace Extent

/-- The bytes of the stretch. -/
def bytes : Extent → Bytes
  | .written bytes => bytes
  | .hole size => List.replicate size 0

/-- The number of bytes of the stretch. -/
def size : Extent → Nat
  | .written bytes => bytes.length
  | .hole size => size

@[simp] theorem length_bytes (extent : Extent) : extent.bytes.length = extent.size := by
  cases extent <;> simp [bytes, size]

/-- The first `n` bytes of the stretch. -/
def take (n : Nat) : Extent → Extent
  | .written bytes => .written (bytes.take n)
  | .hole size => .hole (min n size)

@[simp] theorem bytes_take (n : Nat) (extent : Extent) :
    (extent.take n).bytes = extent.bytes.take n := by
  cases extent <;> simp [bytes, take]

/-- The stretch without its first `n` bytes. -/
def drop (n : Nat) : Extent → Extent
  | .written bytes => .written (bytes.drop n)
  | .hole size => .hole (size - n)

@[simp] theorem bytes_drop (n : Nat) (extent : Extent) :
    (extent.drop n).bytes = extent.bytes.drop n := by
  cases extent <;> simp [bytes, drop]

end Extent

/-- Extents, the last one first and each with its offset, lie end to end: each begins where the one
before it ends, the first begins at 0, and the last ends at the given size. -/
def Contiguous : List (Nat × Extent) → Nat → Prop
  | [], size => size = 0
  | (start, extent) :: before, size => start + extent.size = size ∧ Contiguous before start

/-- A byte string kept in extents. -/
structure SparseBytes where
  /-- The extents and their offsets, the last one first. -/
  extents : List (Nat × Extent)
  /-- The number of bytes. -/
  size : Nat
  contiguous : Contiguous extents size

namespace SparseBytes

/-! ## The bytes that are meant -/

/-- The bytes of some extents, with others after them. -/
def join : List (Nat × Extent) → Bytes → Bytes
  | [], later => later
  | (_, extent) :: before, later => join before (extent.bytes ++ later)

theorem join_eq (extents : List (Nat × Extent)) (later : Bytes) :
    join extents later = join extents [] ++ later := by
  induction extents generalizing later with
  | nil => rfl
  | cons entry before ih =>
    rw [join, join, ih, ih (entry.2.bytes ++ []), List.append_nil, List.append_assoc]

theorem join_cons (start : Nat) (extent : Extent) (before : List (Nat × Extent)) :
    join ((start, extent) :: before) [] = join before [] ++ extent.bytes := by
  rw [join, join_eq, List.append_nil]

theorem length_join {extents : List (Nat × Extent)} {size : Nat} (h : Contiguous extents size) :
    (join extents []).length = size := by
  induction extents generalizing size with
  | nil => exact h.symm
  | cons entry before ih =>
    obtain ⟨start, extent⟩ := entry
    rw [join_cons, List.length_append, ih h.2, Extent.length_bytes]
    exact h.1

/-- The bytes of a sparse byte string. -/
def toBytes (sparse : SparseBytes) : Bytes := join sparse.extents []

/-- The size is the number of bytes. -/
theorem size_eq (sparse : SparseBytes) : sparse.size = sparse.toBytes.length :=
  (length_join sparse.contiguous).symm

/-! ## Adding at the end -/

/-- The byte string without bytes. -/
def empty : SparseBytes := ⟨[], 0, rfl⟩

instance : Inhabited SparseBytes := ⟨empty⟩

@[simp] theorem toBytes_empty : empty.toBytes = [] := rfl

/-- Adds an extent at the end. -/
def push (sparse : SparseBytes) (extent : Extent) : SparseBytes :=
  ⟨(sparse.size, extent) :: sparse.extents, sparse.size + extent.size, rfl, sparse.contiguous⟩

@[simp] theorem toBytes_push (sparse : SparseBytes) (extent : Extent) :
    (sparse.push extent).toBytes = sparse.toBytes ++ extent.bytes :=
  join_cons _ _ _

/-- Adds extents at the end, one after the other. -/
theorem toBytes_foldl_push (sparse : SparseBytes) (extents : List Extent) :
    (extents.foldl push sparse).toBytes = sparse.toBytes ++ extents.flatMap Extent.bytes := by
  induction extents generalizing sparse with
  | nil => simp
  | cons extent rest ih => simp [ih]

/-- A byte string in one extent. -/
def ofBytes (bytes : Bytes) : SparseBytes := empty.push (.written bytes)

@[simp] theorem toBytes_ofBytes (bytes : Bytes) : (ofBytes bytes).toBytes = bytes := by
  simp [ofBytes, Extent.bytes]

/-! ## Reading a range -/

/-- The bytes of a range, looked for from the last extent on. -/
def readFrom : List (Nat × Extent) → (offset length : Nat) → Bytes
  | [], _, _ => []
  | (start, extent) :: before, offset, length =>
    if offset + length ≤ start then readFrom before offset length
    else if start ≤ offset then ((extent.drop (offset - start)).take length).bytes
    else
      readFrom before offset (start - offset) ++ (extent.take (length - (start - offset))).bytes

theorem readFrom_eq {extents : List (Nat × Extent)} {size : Nat} (h : Contiguous extents size)
    (offset length : Nat) :
    readFrom extents offset length = ((join extents []).drop offset).take length := by
  induction extents generalizing size length with
  | nil => simp [readFrom, join]
  | cons entry before ih =>
    obtain ⟨start, extent⟩ := entry
    have hbefore := length_join h.2
    rw [readFrom, join_cons]
    split
    next hend =>
      -- the range ends before the last extent
      rw [ih h.2, List.drop_append_of_le_length (by omega), List.take_append_of_le_length]
      rw [List.length_drop]
      omega
    next hend =>
      split
      next hstart =>
        -- the range lies in the last extent
        rw [List.drop_append, List.drop_eq_nil_of_le (by omega), List.nil_append, hbefore,
          Extent.bytes_take, Extent.bytes_drop]
      next hstart =>
        -- the range begins before the last extent and reaches into it
        have hrest : (List.drop offset (join before [])).length = start - offset := by
          rw [List.length_drop, hbefore]
        rw [ih h.2, List.drop_append_of_le_length (by omega), List.take_append, hrest,
          List.take_of_length_le (Nat.le_of_eq hrest), List.take_of_length_le (by omega),
          Extent.bytes_take]

/-- The bytes from an offset on, at most `length` of them. -/
def read (sparse : SparseBytes) (offset length : Nat) : Bytes :=
  readFrom sparse.extents offset length

theorem read_eq (sparse : SparseBytes) (offset length : Nat) :
    sparse.read offset length = (sparse.toBytes.drop offset).take length :=
  readFrom_eq sparse.contiguous offset length

/-! ## The extents from an offset on -/

/-- The extents from an offset on, in order, with others after them. -/
def afterFrom : List (Nat × Extent) → (offset : Nat) → List Extent → List Extent
  | [], _, later => later
  | (start, extent) :: before, offset, later =>
    if start ≤ offset then extent.drop (offset - start) :: later
    else afterFrom before offset (extent :: later)

theorem bytes_afterFrom {extents : List (Nat × Extent)} {size : Nat} (h : Contiguous extents size)
    (offset : Nat) (later : List Extent) :
    (afterFrom extents offset later).flatMap Extent.bytes =
      (join extents []).drop offset ++ later.flatMap Extent.bytes := by
  induction extents generalizing size later with
  | nil => simp [afterFrom, join]
  | cons entry before ih =>
    obtain ⟨start, extent⟩ := entry
    have hbefore := length_join h.2
    rw [afterFrom, join_cons]
    split
    next hstart =>
      have hnone : (join before []).drop offset = [] := List.drop_eq_nil_of_le (by omega)
      rw [List.flatMap_cons, Extent.bytes_drop, List.drop_append, hnone, List.nil_append, hbefore]
    next hstart =>
      rw [ih h.2, List.flatMap_cons, List.drop_append_of_le_length (by omega), List.append_assoc]

/-- The extents from an offset on, in order. -/
def after (sparse : SparseBytes) (offset : Nat) : List Extent :=
  afterFrom sparse.extents offset []

theorem bytes_after (sparse : SparseBytes) (offset : Nat) :
    (sparse.after offset).flatMap Extent.bytes = sparse.toBytes.drop offset := by
  rw [after, bytes_afterFrom sparse.contiguous, List.flatMap_nil, List.append_nil, toBytes]

/-! ## Changing the length -/

/-- The first `length` bytes of some extents that lie end to end. -/
def cutFrom (length : Nat) :
    (extents : List (Nat × Extent)) → (size : Nat) → Contiguous extents size → SparseBytes
  | [], _, _ => empty
  | (start, extent) :: before, _, h =>
    if length ≤ start then cutFrom length before start h.2
    else push ⟨before, start, h.2⟩ (extent.take (length - start))

theorem toBytes_cutFrom (length : Nat) {extents : List (Nat × Extent)} {size : Nat}
    (h : Contiguous extents size) :
    (cutFrom length extents size h).toBytes = (join extents []).take length := by
  induction extents generalizing size with
  | nil => simp [cutFrom, join]
  | cons entry before ih =>
    obtain ⟨start, extent⟩ := entry
    have hbefore := length_join h.2
    rw [cutFrom, join_cons]
    split
    next hstart => rw [ih, List.take_append_of_le_length (by omega)]
    next hstart =>
      have hall : (join before []).take length = join before [] :=
        List.take_of_length_le (by omega)
      rw [toBytes_push, Extent.bytes_take, List.take_append, hall, hbefore, toBytes]

/-- Cuts a byte string to a length, or fills it with zeros up to there. -/
def fit (sparse : SparseBytes) (length : Nat) : SparseBytes :=
  if sparse.size < length then sparse.push (.hole (length - sparse.size))
  else if length < sparse.size then cutFrom length sparse.extents sparse.size sparse.contiguous
  else sparse

theorem toBytes_fit (sparse : SparseBytes) (length : Nat) :
    (sparse.fit length).toBytes =
      sparse.toBytes.take length ++ List.replicate (length - sparse.toBytes.length) 0 := by
  rw [← size_eq]
  have hsize := sparse.size_eq
  unfold fit
  split
  · rw [toBytes_push, List.take_of_length_le (by omega), Extent.bytes]
  · split
    · rw [toBytes_cutFrom, Nat.sub_eq_zero_of_le (by omega), toBytes]
      simp
    · rw [List.take_of_length_le (by omega), Nat.sub_eq_zero_of_le (by omega)]
      simp

/-! ## Writing over bytes -/

/-- Writes bytes from an offset on, over those that are there; a gap before the offset is filled
with zeros. -/
def overwrite (sparse : SparseBytes) (offset : Nat) (bytes : Bytes) : SparseBytes :=
  (sparse.after (offset + bytes.length)).foldl push ((sparse.fit offset).push (.written bytes))

theorem toBytes_overwrite (sparse : SparseBytes) (offset : Nat) (bytes : Bytes) :
    (sparse.overwrite offset bytes).toBytes =
      (sparse.fit offset).toBytes ++ bytes ++ sparse.toBytes.drop (offset + bytes.length) := by
  rw [overwrite, toBytes_foldl_push, toBytes_push, bytes_after, Extent.bytes]

end SparseBytes
end KeyLog
