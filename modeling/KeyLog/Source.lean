import KeyLog.Sparse
import KeyLog.SystemError

/-!
# Where bytes come from

A log is read from the front, and the bytes may arrive in any pieces: a read may be interrupted
and is then tried again, it may fail, and a source may say that it has ended and go on later.  A
`Source` is the list of what will happen, and `take` asks it for a number of bytes.

Asking for `n` bytes gives all `n`, or fewer when the source says that it has ended, or the
failure.  Bytes that were taken before a failure are gone, as they are with a real source.
-/

namespace KeyLog

namespace Source

/-- One thing that a source does when it is read. -/
inductive Event where
  /-- Some bytes arrive. -/
  | data (extent : Extent)
  /-- The read fails, once. -/
  | failure (cause : SystemError)
  /-- The read is interrupted and has to be tried again. -/
  | interruption
  /-- The source says, once, that it has ended. -/
  | pause
  deriving DecidableEq, Repr

end Source

/-- What a source will do; after its last event it has ended for good. -/
abbrev Source := List Source.Event

namespace Source

/-- The source that delivers some bytes in one piece. -/
def ofBytes (bytes : Bytes) : Source := [.data (.written bytes)]

/-- The source that delivers a sparse byte string, extent by extent. -/
def ofSparse (sparse : SparseBytes) : Source := (sparse.after 0).map .data

/-- The bytes that are still to come. -/
def bytesLeft : Source → Nat
  | [] => 0
  | .data extent :: rest => extent.size + bytesLeft rest
  | _ :: rest => bytesLeft rest

/-- Asks a source for `n` bytes. -/
def take (n : Nat) : Source → Except SystemError Bytes × Source
  | [] => (.ok [], [])
  | .data extent :: rest =>
    let got := (extent.take n).bytes
    if got.length = n then (.ok got, .data (extent.drop n) :: rest)
    else
      match take (n - got.length) rest with
      | (.ok more, rest) => (.ok (got ++ more), rest)
      | (.error cause, rest) => (.error cause, rest)
  | .failure cause :: rest =>
    if n = 0 then (.ok [], .failure cause :: rest) else (.error cause, rest)
  | .interruption :: rest => if n = 0 then (.ok [], .interruption :: rest) else take n rest
  | .pause :: rest => if n = 0 then (.ok [], .pause :: rest) else (.ok [], rest)

/-- Bytes that were delivered are no longer to come. -/
theorem bytesLeft_take {n : Nat} {source after : Source} {bytes : Bytes}
    (h : source.take n = (.ok bytes, after)) :
    bytes.length + bytesLeft after = bytesLeft source := by
  induction source generalizing n bytes with
  | nil =>
    cases h
    rfl
  | cons event rest ih =>
    cases event with
    | data piece =>
      rw [take] at h
      split at h
      · cases h
        simp only [bytesLeft, ← Extent.length_bytes, Extent.bytes_take, Extent.bytes_drop,
          List.length_take, List.length_drop]
        omega
      next hshort =>
        cases hrest : take (n - (piece.take n).bytes.length) rest with
        | mk answer source =>
          rw [hrest] at h
          cases answer with
          | error cause => cases h
          | ok more =>
            cases h
            have := ih hrest
            simp only [bytesLeft, ← Extent.length_bytes, Extent.bytes_take, List.length_append,
              List.length_take] at *
            omega
    | failure cause =>
      rw [take] at h
      split at h
      · cases h
        simp
      · cases h
    | interruption =>
      rw [take] at h
      split at h
      · cases h
        simp
      · exact ih h
    | pause =>
      rw [take] at h
      split at h <;> cases h <;> simp [bytesLeft]

/-! ## Sources without trouble -/

/-- Nothing but bytes and interruptions will come: no read fails, and the source ends only once. -/
def steady : Source → Bool
  | [] => true
  | .data _ :: rest => steady rest
  | .interruption :: rest => steady rest
  | .failure _ :: _ => false
  | .pause :: _ => false

/-- All bytes that will come, in order. -/
def bytes : Source → Bytes
  | [] => []
  | .data extent :: rest => extent.bytes ++ bytes rest
  | _ :: rest => bytes rest

/-- A steady source gives the next `n` of its bytes, however they are cut, and is steady again. -/
theorem take_of_steady {source : Source} (h : source.steady = true) (n : Nat) :
    ∃ after : Source, source.take n = (.ok (source.bytes.take n), after) ∧
      after.steady = true ∧ after.bytes = source.bytes.drop n := by
  induction source generalizing n with
  | nil => exact ⟨[], by simp [take, bytes], rfl, by simp [bytes]⟩
  | cons event rest ih =>
    cases event with
    | data extent =>
      rw [steady] at h
      rw [take]
      by_cases hn : (extent.take n).bytes.length = n
      · have hle : n ≤ extent.bytes.length := by
          rw [Extent.bytes_take, List.length_take] at hn
          omega
        refine ⟨.data (extent.drop n) :: rest, ?_, h, ?_⟩
        · rw [if_pos hn, bytes, Extent.bytes_take, List.take_append_of_le_length hle]
        · rw [bytes, bytes, Extent.bytes_drop, List.drop_append_of_le_length hle]
      · have hlt : extent.bytes.length < n := by
          rw [Extent.bytes_take, List.length_take] at hn
          omega
        have hall : (extent.take n).bytes = extent.bytes := by
          rw [Extent.bytes_take, List.take_of_length_le (Nat.le_of_lt hlt)]
        obtain ⟨after, htake, hsteady, hbytes⟩ := ih h (n - extent.bytes.length)
        have hfirst : extent.bytes.take n = extent.bytes :=
          List.take_of_length_le (Nat.le_of_lt hlt)
        have hnone : extent.bytes.drop n = [] := List.drop_eq_nil_of_le (Nat.le_of_lt hlt)
        refine ⟨after, ?_, hsteady, ?_⟩
        · simp only [hall, if_neg (Nat.ne_of_lt hlt), htake, bytes, List.take_append, hfirst]
        · rw [hbytes, bytes, List.drop_append, hnone, List.nil_append]
    | interruption =>
      rw [steady] at h
      rw [take]
      by_cases hn : n = 0
      · subst hn
        exact ⟨.interruption :: rest, by simp, h, by simp⟩
      · rw [if_neg hn]
        exact ih h n
    | failure cause => cases h
    | pause => cases h

@[simp] theorem steady_ofBytes (bytes : Bytes) : (ofBytes bytes).steady = true := rfl

@[simp] theorem bytes_ofBytes (bytes : Bytes) : (ofBytes bytes).bytes = bytes := by
  simp [ofBytes, Source.bytes, Extent.bytes]

theorem steady_map_data (extents : List Extent) :
    Source.steady (extents.map Event.data) = true := by
  induction extents with
  | nil => rfl
  | cons extent rest ih => exact ih

theorem bytes_map_data (extents : List Extent) :
    Source.bytes (extents.map Event.data) = extents.flatMap Extent.bytes := by
  induction extents with
  | nil => rfl
  | cons extent rest ih => rw [List.map_cons, bytes, ih, List.flatMap_cons]

@[simp] theorem steady_ofSparse (sparse : SparseBytes) : (ofSparse sparse).steady = true :=
  steady_map_data _

@[simp] theorem bytes_ofSparse (sparse : SparseBytes) :
    (ofSparse sparse).bytes = sparse.toBytes := by
  rw [ofSparse, bytes_map_data, SparseBytes.bytes_after, List.drop_zero]

end Source
end KeyLog
