import KeyLog.Delivery

/-!
# Reading through a buffer

`Source.take` gives a number of bytes at once.  A real source gives them in *reads*: one read hands
out at most as many bytes as there is room for, fewer if the piece at hand ends, and none if the
source says that it has ended; it may also be interrupted, or fail.  Reads go through a buffer,
which fetches as much as it can hold and hands out what it has.  So whoever needs a number of bytes
reads in a loop, for what is still missing, until nothing is missing or a read gives nothing; after
an interruption the loop just goes on.

This file says that the loop comes to what `take` says, for every source and every size of the
buffer.

* `Source.items`: a source byte by byte, without the cuts between its pieces.
* `Source.take_eq`, `Buffered.readFull_eq`: both `take` and the loop are `takeItems` on these.
* `Source.Program.run_buffered`: hence whoever reads through a buffer comes to what he comes to by
  `take`, however he lets a request depend on the answers before it.

## Why byte by byte

The loop and `take` stop at different cuts: the buffer joins pieces and cuts others, and what is
left of a source after a request has other pieces than what is left of it in the buffer.  Byte by
byte the two are the same, so that the induction over the requests goes through.
-/

namespace KeyLog
namespace Source

/-! ## Byte by byte -/

/-- One thing that a source does, where each byte is a thing of its own. -/
inductive Item where
  | byte (byte : UInt8)
  | failure (cause : SystemError)
  | interruption
  | pause

/-- What a source does, byte by byte. -/
def items : Source → List Item
  | [] => []
  | .data extent :: rest => extent.bytes.map .byte ++ items rest
  | .failure cause :: rest => .failure cause :: items rest
  | .interruption :: rest => .interruption :: items rest
  | .pause :: rest => .pause :: items rest

/-- Takes `n` bytes, one after the other. -/
def takeItems : Nat → List Item → Except SystemError Bytes × List Item
  | 0, items => (.ok [], items)
  | _ + 1, [] => (.ok [], [])
  | n + 1, .byte byte :: rest => ((takeItems n rest).1.map (byte :: ·), (takeItems n rest).2)
  | _ + 1, .failure cause :: rest => (.error cause, rest)
  | n + 1, .interruption :: rest => takeItems (n + 1) rest
  | _ + 1, .pause :: rest => (.ok [], rest)

@[simp] theorem takeItems_zero (items : List Item) : takeItems 0 items = (.ok [], items) := by
  rw [takeItems]

/-- Where there are enough bytes, they are taken. -/
theorem takeItems_of_le {n : Nat} {bytes : Bytes} (h : n ≤ bytes.length) (rest : List Item) :
    takeItems n (bytes.map .byte ++ rest) =
      (.ok (bytes.take n), (bytes.drop n).map .byte ++ rest) := by
  induction bytes generalizing n with
  | nil =>
    obtain rfl : n = 0 := Nat.le_zero.1 h
    exact takeItems_zero _
  | cons byte bytes ih =>
    cases n with
    | zero => exact takeItems_zero _
    | succ n =>
      rw [List.map_cons, List.cons_append, takeItems, ih (Nat.le_of_succ_le_succ h)]
      rfl

/-- Where there are fewer bytes, they are taken and the others are looked for behind them. -/
theorem takeItems_of_ge {n : Nat} {bytes : Bytes} (h : bytes.length ≤ n) (rest : List Item) :
    takeItems n (bytes.map .byte ++ rest) =
      ((takeItems (n - bytes.length) rest).1.map (bytes ++ ·),
        (takeItems (n - bytes.length) rest).2) := by
  induction bytes generalizing n with
  | nil =>
    rw [List.map_nil, List.nil_append, List.length_nil, Nat.sub_zero]
    cases hrest : takeItems n rest with
    | mk answer after => cases answer <;> rfl
  | cons byte bytes ih =>
    obtain ⟨m, rfl⟩ : ∃ m, n = m + 1 := ⟨n - 1, by rw [List.length_cons] at h; omega⟩
    rw [List.map_cons, List.cons_append, takeItems, ih (Nat.le_of_succ_le_succ h),
      List.length_cons, Nat.add_sub_add_right]
    cases hrest : takeItems (m - bytes.length) rest with
    | mk answer after => cases answer <;> rfl

/-- **Taking bytes from a source** is taking them one after the other. -/
theorem take_eq (n : Nat) (source : Source) :
    ((source.take n).1, (source.take n).2.items) = takeItems n source.items := by
  induction source generalizing n with
  | nil => cases n <;> rfl
  | cons event rest ih =>
    cases event with
    | data extent =>
      rw [take, items, Extent.bytes_take, List.length_take]
      by_cases hn : n ≤ extent.bytes.length
      · rw [if_pos (Nat.min_eq_left hn), takeItems_of_le hn, items, Extent.bytes_drop]
      · have hle : extent.bytes.length ≤ n := Nat.le_of_not_le hn
        rw [if_neg (by omega), takeItems_of_ge hle, ← ih, Nat.min_eq_right hle,
          List.take_of_length_le hle]
        cases htake : take (n - extent.bytes.length) rest with
        | mk answer after => cases answer <;> rfl
    | failure cause => cases n <;> rfl
    | interruption =>
      cases n with
      | zero => rfl
      | succ n => exact ih (n + 1)
    | pause => cases n <;> rfl

/-! ## One read -/

/-- What one read comes to. -/
inductive Reading where
  /-- Some bytes; none mean that the source says that it has ended. -/
  | got (bytes : Bytes)
  | interrupted
  | failed (cause : SystemError)

/-- One read, with room for `room` bytes.  A piece gives what there is room for, and a piece without
bytes is passed over. -/
def read (room : Nat) : Source → Reading × Source
  | [] => (.got [], [])
  | .data extent :: rest =>
    if extent.bytes = [] then read room rest
    else (.got (extent.take room).bytes, .data (extent.drop room) :: rest)
  | .failure cause :: rest => (.failed cause, rest)
  | .interruption :: rest => (.interrupted, rest)
  | .pause :: rest => (.got [], rest)

/-- What is left of a source by a read with room for `room` bytes. -/
def Reading.Leaves (room : Nat) (before after : List Item) : Reading → Prop
  | .got [] => ∀ n, takeItems (n + 1) before = (.ok [], after)
  | .got bytes => bytes.length ≤ room ∧ before = bytes.map .byte ++ after
  | .interrupted => before = .interruption :: after
  | .failed cause => before = .failure cause :: after

/-- A read that has some bytes before it takes as many as there is room for from the front. -/
theorem Reading.leaves_take {room : Nat} (hroom : 0 < room) {bytes : Bytes} (hbytes : bytes ≠ [])
    (rest : List Item) :
    Leaves room (bytes.map .byte ++ rest) ((bytes.drop room).map .byte ++ rest)
      (.got (bytes.take room)) := by
  have hsplit : bytes.map Item.byte ++ rest =
      (bytes.take room).map .byte ++ ((bytes.drop room).map .byte ++ rest) := by
    rw [← List.append_assoc, ← List.map_append, List.take_append_drop]
  have hroom' : (bytes.take room).length ≤ room := List.length_take_le _ _
  cases htaken : bytes.take room with
  | nil =>
    rcases List.take_eq_nil_iff.1 htaken with hzero | hnil
    · exact absurd hzero (Nat.ne_of_gt hroom)
    · exact absurd hnil hbytes
  | cons byte taken =>
    rw [htaken] at hsplit hroom'
    exact ⟨hroom', hsplit⟩

theorem read_leaves {room : Nat} (hroom : 0 < room) (source : Source) :
    (source.read room).1.Leaves room source.items (source.read room).2.items := by
  induction source with
  | nil => exact fun _ => rfl
  | cons event rest ih =>
    cases event with
    | data extent =>
      rw [read, items]
      by_cases hnone : extent.bytes = []
      · rw [if_pos hnone, hnone]
        exact ih
      · rw [if_neg hnone, items, Extent.bytes_take, Extent.bytes_drop]
        exact Reading.leaves_take hroom hnone _
    | failure cause => exact rfl
    | interruption => exact rfl
    | pause => exact fun _ => rfl

/-- An interruption comes once. -/
theorem length_of_interrupted {room : Nat} {source after : Source}
    (h : source.read room = (.interrupted, after)) : after.length < source.length := by
  induction source with
  | nil => cases h
  | cons event rest ih =>
    cases event with
    | data extent =>
      rw [read] at h
      split at h
      · exact Nat.lt_succ_of_lt (ih h)
      · cases h
    | interruption =>
      cases h
      exact Nat.lt_succ_self _
    | failure cause => cases h
    | pause => cases h

end Source

/-! ## Through a buffer -/

/-- A source that is read through a buffer. -/
structure Buffered where
  /-- The bytes in the buffer: fetched, and not yet handed out. -/
  held : Bytes
  source : Source

namespace Buffered

open Source

/-- What is still to come, byte by byte. -/
def items (reader : Buffered) : List Item := reader.held.map .byte ++ reader.source.items

/-- One read through a buffer for `capacity` bytes, with room for `room` bytes.  What the buffer has
is handed out first.  If it has nothing it is filled by one read of the source, but if there is room
for as much as the buffer can hold, the read goes past it. -/
def read (capacity room : Nat) (reader : Buffered) : Reading × Buffered :=
  if reader.held = [] then
    if capacity ≤ room then
      ((reader.source.read room).1, ⟨[], (reader.source.read room).2⟩)
    else
      match reader.source.read capacity with
      | (.got bytes, rest) => (.got (bytes.take room), ⟨bytes.drop room, rest⟩)
      | (.interrupted, rest) => (.interrupted, ⟨[], rest⟩)
      | (.failed cause, rest) => (.failed cause, ⟨[], rest⟩)
  else (.got (reader.held.take room), ⟨reader.held.drop room, reader.source⟩)

theorem read_leaves (capacity : Nat) {room : Nat} (hroom : 0 < room) (reader : Buffered) :
    (reader.read capacity room).1.Leaves room reader.items (reader.read capacity room).2.items := by
  obtain ⟨held, source⟩ := reader
  rw [read]
  split
  next hnone =>
    dsimp only at hnone
    subst hnone
    split
    · exact Source.read_leaves hroom source
    next hsmall =>
      have hfill := Source.read_leaves (Nat.lt_of_lt_of_le hroom (Nat.le_of_not_le hsmall)) source
      split
      next bytes rest hread =>
        rw [hread] at hfill
        cases bytes with
        | nil =>
          rw [List.take_nil, List.drop_nil]
          exact hfill
        | cons byte bytes =>
          have htake := Reading.leaves_take hroom (List.cons_ne_nil byte bytes) rest.items
          rw [← hfill.2] at htake
          exact htake
      next rest hread =>
        rw [hread] at hfill
        exact hfill
      next cause rest hread =>
        rw [hread] at hfill
        exact hfill
  next hsome => exact Reading.leaves_take hroom hsome _

theorem length_of_interrupted {capacity room : Nat} {reader after : Buffered}
    (h : reader.read capacity room = (.interrupted, after)) :
    after.source.length < reader.source.length := by
  rw [read] at h
  split at h
  · split at h
    · cases hread : reader.source.read room with
      | mk reading rest =>
        rw [hread] at h
        cases h
        exact Source.length_of_interrupted hread
    · split at h
      · cases h
      next rest hread =>
        cases h
        exact Source.length_of_interrupted hread
      · cases h
  · cases h

/-! ## The loop -/

/-- Reads until `n` bytes are there or a read gives none, and goes on after interruptions. -/
def readFull (capacity n : Nat) (reader : Buffered) : Except SystemError Bytes × Buffered :=
  if _hn : n = 0 then (.ok [], reader)
  else
    match _h : reader.read capacity n with
    | (.got [], after) => (.ok [], after)
    | (.got (byte :: bytes), after) =>
      let (answer, rest) := readFull capacity (n - (byte :: bytes).length) after
      (answer.map (byte :: bytes ++ ·), rest)
    | (.interrupted, after) => readFull capacity n after
    | (.failed cause, after) => (.error cause, after)
termination_by (n, reader.source.length)
decreasing_by
  -- bytes make less to be asked for, and an interruption does not come again
  · exact Prod.Lex.left _ _ (Nat.sub_lt (Nat.pos_of_ne_zero _hn) (Nat.succ_pos _))
  · exact Prod.Lex.right _ (length_of_interrupted _h)

/-- **Reading in a loop** is taking the bytes one after the other, whatever the buffer can hold. -/
theorem readFull_eq (capacity n : Nat) (reader : Buffered) :
    ((reader.readFull capacity n).1, (reader.readFull capacity n).2.items) =
      takeItems n reader.items := by
  fun_induction readFull capacity n reader with
  | case1 reader => exact (takeItems_zero _).symm
  | case2 n reader hn after hread =>
    have hleaves := reader.read_leaves capacity (Nat.pos_of_ne_zero hn)
    obtain ⟨m, rfl⟩ := Nat.exists_eq_succ_of_ne_zero hn
    rw [hread] at hleaves
    exact (hleaves m).symm
  | case3 n reader hn byte bytes after hread answer rest hrest ih =>
    have hleaves := reader.read_leaves capacity (Nat.pos_of_ne_zero hn)
    rw [hread] at hleaves
    rw [hleaves.2, takeItems_of_ge hleaves.1, ← ih, hrest]
  | case4 n reader hn after hread ih =>
    have hleaves := reader.read_leaves capacity (Nat.pos_of_ne_zero hn)
    obtain ⟨m, rfl⟩ := Nat.exists_eq_succ_of_ne_zero hn
    rw [hread] at hleaves
    rw [show reader.items = _ from hleaves, takeItems]
    exact ih
  | case5 n reader hn cause after hread =>
    have hleaves := reader.read_leaves capacity (Nat.pos_of_ne_zero hn)
    obtain ⟨m, rfl⟩ := Nat.exists_eq_succ_of_ne_zero hn
    rw [hread] at hleaves
    rw [show reader.items = _ from hleaves, takeItems]

end Buffered

/-! ## Whoever reads -/

/-- Somebody who reads: he comes to a result, or asks for a number of bytes and goes on with the
answer. -/
inductive Source.Program (α : Type) where
  | done (result : α)
  | ask (n : Nat) (next : Except SystemError Bytes → Program α)

namespace Source.Program

variable {α β : Type} {σ : Type}

/-- What he comes to if `give` answers each request, and what is left to read then. -/
def run (give : Nat → σ → Except SystemError Bytes × σ) : Program α → σ → α × σ
  | .done result, state => (result, state)
  | .ask n next, state => (next (give n state).1).run give (give n state).2

/-- Reads, and goes on with the result. -/
def bind : Program α → (α → Program β) → Program β
  | .done result, next => next result
  | .ask n more, next => .ask n fun answer => (more answer).bind next

@[simp] theorem run_bind (give : Nat → σ → Except SystemError Bytes × σ) (program : Program α)
    (next : α → Program β) (state : σ) :
    (program.bind next).run give state =
      (next (program.run give state).1).run give (program.run give state).2 := by
  induction program generalizing state with
  | done result => rfl
  | ask n more ih => exact ih _ _

/-- **Reading through a buffer** comes to what reading the source comes to, and leaves the same. -/
theorem run_buffered (capacity : Nat) (program : Program α) {reader : Buffered} {source : Source}
    (h : reader.items = source.items) :
    (program.run (Buffered.readFull capacity) reader).1 = (program.run Source.take source).1 ∧
      (program.run (Buffered.readFull capacity) reader).2.items =
        (program.run Source.take source).2.items := by
  induction program generalizing reader source with
  | done result => exact ⟨rfl, h⟩
  | ask n next ih =>
    have hsame := (reader.readFull_eq capacity n).trans (h ▸ (source.take_eq n).symm)
    obtain ⟨hanswer, hrest⟩ := Prod.mk.inj hsame
    rw [run, run, hanswer]
    exact ih _ hrest

end Source.Program
end KeyLog
