import KeyLog.Span
import KeyLog.Text.Utf8

/-!
# The index

The index says where the current record of each key lies.  It is a list of entries in the byte
order of the keys, and that order is part of the type: two entries never have the same key, a
listing of the keys needs no sorting, and two indexes with the same entries are the same index.

What an index means is its look-up, `find?`.  Inserting changes it at one key and nowhere else
(`find?_insert`), and an index is known from its look-up.
-/

namespace KeyLog

/-- The current place of each key, in the byte order of the keys. -/
structure Index where
  entries : List (String × Span)
  ordered : entries.Pairwise fun a b => Utf8.Before a.1 b.1

namespace Index

/-- The index without entries. -/
def empty : Index := ⟨[], .nil⟩

instance : Inhabited Index := ⟨empty⟩

/-! ## Looking up -/

/-- The place of a key. -/
def find? (index : Index) (key : String) : Option Span := index.entries.lookup key

/-- The key has an entry. -/
def contains (index : Index) (key : String) : Bool := (index.find? key).isSome

/-- The number of keys. -/
def size (index : Index) : Nat := index.entries.length

/-- No key has an entry. -/
def isEmpty (index : Index) : Bool := index.entries.isEmpty

/-- The keys, in byte order. -/
def keys (index : Index) : List String := index.entries.map Prod.fst

/-- The bytes that the records of all entries take together. -/
def liveBytes (index : Index) : Nat :=
  index.entries.foldr (fun entry total => entry.2.length + total) 0

@[simp] theorem find?_empty (key : String) : empty.find? key = none := rfl

/-! ## Inserting -/

/-- Puts an entry at its place in a list of entries, over the one with the same key. -/
def insertEntry (key : String) (span : Span) : List (String × Span) → List (String × Span)
  | [] => [(key, span)]
  | entry :: rest =>
    if key = entry.1 then (key, span) :: rest
    else if Utf8.Before key entry.1 then (key, span) :: entry :: rest
    else entry :: insertEntry key span rest

/-- After an insertion there are the new entry and some of the old ones. -/
theorem mem_insertEntry {key : String} {span : Span} {entries : List (String × Span)}
    {entry : String × Span} (h : entry ∈ insertEntry key span entries) :
    entry = (key, span) ∨ entry ∈ entries := by
  induction entries with
  | nil => simpa [insertEntry] using h
  | cons first rest ih =>
    rw [insertEntry] at h
    split at h
    · rcases List.mem_cons.1 h with h | h
      · exact .inl h
      · exact .inr (List.mem_cons_of_mem _ h)
    · split at h
      · rcases List.mem_cons.1 h with h | h
        · exact .inl h
        · exact .inr h
      · rcases List.mem_cons.1 h with h | h
        · exact .inr (h ▸ List.mem_cons_self)
        · exact (ih h).imp id (List.mem_cons_of_mem _)

/-- Inserting keeps the byte order of the keys. -/
theorem pairwise_insertEntry (key : String) (span : Span) {entries : List (String × Span)}
    (h : entries.Pairwise fun a b => Utf8.Before a.1 b.1) :
    (insertEntry key span entries).Pairwise fun a b => Utf8.Before a.1 b.1 := by
  induction entries with
  | nil => exact List.pairwise_singleton _ _
  | cons first rest ih =>
    obtain ⟨hfirst, hrest⟩ := List.pairwise_cons.1 h
    rw [insertEntry]
    split
    next heq => exact List.pairwise_cons.2 ⟨fun e he => heq ▸ hfirst e he, hrest⟩
    next hne =>
      split
      next hbefore =>
        refine List.pairwise_cons.2 ⟨fun e he => ?_, h⟩
        rcases List.mem_cons.1 he with rfl | he
        · exact hbefore
        · exact hbefore.trans (hfirst e he)
      next hafter =>
        refine List.pairwise_cons.2 ⟨fun e he => ?_, ih hrest⟩
        rcases mem_insertEntry he with rfl | he
        · exact (Utf8.Before.total hne).resolve_left hafter
        · exact hfirst e he

theorem lookup_entry (key other : String) (span : Span) (rest : List (String × Span)) :
    ((key, span) :: rest).lookup other = if other = key then some span else rest.lookup other := by
  rw [List.lookup_cons]
  by_cases h : other = key
  · simp [h]
  · simp [h, beq_eq_false_iff_ne.2 h]

/-- A look-up after an insertion: the new place at that key, and the old answer at all others. -/
theorem lookup_insertEntry (key other : String) (span : Span) (entries : List (String × Span)) :
    (insertEntry key span entries).lookup other =
      if other = key then some span else entries.lookup other := by
  induction entries with
  | nil => exact lookup_entry key other span []
  | cons first rest ih =>
    obtain ⟨firstKey, firstSpan⟩ := first
    rw [insertEntry]
    split
    next heq =>
      rw [lookup_entry, lookup_entry]
      by_cases h : other = key
      · simp [h]
      · have hother : other ≠ firstKey := fun e => h (e.trans heq.symm)
        simp [h, hother]
    next hne =>
      split
      · rw [lookup_entry]
      · rw [lookup_entry, lookup_entry, ih]
        by_cases h : other = key
        · have hkey : key ≠ firstKey := hne
          simp [h, hkey]
        · simp [h]

/-- The index in which a key has a new place. -/
def insert (index : Index) (key : String) (span : Span) : Index :=
  ⟨insertEntry key span index.entries, pairwise_insertEntry key span index.ordered⟩

@[simp] theorem find?_insert (index : Index) (key other : String) (span : Span) :
    (index.insert key span).find? other = if other = key then some span else index.find? other :=
  lookup_insertEntry key other span index.entries

/-- The place that a key had, and the index in which it has a new one. -/
def replace (index : Index) (key : String) (span : Span) : Option Span × Index :=
  (index.find? key, index.insert key span)

end Index
end KeyLog
