import KeyLog.Proofs.Index

/-!
# What insertions make of an index

An index begins without entries, and then places are inserted into it, one after the other, with
keys that may come again.  Of all insertions of a key the last one counts: everything that can be
asked of the index is said here by the list of the insertions alone.

The look-up carries the argument.  It finds what a look-up in the reversed list finds, and an index
is known from its look-up.

* `Index.insertAll`: what a list of insertions returns, and the index behind it.
* `Index.LastOf`: the last insertion of a key.
* `Index.find?_ofInsertions_iff`: the look-up finds the last insertion of each key, and nothing
  else.
* `Index.insert_comm`: insertions of different keys commute.
* `Index.last_insertion_decides`: all that the index answers.
-/

namespace KeyLog
namespace Index

/-- Inserts places, the first of them first.  Each insertion returns the place that it replaces. -/
def insertAll (index : Index) : List (String × Span) → List (Option Span) × Index
  | [] => ([], index)
  | (key, span) :: rest =>
    let (older, next) := index.replace key span
    let (others, last) := next.insertAll rest
    (older :: others, last)

/-- The index that insertions make of one without entries. -/
def ofInsertions (insertions : List (String × Span)) : Index :=
  (empty.insertAll insertions).2

/-- What these insertions return. -/
def replaced (insertions : List (String × Span)) : List (Option Span) :=
  (empty.insertAll insertions).1

/-- `span` was inserted for the key, and nothing was inserted for it later. -/
def LastOf (insertions : List (String × Span)) (key : String) (span : Span) : Prop :=
  ∃ earlier later, insertions = earlier ++ (key, span) :: later ∧ ∀ entry ∈ later, entry.1 ≠ key

variable {insertions : List (String × Span)} {key : String} {span : Span}

/-! ## One insertion more -/

theorem insertAll_append (index : Index) (earlier later : List (String × Span)) :
    index.insertAll (earlier ++ later) =
      ((index.insertAll earlier).1 ++ ((index.insertAll earlier).2.insertAll later).1,
        ((index.insertAll earlier).2.insertAll later).2) := by
  induction earlier generalizing index with
  | nil => rfl
  | cons entry earlier ih => simp only [List.cons_append, insertAll, ih]

theorem ofInsertions_concat (insertions : List (String × Span)) (key : String) (span : Span) :
    ofInsertions (insertions ++ [(key, span)]) = (ofInsertions insertions).insert key span := by
  rw [ofInsertions, insertAll_append]
  rfl

@[simp] theorem length_replaced (insertions : List (String × Span)) :
    (replaced insertions).length = insertions.length := by
  unfold replaced
  induction insertions using List.reverseRecOn with
  | nil => rfl
  | append_singleton insertions entry ih =>
    rw [insertAll_append, List.length_append, List.length_append, ih]
    rfl

/-- **An insertion returns what the look-up found** just before it. -/
theorem getElem?_replaced (earlier later : List (String × Span)) (key : String) (span : Span) :
    (replaced (earlier ++ (key, span) :: later))[earlier.length]? =
      some ((ofInsertions earlier).find? key) := by
  rw [replaced, insertAll_append, ← replaced, ← ofInsertions, ← length_replaced earlier,
    List.getElem?_append_right (Nat.le_refl _), Nat.sub_self]
  rfl

/-! ## The look-up -/

/-- After insertions the look-up finds what comes first in their reversed list. -/
theorem find?_ofInsertions (insertions : List (String × Span)) (key : String) :
    (ofInsertions insertions).find? key = insertions.reverse.lookup key := by
  induction insertions using List.reverseRecOn with
  | nil => rfl
  | append_singleton insertions entry ih =>
    rw [ofInsertions_concat, find?_insert, ih, List.reverse_append, List.reverse_singleton,
      List.singleton_append, lookup_entry]

/-- **The look-up finds the last insertion of a key**, and nothing else. -/
theorem find?_ofInsertions_iff :
    (ofInsertions insertions).find? key = some span ↔ LastOf insertions key span := by
  rw [find?_ofInsertions, List.lookup_eq_some_iff]
  constructor
  · rintro ⟨later, earlier, hreverse, hlater⟩
    refine ⟨earlier.reverse, later.reverse, ?_, ?_⟩
    · rw [← List.reverse_reverse insertions, hreverse, List.reverse_append, List.reverse_cons,
        List.append_assoc, List.singleton_append]
    · intro entry hentry
      exact (bne_iff_ne.1 (hlater entry (List.mem_reverse.1 hentry))).symm
  · rintro ⟨earlier, later, rfl, hlater⟩
    refine ⟨later.reverse, earlier.reverse, ?_, ?_⟩
    · rw [List.reverse_append, List.reverse_cons, List.append_assoc, List.singleton_append]
    · intro entry hentry
      exact bne_iff_ne.2 (hlater entry (List.mem_reverse.1 hentry)).symm

/-- The look-up finds nothing for a key if and only if it was never inserted. -/
theorem find?_ofInsertions_eq_none_iff :
    (ofInsertions insertions).find? key = none ↔ key ∉ insertions.map Prod.fst := by
  rw [find?_ofInsertions, List.lookup_eq_none_iff, List.mem_map]
  constructor
  · rintro hnone ⟨entry, hentry, rfl⟩
    exact bne_iff_ne.1 (hnone entry (List.mem_reverse.2 hentry)) rfl
  · intro hnever entry hentry
    exact bne_iff_ne.2 fun hkey => hnever ⟨entry, List.mem_reverse.1 hentry, hkey.symm⟩

/-- The keys of the index are those that were inserted. -/
theorem mem_keys_ofInsertions_iff :
    key ∈ (ofInsertions insertions).keys ↔ key ∈ insertions.map Prod.fst := by
  rw [mem_keys_iff, Option.isSome_iff_ne_none, ne_eq, find?_ofInsertions_eq_none_iff, not_not]

/-! ## The index as a whole -/

/-- **Two lists of insertions make the same index** if and only if the last insertions of their keys
are the same. -/
theorem ofInsertions_eq_iff {others : List (String × Span)} :
    ofInsertions others = ofInsertions insertions ↔
      ∀ key span, LastOf others key span ↔ LastOf insertions key span := by
  constructor
  · intro hsame key span
    rw [← find?_ofInsertions_iff, hsame, find?_ofInsertions_iff]
  · intro hlast
    refine eq_of_find? fun key => Option.ext fun span => ?_
    rw [find?_ofInsertions_iff, find?_ofInsertions_iff, hlast]

/-- **Insertions of different keys commute.** -/
theorem insert_comm (index : Index) {a b : String} (hne : a ≠ b) (s t : Span) :
    (index.insert a s).insert b t = (index.insert b t).insert a s := by
  refine eq_of_find? fun key => ?_
  rw [find?_insert, find?_insert, find?_insert, find?_insert]
  by_cases ha : key = a
  · rw [if_pos ha, if_pos ha, if_neg (ha ▸ hne)]
  · rw [if_neg ha, if_neg ha]

/-- They also do in the middle of others. -/
theorem ofInsertions_swap {a b : String × Span} (hne : a.1 ≠ b.1)
    (earlier later : List (String × Span)) :
    ofInsertions (earlier ++ a :: b :: later) = ofInsertions (earlier ++ b :: a :: later) := by
  have hcomm := (ofInsertions earlier).insert_comm hne a.2 b.2
  rw [ofInsertions, ofInsertions, insertAll_append, insertAll_append]
  exact congrArg (fun index : Index => (index.insertAll later).2) hcomm

/-- An index has no entries if and only if nothing was inserted. -/
theorem isEmpty_ofInsertions_iff :
    (ofInsertions insertions).isEmpty = true ↔ insertions = [] := by
  have hkeys : (ofInsertions insertions).keys = [] ↔ insertions.map Prod.fst = [] := by
    simp only [List.eq_nil_iff_forall_not_mem, mem_keys_ofInsertions_iff]
  rw [isEmpty, List.isEmpty_iff, ← List.map_eq_nil_iff, ← keys, hkeys, List.map_eq_nil_iff]

/-- **The last insertion of each key counts.**  Let places be inserted into an index without
entries, in any order and with any keys.

* The look-up finds the place that was inserted last for a key, and nothing if there was none; and
  the index contains the keys that were inserted.
* Every insertion returned what the look-up found just before it.
* The entries are the last insertions, one for each key, and their keys ascend strictly in the order
  of their UTF-8 bytes.
* The size is the number of different keys, and the live bytes are the lengths of the entries
  together: one insertion more adds its length and takes away the one that it replaces.
* The index depends on nothing but the last insertion of each key, so insertions of different keys
  commute. -/
theorem last_insertion_decides (insertions : List (String × Span)) :
    (∀ key span, (ofInsertions insertions).find? key = some span ↔ LastOf insertions key span) ∧
    (∀ key, (ofInsertions insertions).find? key = none ↔ key ∉ insertions.map Prod.fst) ∧
    (∀ key, (ofInsertions insertions).contains key = true ↔ key ∈ insertions.map Prod.fst) ∧
    (replaced insertions).length = insertions.length ∧
    (∀ earlier key span later, insertions = earlier ++ (key, span) :: later →
      (replaced insertions)[earlier.length]? = some ((ofInsertions earlier).find? key)) ∧
    ((ofInsertions insertions).entries.map Prod.fst).Pairwise Utf8.Before ∧
    ((ofInsertions insertions).entries.map Prod.fst).Nodup ∧
    (∀ key span, (key, span) ∈ (ofInsertions insertions).entries ↔ LastOf insertions key span) ∧
    (ofInsertions insertions).size = (insertions.map Prod.fst).toFinset.card ∧
    ((ofInsertions insertions).isEmpty = true ↔ insertions = []) ∧
    (ofInsertions insertions).liveBytes =
      ((ofInsertions insertions).entries.map fun entry => entry.2.length).sum ∧
    (∀ key span, (ofInsertions (insertions ++ [(key, span)])).liveBytes +
        (((ofInsertions insertions).find? key).map Span.length).getD 0 =
      (ofInsertions insertions).liveBytes + span.length) ∧
    (∀ others, ofInsertions others = ofInsertions insertions ↔
      ∀ key span, LastOf others key span ↔ LastOf insertions key span) ∧
    ∀ earlier a b later, insertions = earlier ++ a :: b :: later → a.1 ≠ b.1 →
      ofInsertions (earlier ++ b :: a :: later) = ofInsertions insertions := by
  have hcontains : ∀ key, (ofInsertions insertions).contains key = true ↔
      key ∈ insertions.map Prod.fst := by
    intro key
    rw [← mem_keys_ofInsertions_iff, mem_keys_iff, contains]
  refine ⟨fun _ _ => find?_ofInsertions_iff, fun _ => find?_ofInsertions_eq_none_iff, hcontains,
    length_replaced insertions, ?_, pairwise_keys _, nodup_keys _, ?_,
    size_eq_card fun _ => mem_keys_ofInsertions_iff, isEmpty_ofInsertions_iff,
    liveBytes_eq_total _, ?_, fun _ => ofInsertions_eq_iff, ?_⟩
  · rintro earlier key span later rfl
    exact getElem?_replaced earlier later key span
  · intro key span
    rw [mem_entries_iff, find?_ofInsertions_iff]
  · intro key span
    rw [ofInsertions_concat]
    exact liveBytes_insert _ key span
  · rintro earlier a b later rfl hne
    exact (ofInsertions_swap hne earlier later).symm

/-- The second insertion of `b` replaces the first one, and `a` comes before it. -/
example :
    (ofInsertions [("b", ⟨0, 11⟩), ("a", ⟨11, 12⟩), ("b", ⟨23, 10⟩)]).entries =
        [("a", ⟨11, 12⟩), ("b", ⟨23, 10⟩)] ∧
      replaced [("b", ⟨0, 11⟩), ("a", ⟨11, 12⟩), ("b", ⟨23, 10⟩)] = [none, none, some ⟨0, 11⟩] := by
  decide +kernel

end Index
end KeyLog
