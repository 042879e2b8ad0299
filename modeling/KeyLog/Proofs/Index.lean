import KeyLog.Index.Basic
import Mathlib.Algebra.GroupWithZero.Nat
import Mathlib.Data.Finset.Card
import Mathlib.Data.List.Sort

/-!
# Laws of the index

An index is a list of entries in the byte order of their keys, and it means its look-up.  The laws
here go from one to the other.

* `Index.mem_entries_iff`: the entries are exactly what the look-up finds.
* `Index.mem_keys_iff`, `Index.nodup_keys`: the keys are those that are found, each once.
* `Index.eq_of_find?`: hence two indexes that find the same are the same.
* `Index.total_insert`: whatever is added up over the places of an index, an insertion adds the new
  place and takes away the one that it replaces.  The size and the live bytes are two such totals.
-/

namespace KeyLog

namespace Utf8

instance : Std.Irrefl Before := ⟨Before.irrefl⟩

instance : Std.Antisymm Before :=
  ⟨fun a _ hab hba => absurd (hab.trans hba) (Before.irrefl a)⟩

/-- **Things in the byte order of their texts** come in one order only: two lists of them with the
same members are the same. -/
theorem eq_of_mem_iff {α : Type} {text : α → String} {these those : List α}
    (hthese : these.Pairwise fun a b => Before (text a) (text b))
    (hthose : those.Pairwise fun a b => Before (text a) (text b))
    (h : ∀ a, a ∈ these ↔ a ∈ those) : these = those := by
  have hirrefl : Std.Irrefl fun a b : α => Before (text a) (text b) :=
    ⟨fun a => Before.irrefl (text a)⟩
  have hantisymm : Std.Antisymm fun a b : α => Before (text a) (text b) :=
    ⟨fun a _ hab hba => absurd (hab.trans hba) (Before.irrefl (text a))⟩
  exact hthese.eq_of_mem_iff hthose h

end Utf8

namespace Index

/-! ## Entries and look-up -/

/-- A key that comes before all keys of some entries is not found among them. -/
theorem lookup_eq_none_of_before {key : String} {entries : List (String × Span)}
    (h : ∀ entry ∈ entries, Utf8.Before key entry.1) : entries.lookup key = none := by
  rw [List.lookup_eq_none_iff]
  intro entry hentry
  have hne : key ≠ entry.1 := by
    intro heq
    have hbefore := h entry hentry
    rw [heq] at hbefore
    exact Utf8.Before.irrefl _ hbefore
  exact bne_iff_ne.2 hne

theorem mem_iff_lookup {entries : List (String × Span)}
    (h : entries.Pairwise fun a b => Utf8.Before a.1 b.1) (key : String) (span : Span) :
    (key, span) ∈ entries ↔ entries.lookup key = some span := by
  induction entries with
  | nil => simp
  | cons first rest ih =>
    obtain ⟨firstKey, firstSpan⟩ := first
    obtain ⟨hfirst, hrest⟩ := List.pairwise_cons.1 h
    rw [List.mem_cons, lookup_entry, ih hrest, Prod.mk.injEq]
    by_cases hkey : key = firstKey
    · -- the keys after the first entry are all different from its key
      have hnone : rest.lookup key = none := by
        rw [hkey]
        exact lookup_eq_none_of_before hfirst
      rw [if_pos hkey, hnone]
      constructor
      · rintro (⟨-, hspan⟩ | hfound)
        · rw [hspan]
        · cases hfound
      · intro hspan
        exact .inl ⟨hkey, (Option.some.inj hspan).symm⟩
    · rw [if_neg hkey]
      constructor
      · rintro (⟨heq, -⟩ | hfound)
        · exact absurd heq hkey
        · exact hfound
      · intro hfound
        exact .inr hfound

/-- **The entries of an index are what its look-up finds.** -/
theorem mem_entries_iff {index : Index} {key : String} {span : Span} :
    (key, span) ∈ index.entries ↔ index.find? key = some span :=
  mem_iff_lookup index.ordered key span

/-- The keys of an index are those that are found. -/
theorem mem_keys_iff {index : Index} {key : String} :
    key ∈ index.keys ↔ (index.find? key).isSome := by
  rw [keys, List.mem_map, Option.isSome_iff_exists]
  constructor
  · rintro ⟨⟨name, span⟩, hentry, rfl⟩
    exact ⟨span, mem_entries_iff.1 hentry⟩
  · rintro ⟨span, hfound⟩
    exact ⟨(key, span), mem_entries_iff.2 hfound, rfl⟩

/-- An insertion adds its key to those of the index. -/
theorem mem_keys_insert {index : Index} {key other : String} {span : Span} :
    other ∈ (index.insert key span).keys ↔ other ∈ index.keys ∨ other = key := by
  rw [mem_keys_iff, mem_keys_iff, find?_insert]
  by_cases hkey : other = key
  · rw [if_pos hkey]
    exact iff_of_true rfl (.inr hkey)
  · rw [if_neg hkey, or_iff_left hkey]

/-- The keys of an index ascend in byte order. -/
theorem pairwise_keys (index : Index) : index.keys.Pairwise Utf8.Before :=
  List.pairwise_map.2 index.ordered

/-- No key of an index comes twice. -/
theorem nodup_keys (index : Index) : index.keys.Nodup := by
  refine index.pairwise_keys.imp ?_
  intro a b hbefore heq
  rw [heq] at hbefore
  exact Utf8.Before.irrefl _ hbefore

@[simp] theorem length_keys (index : Index) : index.keys.length = index.size :=
  List.length_map _

/-- The size of an index is the number of different keys in any list of its keys. -/
theorem size_eq_card {index : Index} {keys : List String}
    (h : ∀ key, key ∈ index.keys ↔ key ∈ keys) : index.size = keys.toFinset.card := by
  have hkeys : index.keys.toFinset = keys.toFinset := by
    ext key
    rw [List.mem_toFinset, List.mem_toFinset, h]
  rw [← hkeys, List.toFinset_card_of_nodup index.nodup_keys, length_keys]

/-- **An index is known from its look-up.** -/
theorem eq_of_find? {a b : Index} (h : ∀ key, a.find? key = b.find? key) : a = b := by
  have hentries : a.entries = b.entries := by
    refine Utf8.eq_of_mem_iff a.ordered b.ordered ?_
    rintro ⟨key, span⟩
    rw [mem_entries_iff, mem_entries_iff, h]
  cases a
  cases b
  exact (mk.injEq ..).mpr hentries

/-! ## Totals -/

/-- What the places of some entries come to, one added to the other. -/
def total (weight : Span → Nat) (entries : List (String × Span)) : Nat :=
  (entries.map fun entry => weight entry.2).sum

@[simp] theorem total_cons (weight : Span → Nat) (key : String) (span : Span)
    (rest : List (String × Span)) :
    total weight ((key, span) :: rest) = weight span + total weight rest :=
  List.sum_cons

theorem total_insertEntry (weight : Span → Nat) (key : String) (span : Span)
    {entries : List (String × Span)}
    (h : entries.Pairwise fun a b => Utf8.Before a.1 b.1) :
    total weight (insertEntry key span entries) + ((entries.lookup key).map weight).getD 0 =
      total weight entries + weight span := by
  induction entries with
  | nil => simp [insertEntry, total]
  | cons first rest ih =>
    obtain ⟨firstKey, firstSpan⟩ := first
    obtain ⟨hfirst, hrest⟩ := List.pairwise_cons.1 h
    have ih := ih hrest
    rw [insertEntry, lookup_entry]
    dsimp only
    by_cases heq : key = firstKey
    · -- the entry of the key is replaced
      rw [if_pos heq, if_pos heq, total_cons, total_cons, Option.map_some, Option.getD_some]
      omega
    rw [if_neg heq, if_neg heq]
    by_cases hbefore : Utf8.Before key firstKey
    · -- the key comes before all entries, so it had none
      have hnone : rest.lookup key = none :=
        lookup_eq_none_of_before fun entry hentry => hbefore.trans (hfirst entry hentry)
      rw [if_pos hbefore, hnone, total_cons, total_cons, Option.map_none, Option.getD_none]
      omega
    · rw [if_neg hbefore, total_cons, total_cons]
      omega

/-- **An insertion adds the new place to every total and takes away the one it replaces.** -/
theorem total_insert (weight : Span → Nat) (index : Index) (key : String) (span : Span) :
    total weight (index.insert key span).entries + ((index.find? key).map weight).getD 0 =
      total weight index.entries + weight span :=
  total_insertEntry weight key span index.ordered

theorem size_eq_total (index : Index) : index.size = total (fun _ => 1) index.entries := by
  rw [size, total, List.map_const', List.sum_replicate_nat, Nat.mul_one]

theorem liveBytes_eq_total (index : Index) : index.liveBytes = total Span.length index.entries := by
  rw [liveBytes, total]
  induction index.entries with
  | nil => rfl
  | cons entry rest ih => rw [List.foldr_cons, ih, List.map_cons, List.sum_cons]

/-- A new key makes an index longer by one, and a known key leaves its size. -/
theorem size_insert (index : Index) (key : String) (span : Span) :
    (index.insert key span).size + (if (index.find? key).isSome then 1 else 0) =
      index.size + 1 := by
  have h := total_insert (fun _ => 1) index key span
  rw [← size_eq_total, ← size_eq_total] at h
  cases hfind : index.find? key with
  | none => simpa [hfind] using h
  | some older => simpa [hfind] using h

/-- The live bytes after an insertion. -/
theorem liveBytes_insert (index : Index) (key : String) (span : Span) :
    (index.insert key span).liveBytes + ((index.find? key).map Span.length).getD 0 =
      index.liveBytes + span.length := by
  rw [liveBytes_eq_total, liveBytes_eq_total]
  exact total_insert Span.length index key span

end Index
end KeyLog
