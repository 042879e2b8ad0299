import KeyLog.Proofs.Log.Contents

/-!
# The one log of some contents

Many logs say the same, but only one of them says it in order and nothing twice.

* `Log.Canonical`: a log has one record for each key that has a value, in the byte order of the keys.
* `Log.Canonical.unique`: some contents have one such log only.
* `Log.canonical_compacted`: the compacted log is the one for what the log says.
* `Log.compacted_compacted`: hence compacting a compacted log leaves it.
* `Log.Canonical.find?_index`: in such a log every record is the last of its key, so the index finds
  all of them.
-/

namespace KeyLog

namespace Log

/-- A log has one record for each key that has a value, with that value, in ascending byte order of
the keys. -/
structure Canonical (contents : Contents) (log : Log) : Prop where
  ascending : (log.map Record.key).Pairwise Utf8.Before
  values : ∀ key value,
    contents key = some value ↔ ∃ record ∈ log, record.key = key ∧ record.value = value

variable {contents : Contents} {log other : Log}

namespace Canonical

/-- The records of a canonical log are the keys that have a value, each with its value. -/
theorem mem_iff (h : log.Canonical contents) (record : Record) :
    record ∈ log ↔ contents record.key = some record.value := by
  rw [h.values]
  constructor
  · intro hmem
    exact ⟨record, hmem, rfl, rfl⟩
  · rintro ⟨found, hmem, hkey, hvalue⟩
    rwa [Record.eq_of_texts hkey hvalue] at hmem

/-- **Some contents have one canonical log only.** -/
theorem unique (h : log.Canonical contents) (h' : other.Canonical contents) : log = other := by
  -- two records come one before the other if their keys do, so no two lists order them differently
  refine Utf8.eq_of_mem_iff (List.pairwise_map.1 h.ascending) (List.pairwise_map.1 h'.ascending) ?_
  intro record
  rw [h.mem_iff, h'.mem_iff]

/-- The keys of the index of a canonical log come in the order of the log. -/
theorem keys_index (h : log.Canonical contents) : log.index.keys = log.map Record.key :=
  log.index.pairwise_keys.eq_of_mem_iff h.ascending fun _ => mem_keys_index_iff

/-- **Every record of a canonical log is the last one of its key.** -/
theorem find?_index (h : log.Canonical contents) {front back : Log} {record : Record}
    (hlog : log = front ++ record :: back) :
    log.index.find? record.key = some ⟨front.bytes.length, record.encode.length⟩ := by
  rw [Record.length_encode]
  refine find?_index_iff.2 ⟨front, record, ⟨back, hlog, ?_⟩, rfl, rfl⟩
  intro later hmem hkey
  have hascending := h.ascending
  rw [hlog, List.map_append, List.map_cons] at hascending
  obtain ⟨-, hbehind, -⟩ := List.pairwise_append.1 hascending
  have hbefore := (List.pairwise_cons.1 hbehind).1 later.key (List.mem_map_of_mem hmem)
  rw [hkey] at hbefore
  exact Utf8.Before.irrefl _ hbefore

end Canonical

/-! ## The compacted log -/

theorem mem_compacted_iff {record : Record} :
    record ∈ log.compacted ↔ log.last? record.key = some record := by
  rw [compacted, List.mem_filterMap]
  constructor
  · rintro ⟨key, -, hlast⟩
    rwa [(last?_eq_some_iff.1 hlast).1]
  · intro hlast
    refine ⟨record.key, ?_, hlast⟩
    rw [mem_keys_index_iff, ← isSome_last?_iff, hlast, Option.isSome_some]

/-- **The compacted log is the canonical one** for what the log says. -/
theorem canonical_compacted (log : Log) : log.compacted.Canonical log.contents := by
  constructor
  · rw [List.pairwise_map, compacted, List.pairwise_filterMap]
    refine log.index.pairwise_keys.imp ?_
    intro a b hbefore x hx y hy
    rwa [(last?_eq_some_iff.1 hx).1, (last?_eq_some_iff.1 hy).1]
  · intro key value
    rw [contents, Option.map_eq_some_iff]
    constructor
    · rintro ⟨record, hlast, hvalue⟩
      have hkey : record.key = key := (last?_eq_some_iff.1 hlast).1
      exact ⟨record, mem_compacted_iff.2 (hkey ▸ hlast), hkey, hvalue⟩
    · rintro ⟨record, hmem, hkey, hvalue⟩
      exact ⟨record, hkey ▸ mem_compacted_iff.1 hmem, hvalue⟩

/-- **Compacting a compacted log leaves it.** -/
theorem compacted_compacted (log : Log) : log.compacted.compacted = log.compacted := by
  have hagain := canonical_compacted log.compacted
  rw [contents_compacted] at hagain
  exact hagain.unique log.canonical_compacted

end Log
end KeyLog
