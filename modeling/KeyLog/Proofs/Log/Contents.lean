import KeyLog.Proofs.Log.Index
import Mathlib.Logic.Function.Basic

/-!
# What a log says

A log says one value for each of its keys, that of the last record.  `Log.contents` is this map, and
a record that is added changes it at one key (`Log.contents_concat`).

`Log.compacted` is the shortest log that says the same: the last record of each key, in the byte
order of the keys.

* `Log.last?_compacted`: it has the same last records, hence the same contents.
* `Log.length_bytes_compacted`: its bytes are the live bytes of the log, so it is not longer.
-/

namespace KeyLog

/-- Values by key. -/
abbrev Contents := String → Option String

namespace Log

/-- The value that a log says for each key. -/
def contents (log : Log) : Contents := fun key => (log.last? key).map Record.value

/-- **A record that is added changes the contents at its key** and nowhere else. -/
theorem contents_concat (log : Log) (record : Record) :
    contents (log ++ [record]) =
      Function.update (contents log) record.key (some record.value) := by
  funext key
  rw [contents, last?_concat]
  by_cases hkey : key = record.key
  · rw [if_pos hkey.symm, hkey, Function.update_self, Option.map_some]
  · rw [if_neg (Ne.symm hkey), Function.update_of_ne hkey]
    rfl

theorem isSome_contents (log : Log) (key : String) :
    (log.contents key).isSome = (log.last? key).isSome :=
  Option.isSome_map

/-! ## The compacted log -/

/-- The last record of each key, in the byte order of the keys. -/
def compacted (log : Log) : Log := log.index.keys.filterMap log.last?

/-- Of the last records of some keys, that of one of the keys is the one of the log. -/
theorem last?_filterMap (log : Log) (keys : List String) (key : String) :
    last? (keys.filterMap log.last?) key = if key ∈ keys then log.last? key else none := by
  induction keys using List.reverseRecOn with
  | nil => rfl
  | append_singleton keys added ih =>
    rw [List.filterMap_append]
    cases hlast : log.last? added with
    | none =>
      rw [List.filterMap_cons_none hlast, List.filterMap_nil, List.append_nil, ih]
      by_cases hkey : key = added
      · simp [hkey, hlast]
      · simp [hkey]
    | some record =>
      have hrecord : record.key = added := (last?_eq_some_iff.1 hlast).1
      rw [List.filterMap_cons_some hlast, List.filterMap_nil, last?_concat, hrecord, ih]
      by_cases hkey : added = key
      · simp [← hkey, hlast]
      · simp [hkey, Ne.symm hkey]

/-- **The compacted log has the same last records.** -/
theorem last?_compacted (log : Log) (key : String) :
    log.compacted.last? key = log.last? key := by
  rw [compacted, last?_filterMap]
  by_cases hkey : key ∈ log.index.keys
  · rw [if_pos hkey]
  · rw [if_neg hkey]
    symm
    rw [← Option.not_isSome_iff_eq_none, isSome_last?_iff, ← mem_keys_index_iff]
    exact hkey

/-- Compacting a log leaves what it says. -/
theorem contents_compacted (log : Log) : log.compacted.contents = log.contents := by
  funext key
  rw [contents, contents, last?_compacted]

theorem length_bytes_filterMap (log : Log) {entries : List (String × Span)}
    (h : ∀ entry ∈ entries, entry ∈ log.index.entries) :
    (bytes ((entries.map Prod.fst).filterMap log.last?)).length =
      Index.total Span.length entries := by
  induction entries with
  | nil => rfl
  | cons entry rest ih =>
    obtain ⟨key, span⟩ := entry
    have hfind : log.index.find? key = some span :=
      Index.mem_entries_iff.1 (h _ List.mem_cons_self)
    have hlength := map_length_find?_index log key
    rw [hfind, Option.map_some] at hlength
    obtain ⟨record, hlast, hsize⟩ := Option.map_eq_some_iff.1 hlength.symm
    rw [List.map_cons, List.filterMap_cons_some hlast, bytes_cons, List.length_append,
      Record.length_encode, hsize, Index.total_cons,
      ih fun other hother => h other (List.mem_cons_of_mem _ hother)]

/-- **The compacted log has the live bytes of the log.** -/
theorem length_bytes_compacted (log : Log) :
    log.compacted.bytes.length = log.index.liveBytes := by
  rw [Index.liveBytes_eq_total]
  exact log.length_bytes_filterMap fun _ hentry => hentry

/-- The compacted log is not longer than the log. -/
theorem length_bytes_compacted_le (log : Log) :
    log.compacted.bytes.length ≤ log.bytes.length := by
  rw [length_bytes_compacted, ← liveBytes_add_shadowed]
  exact Nat.le_add_right _ _

end Log
end KeyLog
