import KeyLog.Proofs.Index
import KeyLog.Proofs.Log.Basic

/-!
# The index of a log

Of all records of a key the last one counts.  `Log.last?` finds it, and `Log.LastAfter` says where
it stands: behind certain records, and with no record of its key after it.  `Log.index` is the index
that points each key there.

* `Log.find?_index_iff`: the index of a log finds the last record of each key, and nothing else.
* `Log.apart_index`: the places that it finds are ranges of the log that do not overlap.
* `Log.size_index`: it has as many keys as the log has.
* `Log.liveBytes_add_shadowed`: the live bytes and the bytes of the shadowed records are all bytes.
* `Log.sum_shadowed_eq_zero_iff`: the shadowed records take none if no key comes twice, and only then.

Everything is shown by adding records at the end, because that is how a log grows.
-/

namespace KeyLog

/-- Two places do not overlap. -/
def Span.Apart (a b : Span) : Prop := a.stop ≤ b.offset ∨ b.stop ≤ a.offset

namespace Log

/-! ## Where the last record of a key stands -/

/-- The last record of a key. -/
def last? (log : Log) (key : String) : Option Record :=
  log.reverse.find? fun record => record.key = key

/-- `record` stands behind the records of `before`, and no later record has its key. -/
def LastAfter (log before : Log) (record : Record) : Prop :=
  ∃ after : Log, log = before ++ record :: after ∧ ∀ later ∈ after, later.key ≠ record.key

@[simp] theorem last?_nil (key : String) : last? [] key = none := rfl

@[simp] theorem last?_concat (log : Log) (record : Record) (key : String) :
    last? (log ++ [record]) key = if record.key = key then some record else last? log key := by
  by_cases h : record.key = key
  · simp [last?, h]
  · simp [last?, h]

theorem not_lastAfter_nil (before : Log) (record : Record) : ¬ LastAfter [] before record := by
  rintro ⟨after, h, -⟩
  exact absurd h.symm (by simp)

/-- In a longer log a record is the last of its key if it was added, or if it was the last before
and the record that was added has another key. -/
theorem lastAfter_concat_iff {log before : Log} {added record : Record} :
    LastAfter (log ++ [added]) before record ↔
      (before = log ∧ record = added) ∨ (added.key ≠ record.key ∧ LastAfter log before record) := by
  constructor
  · rintro ⟨after, hlog, hlater⟩
    rcases List.eq_nil_or_concat after with rfl | ⟨init, last, rfl⟩
    · -- nothing comes after it
      obtain ⟨hbefore, hrecord⟩ := List.append_inj' hlog rfl
      exact .inl ⟨hbefore.symm, (List.cons.inj hrecord).1.symm⟩
    · have hsplit : log ++ [added] = (before ++ record :: init) ++ [last] := by
        rw [hlog, List.concat_eq_append, List.append_assoc, List.cons_append]
      obtain ⟨hinit, hadded⟩ := List.append_inj' hsplit rfl
      have hlast : added = last := (List.cons.inj hadded).1
      refine .inr ⟨?_, init, hinit, ?_⟩
      · rw [hlast]
        exact hlater last (by simp)
      · intro later hmem
        exact hlater later (by simp [hmem])
  · rintro (⟨rfl, rfl⟩ | ⟨hkey, after, rfl, hlater⟩)
    · exact ⟨[], rfl, by simp⟩
    · refine ⟨after ++ [added], by simp, ?_⟩
      intro later hmem
      rcases List.mem_append.1 hmem with hmem | hmem
      · exact hlater later hmem
      · rw [List.mem_singleton.1 hmem]
        exact hkey

/-- The last record of a key is the one that stands behind certain records with none of its key
after it. -/
theorem last?_eq_some_iff {log : Log} {key : String} {record : Record} :
    log.last? key = some record ↔ record.key = key ∧ ∃ before, log.LastAfter before record := by
  induction log using List.reverseRecOn with
  | nil => simp [not_lastAfter_nil]
  | append_singleton log added ih =>
    rw [last?_concat]
    simp only [lastAfter_concat_iff]
    by_cases hadded : added.key = key
    · rw [if_pos hadded, Option.some.injEq]
      constructor
      · rintro rfl
        exact ⟨hadded, log, .inl ⟨rfl, rfl⟩⟩
      · rintro ⟨hkey, before, ⟨-, hrecord⟩ | ⟨hne, -⟩⟩
        · exact hrecord.symm
        · exact absurd (hadded.trans hkey.symm) hne
    · rw [if_neg hadded, ih]
      constructor
      · rintro ⟨hkey, before, hlast⟩
        exact ⟨hkey, before, .inr ⟨fun heq => hadded (heq.trans hkey), hlast⟩⟩
      · rintro ⟨hkey, before, ⟨-, hrecord⟩ | ⟨-, hlast⟩⟩
        · rw [hrecord] at hkey
          exact absurd hkey hadded
        · exact ⟨hkey, before, hlast⟩

/-- A key has a last record if and only if it has a record. -/
theorem isSome_last?_iff {log : Log} {key : String} :
    (log.last? key).isSome ↔ key ∈ log.map Record.key := by
  rw [last?, List.find?_isSome, List.mem_map]
  constructor
  · rintro ⟨record, hmem, hkey⟩
    exact ⟨record, List.mem_reverse.1 hmem, of_decide_eq_true hkey⟩
  · rintro ⟨record, hmem, hkey⟩
    exact ⟨record, List.mem_reverse.2 hmem, decide_eq_true hkey⟩

/-! ## The bytes of a record in a log -/

/-- The bytes of a record lie behind those of the records before it. -/
theorem take_drop_bytes (before after : Log) (record : Record) :
    ((bytes (before ++ record :: after)).drop before.bytes.length).take record.size =
      record.encode := by
  rw [bytes_append, List.drop_left, bytes_cons, ← Record.length_encode, List.take_left]

/-- A record ends before its log does. -/
theorem length_bytes_split (before after : Log) (record : Record) :
    before.bytes.length + record.size + after.bytes.length =
      (bytes (before ++ record :: after)).length := by
  rw [bytes_append, bytes_cons, List.length_append, List.length_append, Record.length_encode]
  omega

/-- Of two records at different places of a log, one ends before the other begins. -/
theorem apart_of_splits {log before before' after after' : Log} {a b : Record}
    (hkey : a.key ≠ b.key) (ha : log = before ++ a :: after) (hb : log = before' ++ b :: after') :
    Span.Apart ⟨before.bytes.length, a.size⟩ ⟨before'.bytes.length, b.size⟩ := by
  have hsplit : before ++ a :: after = before' ++ b :: after' := ha.symm.trans hb
  rcases List.append_eq_append_iff.1 hsplit with
    ⟨between, hbefore, hrest⟩ | ⟨between, hbefore, hrest⟩
  · cases between with
    | nil => exact absurd (congrArg Record.key (List.cons.inj hrest).1) hkey
    | cons first between =>
      have hfirst : a = first := (List.cons.inj hrest).1
      refine .inl ?_
      rw [hbefore, ← hfirst, ← length_bytes_split, Span.stop]
      exact Nat.le_add_right _ _
  · cases between with
    | nil => exact absurd (congrArg Record.key (List.cons.inj hrest).1).symm hkey
    | cons first between =>
      have hfirst : b = first := (List.cons.inj hrest).1
      refine .inr ?_
      rw [hbefore, ← hfirst, ← length_bytes_split, Span.stop]
      exact Nat.le_add_right _ _

/-! ## The index -/

/-- The index after more records, the first of which begins at an offset. -/
def indexFrom (offset : Nat) (index : Index) : Log → Index
  | [] => index
  | record :: rest =>
    indexFrom (offset + record.size) (index.insert record.key ⟨offset, record.size⟩) rest

/-- The index of a log. -/
def index (log : Log) : Index := indexFrom 0 .empty log

theorem indexFrom_append (offset : Nat) (start : Index) (a b : Log) :
    indexFrom offset start (a ++ b) =
      indexFrom (offset + a.bytes.length) (indexFrom offset start a) b := by
  induction a generalizing offset start with
  | nil => rfl
  | cons record a ih =>
    rw [List.cons_append, indexFrom, indexFrom, ih, bytes_cons, List.length_append,
      Record.length_encode, Nat.add_assoc]

@[simp] theorem index_nil : index [] = .empty := rfl

/-- A record that is added is what its key finds from then on. -/
@[simp] theorem index_concat (log : Log) (record : Record) :
    index (log ++ [record]) = log.index.insert record.key ⟨log.bytes.length, record.size⟩ := by
  rw [index, indexFrom_append, Nat.zero_add]
  rfl

/-- **The index of a log finds the last record of each key, and nothing else.** -/
theorem find?_index_iff {log : Log} {key : String} {span : Span} :
    log.index.find? key = some span ↔
      ∃ (before : Log) (record : Record), log.LastAfter before record ∧ record.key = key ∧
        span = ⟨before.bytes.length, record.size⟩ := by
  induction log using List.reverseRecOn with
  | nil => simp [not_lastAfter_nil]
  | append_singleton log added ih =>
    rw [index_concat, Index.find?_insert]
    simp only [lastAfter_concat_iff]
    by_cases hadded : key = added.key
    · rw [if_pos hadded, Option.some.injEq]
      constructor
      · rintro rfl
        exact ⟨log, added, .inl ⟨rfl, rfl⟩, hadded.symm, rfl⟩
      · rintro ⟨before, record, ⟨rfl, rfl⟩ | ⟨hne, -⟩, hkey, rfl⟩
        · rfl
        · exact absurd (hkey.trans hadded).symm hne
    · rw [if_neg hadded, ih]
      constructor
      · rintro ⟨before, record, hlast, hkey, hspan⟩
        exact ⟨before, record, .inr ⟨fun heq => hadded (hkey.symm.trans heq.symm), hlast⟩, hkey,
          hspan⟩
      · rintro ⟨before, record, ⟨-, hrecord⟩ | ⟨-, hlast⟩, hkey, hspan⟩
        · rw [hrecord] at hkey
          exact absurd hkey.symm hadded
        · exact ⟨before, record, hlast, hkey, hspan⟩

/-- The place that a key has in the index is as long as its last record. -/
theorem map_length_find?_index (log : Log) (key : String) :
    (log.index.find? key).map Span.length = (log.last? key).map Record.size := by
  induction log using List.reverseRecOn with
  | nil => rfl
  | append_singleton log added ih =>
    rw [index_concat, Index.find?_insert, last?_concat]
    by_cases hadded : key = added.key
    · rw [if_pos hadded, if_pos hadded.symm, Option.map_some, Option.map_some]
    · rw [if_neg hadded, if_neg (Ne.symm hadded), ih]

/-- A key is found in the index if and only if it has a last record. -/
theorem isSome_find?_index (log : Log) (key : String) :
    (log.index.find? key).isSome = (log.last? key).isSome := by
  have h := congrArg Option.isSome (map_length_find?_index log key)
  rwa [Option.isSome_map, Option.isSome_map] at h

/-- The keys of the index are the keys of the log. -/
theorem mem_keys_index_iff {log : Log} {key : String} :
    key ∈ log.index.keys ↔ key ∈ log.map Record.key := by
  rw [Index.mem_keys_iff, isSome_find?_index, isSome_last?_iff]

/-- What the index finds lies inside the log. -/
theorem stop_le_of_find?_index {log : Log} {key : String} {span : Span}
    (h : log.index.find? key = some span) :
    span.offset < span.stop ∧ span.stop ≤ log.bytes.length := by
  obtain ⟨before, record, ⟨after, rfl, -⟩, -, rfl⟩ := find?_index_iff.1 h
  have hpos := record.size_pos
  rw [← length_bytes_split]
  show before.bytes.length < before.bytes.length + record.size ∧
    before.bytes.length + record.size ≤ before.bytes.length + record.size + after.bytes.length
  omega

/-- **The places that the index finds do not overlap.** -/
theorem apart_index {log : Log} {key other : String} {span otherSpan : Span} (hne : key ≠ other)
    (h : log.index.find? key = some span) (hother : log.index.find? other = some otherSpan) :
    span.Apart otherSpan := by
  obtain ⟨before, a, ⟨after, ha, -⟩, rfl, rfl⟩ := find?_index_iff.1 h
  obtain ⟨before', b, ⟨after', hb, -⟩, rfl, rfl⟩ := find?_index_iff.1 hother
  exact apart_of_splits hne ha hb

/-- **The index has as many keys as the log has.** -/
theorem size_index (log : Log) : log.index.size = (log.map Record.key).toFinset.card :=
  Index.size_eq_card fun _ => mem_keys_index_iff

/-! ## Shadowed records -/

/-- The records that a later record of the same key shadows, in order. -/
def shadowed : Log → Log
  | [] => []
  | record :: rest =>
    if record.key ∈ rest.map Record.key then record :: shadowed rest else shadowed rest

theorem last?_cons (record : Record) (rest : Log) (key : String) :
    last? (record :: rest) key =
      if key ∈ rest.map Record.key then last? rest key
      else if record.key = key then some record else none := by
  have hlast : last? (record :: rest) key =
      (last? rest key).or (if record.key = key then some record else none) := by
    rw [last?, List.reverse_cons, List.find?_append]
    by_cases hkey : record.key = key
    · simp [last?, hkey]
    · simp [last?, hkey]
  rw [hlast]
  by_cases hmem : key ∈ rest.map Record.key
  · rw [if_pos hmem]
    obtain ⟨found, hfound⟩ := Option.isSome_iff_exists.1 (isSome_last?_iff.2 hmem)
    rw [hfound, Option.some_or]
  · rw [if_neg hmem]
    have hnone : last? rest key = none := by
      rw [← Option.not_isSome_iff_eq_none, isSome_last?_iff]
      exact hmem
    rw [hnone, Option.none_or]

/-- A record that is added shadows the last record of its key, if there is one. -/
theorem sum_shadowed_concat (log : Log) (added : Record) (weight : Record → Nat) :
    ((shadowed (log ++ [added])).map weight).sum =
      ((shadowed log).map weight).sum + ((log.last? added.key).map weight).getD 0 := by
  induction log with
  | nil => rfl
  | cons record rest ih =>
    rw [List.cons_append, shadowed, shadowed, last?_cons, List.map_append, List.map_singleton]
    by_cases hkey : record.key = added.key
    · -- the first record has the key that is added
      by_cases hmem : record.key ∈ rest.map Record.key
      · have hmem' : added.key ∈ rest.map Record.key := hkey ▸ hmem
        rw [if_pos (List.mem_append_left _ hmem), if_pos hmem, if_pos hmem', List.map_cons,
          List.map_cons, List.sum_cons, List.sum_cons, ih]
        omega
      · have hmem' : added.key ∉ rest.map Record.key := hkey ▸ hmem
        have hnone : last? rest added.key = none := by
          rw [← Option.not_isSome_iff_eq_none, isSome_last?_iff]
          exact hmem'
        rw [hnone, Option.map_none, Option.getD_none] at ih
        rw [if_pos (List.mem_append_right _ (List.mem_singleton.2 hkey)), if_neg hmem,
          if_neg hmem', if_pos hkey, List.map_cons, List.sum_cons, ih, Option.map_some,
          Option.getD_some]
        omega
    · -- it has another key, and is shadowed by what shadowed it before
      have hiff : record.key ∈ rest.map Record.key ++ [added.key] ↔
          record.key ∈ rest.map Record.key := by
        rw [List.mem_append, List.mem_singleton, or_iff_left hkey]
      have hlast : (if added.key ∈ rest.map Record.key then last? rest added.key
          else if record.key = added.key then some record else none) = last? rest added.key := by
        rw [if_neg hkey, ite_eq_left_iff]
        intro hmem
        symm
        rw [← Option.not_isSome_iff_eq_none, isSome_last?_iff]
        exact hmem
      rw [hlast]
      simp only [hiff]
      split
      · rw [List.map_cons, List.map_cons, List.sum_cons, List.sum_cons, ih]
        omega
      · exact ih

/-- **The live bytes and the bytes of the shadowed records are all bytes of the log.** -/
theorem liveBytes_add_shadowed (log : Log) :
    log.index.liveBytes + (log.shadowed.map Record.size).sum = log.bytes.length := by
  induction log using List.reverseRecOn with
  | nil => rfl
  | append_singleton log added ih =>
    have hinsert := (index log).liveBytes_insert added.key ⟨(bytes log).length, added.size⟩
    rw [map_length_find?_index] at hinsert
    rw [index_concat, sum_shadowed_concat, bytes_append, bytes_singleton, List.length_append,
      Record.length_encode]
    dsimp only at hinsert
    omega

/-- No record is shadowed if and only if no key comes twice. -/
theorem shadowed_eq_nil_iff {log : Log} : log.shadowed = [] ↔ (log.map Record.key).Nodup := by
  induction log with
  | nil => exact iff_of_true rfl List.nodup_nil
  | cons record rest ih =>
    rw [shadowed, List.map_cons, List.nodup_cons]
    by_cases hmem : record.key ∈ rest.map Record.key
    · rw [if_pos hmem]
      exact iff_of_false (List.cons_ne_nil _ _) fun hnodup => hnodup.1 hmem
    · rw [if_neg hmem, ih]
      exact (and_iff_right hmem).symm

/-- Shadowed records take no bytes if and only if there are none, that is, if no key comes twice. -/
theorem sum_shadowed_eq_zero_iff {log : Log} :
    (log.shadowed.map Record.size).sum = 0 ↔ (log.map Record.key).Nodup := by
  rw [← shadowed_eq_nil_iff]
  cases hshadowed : log.shadowed with
  | nil => exact iff_of_true rfl rfl
  | cons record rest =>
    have hpos := record.size_pos
    rw [List.map_cons, List.sum_cons]
    exact iff_of_false (by omega) (List.cons_ne_nil _ _)

end Log
end KeyLog
