import KeyLog.Delivery
import KeyLog.Proofs.Log.Index
import KeyLog.Proofs.Source.Ending

/-!
# What a replay makes of bytes

A replay of bytes goes through the log that they begin with, record by record, and what it carries
along is the index of the records so far.  Behind the log it either meets the end, and hands out the
index, or it meets bytes that are no record, and reports their offset.

* `Replay.ofBytes_log`: a replay of a log hands out the index of the log and its counts.
* `Replay.ofBytes_damaged`: a replay of a log with something behind it that is no record reports the
  end of the log.
* `Replay.accepts_exactly_logs`: hence a replay accepts the bytes of logs and nothing else, and
  blames the end of the longest log at the front.
* `Replay.indexes_last_records`: hence a replay finds the last record of each key.
-/

namespace KeyLog
namespace Replay

/-- A replay that meets a log goes through it, whatever comes behind, and the records that it counts
as superseded are those by which the index stays behind the number of records. -/
theorem resume_log (log : Log) {rest : Bytes} {ending : Option SystemError} (scanner : Scanner)
    (h : scanner.source.Delivers (log.bytes ++ rest) ending) (index : Index)
    (records superseded : Nat) :
    ∃ (after : Scanner) (shadowed : Nat),
      resume scanner index records superseded =
        resume after (Log.indexFrom scanner.offset index log) (records + log.length)
          (superseded + shadowed) ∧
      after.source.Delivers rest ending ∧ after.offset = scanner.offset + log.bytes.length ∧
      shadowed + (Log.indexFrom scanner.offset index log).size = index.size + log.length := by
  induction log generalizing scanner index records superseded with
  | nil => exact ⟨scanner, 0, rfl, h, rfl, Nat.zero_add _⟩
  | cons record log ih =>
    rw [Log.bytes_cons, List.append_assoc] at h
    obtain ⟨source, hnext, hsource⟩ := Scanner.nextRecord_of_encode h
    obtain ⟨after, shadowed, hresume, hafter, hoffset, hcount⟩ :=
      ih { scanner with source, offset := scanner.offset + record.size } hsource
        (index.insert record.key ⟨scanner.offset, record.size⟩) (records + 1)
        (superseded + if (index.find? record.key).isSome then 1 else 0)
    have hsize := index.size_insert record.key ⟨scanner.offset, record.size⟩
    dsimp only at hresume hoffset hcount
    refine ⟨after, (if (index.find? record.key).isSome then 1 else 0) + shadowed, ?_, hafter, ?_,
      ?_⟩
    · rw [resume_eq, hnext]
      show resume { scanner with source, offset := scanner.offset + record.size }
        (index.insert record.key ⟨scanner.offset, record.size⟩) (records + 1)
        (superseded + if (index.find? record.key).isSome then 1 else 0) = _
      rw [hresume, Log.indexFrom, List.length_cons, Nat.add_right_comm records,
        Nat.add_assoc records, Nat.add_assoc superseded]
    · rw [hoffset, Log.bytes_cons, List.length_append, Record.length_encode, Nat.add_assoc]
    · rw [Log.indexFrom, List.length_cons]
      omega

/-- The same from the beginning of a source. -/
theorem ofSource_log (log : Log) {rest : Bytes} {ending : Option SystemError} {source : Source}
    (h : source.Delivers (log.bytes ++ rest) ending) :
    ∃ (after : Scanner) (shadowed : Nat),
      ofSource source = resume after log.index log.length shadowed ∧
      after.source.Delivers rest ending ∧ after.offset = log.bytes.length ∧
      shadowed + log.index.size = log.length := by
  obtain ⟨after, shadowed, hresume, hafter, hoffset, hcount⟩ :=
    resume_log log (.start source) h .empty 0 0
  have hempty : Index.empty.size = 0 := rfl
  have hstart : (Scanner.start source).offset = 0 := rfl
  rw [hstart, Nat.zero_add, Nat.zero_add] at hresume
  rw [hstart, Nat.zero_add] at hoffset
  rw [hstart, hempty, Nat.zero_add] at hcount
  exact ⟨after, shadowed, hresume, hafter, hoffset, hcount⟩

/-- **A replay of a log** hands out the index of the log and its counts. -/
theorem ofBytes_log (log : Log) :
    ∃ superseded, superseded + log.index.size = log.length ∧
      ofBytes log.bytes =
        .ok ⟨log.index, ⟨log.length, log.index.size, superseded, log.bytes.length⟩⟩ := by
  have hdelivers : (Source.ofBytes log.bytes).Delivers (log.bytes ++ []) none := by
    rw [List.append_nil]
    exact Source.delivers_ofBytes _
  obtain ⟨after, superseded, hreplay, hafter, hoffset, hcount⟩ := ofSource_log log hdelivers
  obtain ⟨stopped, hstop, -⟩ := Scanner.nextRecord_of_nil hafter
  refine ⟨superseded, hcount, ?_⟩
  rw [ofBytes, hreplay, resume_eq, hstop]
  show Except.ok (Replay.mk log.index ⟨log.length, log.index.size, superseded, after.offset⟩) = _
  rw [hoffset]

/-- **A replay of a damaged log** reports the offset at which the log ends. -/
theorem ofBytes_damaged (log : Log) {rest : Bytes} (hstuck : Log.Stuck rest) (hrest : rest ≠ []) :
    ∃ reason, ofBytes (log.bytes ++ rest) = .error (.corruption log.bytes.length reason) := by
  obtain ⟨after, superseded, hreplay, hafter, hoffset, -⟩ :=
    ofSource_log log (Source.delivers_ofBytes (log.bytes ++ rest))
  obtain ⟨reason, -, -, stopped, -, -, -, hstop⟩ :=
    Scanner.nextRecord_of_stuck hafter hstuck hrest
  refine ⟨reason, ?_⟩
  rw [ofBytes, hreplay, resume_eq, hstop]
  show Except.error (StoreError.corruption after.offset reason) = _
  rw [hoffset]

/-- A replay accepts the bytes of logs and nothing else. -/
theorem accepts_iff {data : Bytes} :
    (∃ replay, ofBytes data = .ok replay) ↔ ∃ log : Log, data = log.bytes := by
  constructor
  · rintro ⟨replay, haccept⟩
    obtain ⟨log, rest, hdata, hstuck⟩ := Log.exists_longest data
    by_cases hrest : rest = []
    · refine ⟨log, ?_⟩
      rw [hdata, hrest, List.append_nil]
    · obtain ⟨reason, hdamaged⟩ := ofBytes_damaged log hstuck hrest
      rw [hdata, hdamaged] at haccept
      cases haccept
  · rintro ⟨log, rfl⟩
    obtain ⟨superseded, -, hreplay⟩ := ofBytes_log log
    exact ⟨_, hreplay⟩

/-- Nothing stands at the front of a record that is cut short. -/
theorem stuck_take_encode {record : Record} {count : Nat} (h : count < record.size) :
    Log.Stuck (record.encode.take count) := by
  intro other more hcut
  have hwhole : record.encode ++ [] =
      other.encode ++ (more ++ record.encode.drop count) := by
    rw [← List.append_assoc, ← hcut, List.take_append_drop, List.append_nil]
  obtain ⟨-, hnil⟩ := Record.encode_append_inj hwhole
  have hdrop : (record.encode.drop count).length = 0 := by
    rw [(List.append_eq_nil_iff.1 hnil.symm).2, List.length_nil]
  rw [List.length_drop, Record.length_encode] at hdrop
  omega

/-- **A replay accepts exactly the bytes of logs**, which are the bytes of one log only.  All other
bytes it reports as damaged at the end of the longest log that they begin with.  So a log that is
cut between two records is accepted, and one that is cut inside a record is reported at the
beginning of that record. -/
theorem accepts_exactly_logs (data : Bytes) :
    ((∃ replay, ofBytes data = .ok replay) ↔ ∃ log : Log, data = log.bytes) ∧
    (∀ log other : Log, data = log.bytes → data = other.bytes → log = other) ∧
    ((¬ ∃ log : Log, data = log.bytes) →
      ∃ (good : Log) (reason : Corruption),
        ofBytes data = .error (.corruption good.bytes.length reason) ∧ good.bytes <+: data ∧
          ∀ log : Log, log.bytes <+: data → log.bytes.length ≤ good.bytes.length) ∧
    (∀ (before after : Log) (record : Record), data = Log.bytes (before ++ record :: after) →
      (∃ replay, ofBytes (data.take before.bytes.length) = .ok replay) ∧
      ∀ count, before.bytes.length < count → count < before.bytes.length + record.size →
        ∃ reason, ofBytes (data.take count) = .error (.corruption before.bytes.length reason)) := by
  refine ⟨accepts_iff, ?_, ?_, ?_⟩
  · intro log other hlog hother
    exact Log.bytes_injective (hlog.symm.trans hother)
  · intro hnone
    obtain ⟨good, rest, hdata, hstuck⟩ := Log.exists_longest data
    have hrest : rest ≠ [] := by
      rintro rfl
      exact hnone ⟨good, by rw [hdata, List.append_nil]⟩
    obtain ⟨reason, hdamaged⟩ := ofBytes_damaged good hstuck hrest
    refine ⟨good, reason, hdata ▸ hdamaged, ⟨rest, hdata.symm⟩, ?_⟩
    rintro log ⟨tail, htail⟩
    obtain ⟨more, hmore⟩ := Log.isPrefix_of_bytes_append hstuck (hdata.symm.trans htail.symm)
    rw [← hmore, Log.bytes_append, List.length_append]
    exact Nat.le_add_right _ _
  · rintro before after record rfl
    rw [Log.bytes_append]
    constructor
    · rw [List.take_left]
      exact accepts_iff.2 ⟨before, rfl⟩
    · intro count hafter hinside
      have hcount : (before.bytes ++ Log.bytes (record :: after)).take count =
          before.bytes ++ record.encode.take (count - before.bytes.length) := by
        rw [List.take_append, List.take_of_length_le (Nat.le_of_lt hafter), Log.bytes_cons,
          List.take_append_of_le_length]
        rw [Record.length_encode]
        omega
      have hcut : count - before.bytes.length < record.size := by omega
      have hnonempty : record.encode.take (count - before.bytes.length) ≠ [] := by
        intro hnil
        have hlength := congrArg List.length hnil
        rw [List.length_take, Record.length_encode, List.length_nil] at hlength
        omega
      rw [hcount]
      exact ofBytes_damaged before (stuck_take_encode hcut) hnonempty

/-- **A replay of a log finds the last record of each key.**  Its counts are the number of records,
the number of different keys, the difference of the two, and the number of bytes; the bytes that are
live and those of shadowed records are all bytes, and the places in the index are ranges of the log
that do not overlap. -/
theorem indexes_last_records (log : Log) :
    ∃ replay, ofBytes log.bytes = .ok replay ∧
      (∀ (before after : Log) (record : Record), log = before ++ record :: after →
        (∀ later ∈ after, later.key ≠ record.key) →
          replay.index.find? record.key =
            some ⟨before.bytes.length, record.encode.length⟩) ∧
      (∀ key, key ∈ replay.index.keys ↔ key ∈ log.map Record.key) ∧
      replay.stats.records = log.length ∧
      replay.stats.liveKeys = (log.map Record.key).toFinset.card ∧
      replay.stats.superseded + replay.stats.liveKeys = log.length ∧
      replay.stats.bytes = log.bytes.length ∧
      replay.index.liveBytes + (log.shadowed.map fun record => record.encode.length).sum =
        replay.stats.bytes ∧
      (∀ entry ∈ replay.index.entries,
        entry.2.offset < entry.2.stop ∧ entry.2.stop ≤ replay.stats.bytes) ∧
      replay.index.entries.Pairwise fun a b => a.2.Apart b.2 := by
  obtain ⟨superseded, hcount, hreplay⟩ := ofBytes_log log
  refine ⟨_, hreplay, ?_, ?_, rfl, log.size_index, hcount, rfl, ?_, ?_, ?_⟩
  · rintro before after record hlog hlater
    rw [Record.length_encode]
    exact Log.find?_index_iff.2 ⟨before, record, ⟨after, hlog, hlater⟩, rfl, rfl⟩
  · intro key
    exact Log.mem_keys_index_iff
  · simp only [Record.length_encode]
    exact log.liveBytes_add_shadowed
  · rintro ⟨key, span⟩ hentry
    exact Log.stop_le_of_find?_index (Index.mem_entries_iff.1 hentry)
  · refine log.index.ordered.imp_of_mem ?_
    rintro ⟨key, span⟩ ⟨other, otherSpan⟩ hentry hother hbefore
    have hne : key ≠ other := by
      rintro rfl
      exact Utf8.Before.irrefl _ hbefore
    exact Log.apart_index hne (Index.mem_entries_iff.1 hentry) (Index.mem_entries_iff.1 hother)

end Replay
end KeyLog
