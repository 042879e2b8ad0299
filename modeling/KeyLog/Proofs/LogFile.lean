import KeyLog.LogFile
import KeyLog.Proofs.Log.Replay
import KeyLog.Proofs.Volume.Leads

/-!
# A handle that counts right

A handle *holds* a log if its path leads to its object, the object has the bytes of the log and
nothing else, and the handle's own length is their number.  This file says what each operation makes
of such a handle, for every medium on which a log can be cut back.

* `LogFile.Holds.append`: an append that goes through adds its record to the log, at the place it
  tells; one that fails leaves the log.
* `LogFile.Holds.recordAt`: at a place of the index the handle finds the last record of the key.
* `LogFile.replay_of_content`: a replay hands out the index of the log.
-/

namespace KeyLog

namespace Medium

/-- An object can always be cut to a smaller length. -/
def Shrinks (medium : Medium) : Prop :=
  ∀ size length, length ≤ size → medium.refuses size length = false

/-- A write that goes through leaves an object that is not too large. -/
def Bounded (medium : Medium) : Prop :=
  ∀ position size length, medium.cutOff position size length = none → 0 < length →
    size + length ≤ maxObjectSize

theorem shrinks_limited (limit : Option Nat) : (limited limit).Shrinks :=
  fun _ _ h => limited_refuses_of_le limit h

theorem bounded_limited (limit : Option Nat) : (limited limit).Bounded := by
  intro position size length hcut hpos
  have hreach : writeLimit limit ≤ maxObjectSize := by
    refine Nat.le_trans (writeLimit_le limit) ?_
    cases limit with
    | none => exact Nat.le_refl _
    | some limit => exact Nat.min_le_right _ _
  simp only [limited, cutAt] at hcut
  rw [if_neg (Nat.ne_of_gt hpos)] at hcut
  split at hcut
  · cases hcut
  split at hcut
  next hfits => exact Nat.le_trans hfits hreach
  next => split at hcut <;> cases hcut

end Medium

namespace Volume

/-- An append that is not cut off adds its bytes, and touches no other object. -/
theorem append_of_none {medium : Medium} {volume : Volume} {object position : Nat} {bytes : Bytes}
    (h : medium.cutOff position (volume.size object) bytes.length = none) :
    ∃ after, volume.append medium object position bytes = (none, after) ∧
      volume.Within after object ∧ after.content object = volume.content object ++ bytes := by
  refine ⟨volume.put object ((volume.held object).push (.written bytes)), ?_, within_put _ _ _, ?_⟩
  · have hcut : medium.cutOff position (volume.held object).size bytes.length = none := h
    simp only [append, hcut]
  · rw [content_put, if_pos rfl, SparseBytes.toBytes_push]
    rfl

/-- An append that is cut off adds the first of its bytes, and touches no other object. -/
theorem append_of_some {medium : Medium} {volume : Volume} {object position : Nat} {bytes : Bytes}
    {cut : Cut} (h : medium.cutOff position (volume.size object) bytes.length = some cut) :
    ∃ after, volume.append medium object position bytes = (some cut.cause, after) ∧
      volume.Within after object ∧
        after.content object = volume.content object ++ bytes.take cut.stored := by
  refine ⟨volume.put object ((volume.held object).push (.written (bytes.take cut.stored))), ?_,
    within_put _ _ _, ?_⟩
  · have hcut : medium.cutOff position (volume.held object).size bytes.length = some cut := h
    simp only [append, hcut]
  · rw [content_put, if_pos rfl, SparseBytes.toBytes_push]
    rfl

/-- An object that is cut to a smaller length keeps its first bytes, and no other object is
touched. -/
theorem resize_of_not_refuses {medium : Medium} {volume : Volume} {object length : Nat}
    (hrefuses : medium.refuses (volume.size object) length = false)
    (h : length ≤ volume.size object) :
    ∃ after, volume.resize medium object length = (none, after) ∧ volume.Within after object ∧
      after.content object = (volume.content object).take length := by
  refine ⟨volume.put object ((volume.held object).fit length), ?_, within_put _ _ _, ?_⟩
  · have hheld : medium.refuses (volume.held object).size length = false := hrefuses
    simp [resize, hheld]
  · have hle : length ≤ (volume.content object).length := by
      rw [← size_eq]
      exact h
    have hnone : length - (volume.held object).toBytes.length = 0 := Nat.sub_eq_zero_of_le hle
    rw [content_put, if_pos rfl, SparseBytes.toBytes_fit, hnone, List.replicate_zero,
      List.append_nil]
    rfl

/-- An object can be cut where objects shrink. -/
theorem resize_of_le {medium : Medium} (hshrinks : medium.Shrinks) {volume : Volume}
    {object length : Nat} (h : length ≤ volume.size object) :
    ∃ after, volume.resize medium object length = (none, after) ∧ volume.Within after object ∧
      after.content object = (volume.content object).take length :=
  resize_of_not_refuses (hshrinks _ _ h) h

end Volume

/-- A replay of what is kept of an object is one of its bytes. -/
theorem Replay.ofSource_held (volume : Volume) (object : Nat) :
    ofSource (.ofSparse (volume.held object)) = ofBytes (volume.content object) :=
  ofSource_ofSparse _

namespace LogFile

/-- The handle's path leads to its object, which has the bytes of the log and nothing else, and the
handle knows how many they are. -/
structure Holds (volume : Volume) (path : String) (file : LogFile) (log : Log) : Prop where
  path_eq : file.path = path
  leads : volume.Leads path file.object
  content : volume.content file.object = log.bytes
  length : file.length = log.bytes.length

variable {volume after : Volume} {path : String} {file : LogFile} {log : Log}

/-- A handle goes on to hold its log where nothing happens to its object. -/
theorem Holds.keeps (h : file.Holds volume path log) (hkeeps : volume.Keeps after file.object) :
    file.Holds after path log :=
  ⟨h.path_eq, h.leads.keeps hkeeps, hkeeps.content.trans h.content, h.length⟩

/-- Where the handle stands does not matter to what it holds. -/
theorem Holds.move (h : file.Holds volume path log) (position : Nat) :
    Holds volume path { file with position } log :=
  ⟨h.path_eq, h.leads, h.content, h.length⟩

theorem Holds.size_eq (h : file.Holds volume path log) :
    volume.size file.object = log.bytes.length := by
  rw [Volume.size_eq, h.content]

/-- A write moves the handle to the end of the object, or not at all, and does nothing else to
it. -/
theorem wrote_eq (file : LogFile) (before after : Volume) :
    ∃ position, file.wrote before after = { file with position } ∧
      (position = file.position ∨ position = after.size file.object) := by
  unfold wrote
  split
  · exact ⟨file.position, rfl, .inl rfl⟩
  · exact ⟨after.size file.object, rfl, .inr rfl⟩

/-- The handle stands at most one record behind the end of the log. -/
def StandsNear (file : LogFile) : Prop := file.position ≤ file.length + Layout.maxRecordSize

/-! ## Appending -/

/-- **An append to a log** adds the record at the place that it tells, or fails and leaves the log,
and then nothing but where the handle stands can be different. -/
theorem Holds.append (h : file.Holds volume path log) {medium : Medium} (hshrinks : medium.Shrinks)
    (record : Record) :
    (∃ moved after, file.append medium volume record =
        (.ok ⟨log.bytes.length, record.size⟩, moved, after) ∧
      volume.Within after file.object ∧ moved.Holds after path (log ++ [record]) ∧
        medium.cutOff file.position log.bytes.length record.size = none ∧
          (file.StandsNear → moved.StandsNear)) ∨
    (∃ cause position after, file.append medium volume record =
        (.error (.io cause), { file with position }, after) ∧
      volume.Within after file.object ∧ Holds after path { file with position } log ∧
        (file.StandsNear → StandsNear { file with position })) := by
  have hlength := h.length
  cases hcut : medium.cutOff file.position (volume.size file.object) record.encode.length with
  | none =>
    obtain ⟨after, happend, hwithin, hcontent⟩ := Volume.append_of_none hcut
    obtain ⟨position, hwrote, hposition⟩ := file.wrote_eq volume after
    have hsize : after.size file.object = file.length + record.size := by
      rw [Volume.size_eq, hcontent, List.length_append, Record.length_encode, h.content, hlength]
    refine .inl ⟨{ file with position, length := file.length + record.size }, after, ?_, hwithin,
      ?_, ?_, ?_⟩
    · simp only [LogFile.append, happend, hwrote, h.length]
    · refine ⟨h.path_eq, h.leads.within hwithin, ?_, ?_⟩
      · rw [hcontent, h.content, Log.bytes_append, Log.bytes_singleton]
      · rw [Log.bytes_append, Log.bytes_singleton, List.length_append, Record.length_encode,
          ← h.length]
    · rwa [h.size_eq, Record.length_encode] at hcut
    · simp only [StandsNear]
      omega
  | some cut =>
    obtain ⟨after, happend, hwithin, hcontent⟩ := Volume.append_of_some hcut
    obtain ⟨position, hwrote, hposition⟩ := file.wrote_eq volume after
    rw [h.content] at hcontent
    -- what was stored of the record lies behind the log, and is cut away
    have hsize : after.size file.object =
        file.length + (record.encode.take cut.stored).length := by
      rw [Volume.size_eq, hcontent, List.length_append, hlength]
    obtain ⟨restored, hresize, hwithin', hcontent'⟩ :=
      Volume.resize_of_le hshrinks (Nat.le.intro hsize.symm)
    rw [hcontent, h.length, List.take_left] at hcontent'
    refine .inr ⟨cut.cause, position, restored, ?_, ?_, ?_, ?_⟩
    · simp only [LogFile.append, happend, hwrote, rollBack, hresize]
    · refine ⟨hwithin'.entries.trans hwithin.entries, hwithin'.fresh.trans hwithin.fresh, ?_⟩
      intro other hne
      exact (hwithin'.content other hne).trans (hwithin.content other hne)
    · exact ⟨h.path_eq, (h.leads.within hwithin).within hwithin', hcontent', h.length⟩
    · have hstored : (record.encode.take cut.stored).length ≤ Layout.maxRecordSize := by
        refine Nat.le_trans (List.length_take_le' _ _) ?_
        rw [Record.length_encode]
        exact (Layout.recordSize_bounds record.key_pos record.key_le record.value_le).2
      simp only [StandsNear]
      omega

/-! ## Reading -/

/-- **At a place of the index** the handle finds the last record of the key, unless the place is too
far away to be read at all. -/
theorem Holds.recordAt (h : file.Holds volume path log) {key : String} {span : Span}
    (hfind : log.index.find? key = some span) :
    ∃ record, log.last? key = some record ∧ file.recordAt volume span =
      if Medium.maxObjectSize < span.stop then .error (.io .invalidArgument) else .ok record := by
  obtain ⟨-, hstop⟩ := Log.stop_le_of_find?_index hfind
  obtain ⟨before, record, ⟨later, hlog, hlater⟩, hkey, rfl⟩ := Log.find?_index_iff.1 hfind
  refine ⟨record, Log.last?_eq_some_iff.2 ⟨hkey, before, later, hlog, hlater⟩, ?_⟩
  have hread : volume.read file.object before.bytes.length record.size = record.encode := by
    rw [Volume.read_eq, h.content, hlog, Log.take_drop_bytes]
  have hinside : ¬ file.length < Span.stop ⟨before.bytes.length, record.size⟩ := by
    rw [h.length]
    exact Nat.not_lt.2 hstop
  have hwhole : ¬ record.encode.length < record.size := by
    rw [Record.length_encode]
    exact Nat.lt_irrefl _
  rw [recordAt_eq, if_neg hinside]
  show (if Medium.maxObjectSize < Span.stop ⟨before.bytes.length, record.size⟩ then _
    else if (volume.read file.object before.bytes.length record.size).length < record.size then _
    else _) = _
  rw [hread, if_neg hwhole, Record.decode_encode]

/-! ## Replaying -/

/-- **A replay of a log** hands out its index, and the handle then counts its bytes. -/
theorem replay_of_content (file : LogFile)
    (hcontent : volume.content file.object = log.bytes) :
    ∃ superseded, superseded + log.index.size = log.length ∧
      file.replay volume =
        (.ok ⟨log.index, ⟨log.length, log.index.size, superseded, log.bytes.length⟩⟩,
          { file with length := log.bytes.length, position := log.bytes.length }) := by
  obtain ⟨superseded, hcount, hreplay⟩ := Replay.ofBytes_log log
  refine ⟨superseded, hcount, ?_⟩
  simp only [LogFile.replay, Replay.ofSource_held, hcontent, hreplay]

end LogFile
end KeyLog
