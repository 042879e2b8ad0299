import KeyLog.Proofs.Log.Contents
import KeyLog.Proofs.LogFile
import KeyLog.Proofs.Volume.Draft
import KeyLog.Proofs.Volume.Lasting
import KeyLog.Store.Compaction

/-!
# What a compaction comes to

A compaction of a handle that holds a log either puts the compacted log in its place or leaves the
log as it was, wherever it is stopped.  The invariant has two halves.  Until the renaming the old
handle holds its log, because everything that is written goes to another object (`Ongoing.holds`).
And each phase says what the draft has come to (`Phase.Fits`): the records that are copied, and
those that are left to copy, are together the compacted log.

* `step_ongoing`: a step keeps the invariant, or ends the compaction.
* `run_ongoing`: hence so does a run from any phase.
* `run_opening`: hence a compaction ends with the compacted log in place, or with the log.
-/

namespace KeyLog
namespace Compaction

variable {medium : Medium} {volume after : Volume} {path : String} {file : LogFile} {log : Log}

/-! ## The draft -/

/-- The draft stands under the temporary name, and what is written and collected of it are the
records that were copied. -/
structure Draft.Holds (volume : Volume) (path : String) (draft : Draft) (copied : Log) : Prop where
  leads : volume.Leads (temporaryPath path) draft.object
  content : volume.content draft.object ++ draft.pending = copied.bytes
  index_eq : draft.index = copied.index
  offset_eq : draft.offset = copied.bytes.length

/-- Bytes are added to the draft, or the write fails; no other object is touched. -/
theorem write_cases (medium : Medium) (volume : Volume) (object : Nat) (bytes : Bytes) :
    (∃ after, write medium volume object bytes = (none, after) ∧ volume.Within after object ∧
        after.content object = volume.content object ++ bytes) ∨
      ∃ cause after, write medium volume object bytes = (some cause, after) ∧
        volume.Within after object := by
  unfold write
  by_cases hempty : bytes.isEmpty
  · refine .inl ⟨volume, by rw [if_pos hempty], .refl volume object, ?_⟩
    rw [List.isEmpty_iff.1 hempty, List.append_nil]
  rw [if_neg hempty]
  cases hcut : medium.cutOff (volume.size object) (volume.size object) bytes.length with
  | none =>
    obtain ⟨after, happend, hwithin, hcontent⟩ := Volume.append_of_none hcut
    exact .inl ⟨after, happend, hwithin, hcontent⟩
  | some cut =>
    obtain ⟨after, happend, hwithin, -⟩ := Volume.append_of_some hcut
    exact .inr ⟨cut.cause, after, happend, hwithin⟩

/-- A draft to which a record was added, and the bytes for it written, holds one record more. -/
theorem Draft.Holds.add {draft : Draft} {copied : Log} (h : draft.Holds volume path copied)
    (record : Record) (hwithin : volume.Within after draft.object)
    (hcontent : after.content draft.object =
      volume.content draft.object ++ (draft.add record.key record).1) :
    (draft.add record.key record).2.Holds after path (copied ++ [record]) := by
  constructor
  · exact h.leads.within hwithin
  · have hcollect := collect_append draft.pending record.encode
    simp only [Draft.add] at hcontent ⊢
    rw [hcontent, List.append_assoc, hcollect, ← List.append_assoc, h.content, Log.bytes_append,
      Log.bytes_singleton]
  · simp only [Draft.add]
    rw [Log.index_concat, h.index_eq, h.offset_eq, Record.length_encode]
  · simp only [Draft.add]
    rw [Log.bytes_append, Log.bytes_singleton, List.length_append, h.offset_eq]

/-! ## The invariant -/

/-- What a phase of the compaction of a log has come to. -/
def Phase.Fits (volume : Volume) (path : String) (log : Log) : Phase → Prop
  | .opening todo => todo = log.index.entries
  | .copying draft todo =>
    (∀ entry ∈ todo, entry ∈ log.index.entries) ∧
      ∃ copied, draft.Holds volume path copied ∧
        copied ++ (todo.map Prod.fst).filterMap log.last? = log.compacted
  | .reopening index =>
    index = log.compacted.index ∧
      ∃ object, volume.Leads (temporaryPath path) object ∧
        volume.content object = log.compacted.bytes
  | .replacing draft index =>
    index = log.compacted.index ∧ draft.Holds volume (temporaryPath path) log.compacted
  | .discarding draft _ => volume.Leads (temporaryPath path) draft.object
  | .removing _ => True

/-- A compaction of a log is under way: the old handle still holds the log. -/
structure Ongoing (volume : Volume) (path : String) (file : LogFile) (log : Log) (phase : Phase) :
    Prop where
  sound : volume.Sound
  holds : file.Holds volume path log
  phase : phase.Fits volume path log

/-- A compaction has ended: the new handle holds the compacted log, or the old one holds the
log. -/
def Ended (path : String) (log : Log) : Outcome × LogFile × Volume → Prop
  | (.ok (new, index), _, volume) =>
    new.Holds volume path log.compacted ∧ index = log.compacted.index
  | (.error _, file, volume) => file.Holds volume path log

/-- A step has led on, or to an end. -/
def Stepped (path : String) (log : Log) : Progress × LogFile × Volume → Prop
  | (.to phase, file, volume) => Ongoing volume path file log phase
  | (.finished outcome, file, volume) => Ended path log (outcome, file, volume)

/-- The temporary name does not lead to the log. -/
theorem Ongoing.not_leads {phase : Phase} (h : Ongoing volume path file log phase) :
    ¬ volume.Leads (temporaryPath path) file.object :=
  Volume.not_leads_append h.sound (by decide) (by decide) h.holds.leads

/-- What happens to an object of the temporary name leaves a compaction under way. -/
theorem Ongoing.within {phase next : Phase} (h : Ongoing volume path file log phase) {object : Nat}
    (hleads : volume.Leads (temporaryPath path) object) (hwithin : volume.Within after object)
    (hnext : next.Fits after path log) : Ongoing after path file log next := by
  have hne : file.object ≠ object := by
    intro heq
    exact h.not_leads (heq ▸ hleads)
  exact ⟨hwithin.sound h.sound, h.holds.keeps (hwithin.keeps hne), hnext⟩

/-! ## One step -/

theorem step_opening {todo : List (String × Span)}
    (h : Ongoing volume path file log (.opening todo)) :
    Stepped path log (step medium file volume (.opening todo)) := by
  have htodo : todo = log.index.entries := h.phase
  simp only [step]
  rw [h.holds.path_eq]
  have hsound := Volume.lasting_sound.openEmpty h.sound (temporaryPath path)
  rcases volume.openEmpty_drafted (temporaryPath path) with
    ⟨cause, hopen, -⟩ | ⟨draft, after, hidden, hopen, hdrafted, hcontent⟩
  · rw [hopen]
    exact ⟨h.sound, h.holds, trivial⟩
  · rw [hopen] at hsound ⊢
    have hkeeps := hdrafted.keeps (h.holds.leads.lt_fresh h.sound) h.not_leads
    -- nothing is copied yet, and all entries are left
    refine ⟨hsound, h.holds.keeps hkeeps, ?_, [], ⟨hdrafted.leads, ?_, rfl, rfl⟩, ?_⟩
    · intro entry hentry
      rwa [htodo] at hentry
    · rw [hcontent]
      rfl
    · rw [htodo, List.nil_append]
      rfl

theorem step_copying_cons {draft : Draft} {entry : String × Span} {todo : List (String × Span)}
    (h : Ongoing volume path file log (.copying draft (entry :: todo))) :
    Stepped path log (step medium file volume (.copying draft (entry :: todo))) := by
  obtain ⟨key, span⟩ := entry
  obtain ⟨hmem, copied, hdraft, hcopied⟩ := h.phase
  have hfind : log.index.find? key = some span :=
    Index.mem_entries_iff.1 (hmem _ List.mem_cons_self)
  obtain ⟨record, hlast, hrecord⟩ := h.holds.recordAt hfind
  have hkey : record.key = key := (Log.last?_eq_some_iff.1 hlast).1
  have hmoved : ({ file with position := file.positionAfter volume span } : LogFile).Holds
      volume path log := h.holds.move _
  simp only [step, LogFile.readAt]
  rw [hrecord]
  by_cases hfar : Medium.maxObjectSize < span.stop
  · rw [if_pos hfar]
    exact ⟨h.sound, hmoved, hdraft.leads⟩
  rw [if_neg hfar]
  dsimp only
  subst hkey
  rcases write_cases medium volume draft.object (draft.add record.key record).1 with
    ⟨after, hwrite, hwithin, hcontent⟩ | ⟨cause, after, hwrite, hwithin⟩
  · -- the record is copied
    have hwrite' : write medium volume (draft.add record.key record).2.object
        (draft.add record.key record).1 = (none, after) := hwrite
    rw [hwrite']
    refine Ongoing.within (⟨h.sound, hmoved, h.phase⟩ : Ongoing _ _ _ _ _) hdraft.leads hwithin ?_
    refine ⟨fun other hother => hmem other (List.mem_cons_of_mem _ hother), copied ++ [record],
      hdraft.add record hwithin hcontent, ?_⟩
    rw [← hcopied, List.map_cons, List.filterMap_cons_some hlast, List.append_assoc]
    rfl
  · have hwrite' : write medium volume (draft.add record.key record).2.object
        (draft.add record.key record).1 = (some cause, after) := hwrite
    rw [hwrite']
    exact Ongoing.within (⟨h.sound, hmoved, h.phase⟩ : Ongoing _ _ _ _ _) hdraft.leads hwithin
      trivial

theorem step_copying_nil {draft : Draft} (h : Ongoing volume path file log (.copying draft [])) :
    Stepped path log (step medium file volume (.copying draft [])) := by
  obtain ⟨-, copied, hdraft, hcopied⟩ := h.phase
  have hall : copied = log.compacted := by
    rw [← hcopied, List.map_nil, List.filterMap_nil, List.append_nil]
  simp only [step]
  rcases write_cases medium volume draft.object draft.pending with
    ⟨after, hwrite, hwithin, hcontent⟩ | ⟨cause, after, hwrite, hwithin⟩
  · rw [hwrite]
    refine h.within hdraft.leads hwithin ⟨?_, draft.object, hdraft.leads.within hwithin, ?_⟩
    · rw [hdraft.index_eq, hall]
    · rw [hcontent, hdraft.content, hall]
  · rw [hwrite]
    exact h.within hdraft.leads hwithin trivial

theorem step_reopening {index : Index} (h : Ongoing volume path file log (.reopening index)) :
    Stepped path log (step medium file volume (.reopening index)) := by
  obtain ⟨hindex, object, hleads, hcontent⟩ := h.phase
  simp only [step, LogFile.openAt]
  rw [h.holds.path_eq, hleads.openFile]
  refine ⟨h.sound, h.holds, hindex, rfl, hleads, hcontent, ?_⟩
  show volume.size object = _
  rw [Volume.size_eq, hcontent]

theorem step_replacing {draft : LogFile} {index : Index}
    (h : Ongoing volume path file log (.replacing draft index)) :
    Stepped path log (step medium file volume (.replacing draft index)) := by
  obtain ⟨hindex, hdraft⟩ := h.phase
  obtain ⟨hidden, hdrafted⟩ := hdraft.leads.drafted
  simp only [step]
  rw [h.holds.path_eq]
  rcases hdrafted.rename (by decide) (by decide) with
    ⟨cause, -, hnone⟩ | ⟨after, hrename, hleads, hcontent⟩
  · exact absurd h.holds.leads (hnone file.object)
  · have hrename' : volume.rename (temporaryPath path) path = (none, after) := hrename
    rw [hrename']
    exact ⟨⟨rfl, hleads, (hcontent _).trans hdraft.content, hdraft.length⟩, hindex⟩

theorem step_discarding {draft : Draft} {error : StoreError}
    (h : Ongoing volume path file log (.discarding draft error)) :
    Stepped path log (step medium file volume (.discarding draft error)) := by
  have hleads : volume.Leads (temporaryPath path) draft.object := h.phase
  simp only [step]
  rcases write_cases medium volume draft.object draft.pending with
    ⟨after, hwrite, hwithin, -⟩ | ⟨cause, after, hwrite, hwithin⟩
  · rw [hwrite]
    exact h.within hleads hwithin trivial
  · rw [hwrite]
    exact h.within hleads hwithin trivial

theorem step_removing {error : StoreError}
    (h : Ongoing volume path file log (.removing error)) :
    Stepped path log (step medium file volume (.removing error)) := by
  simp only [step]
  rw [h.holds.path_eq]
  have hundone := volume.undone_remove (temporaryPath path)
  exact h.holds.keeps (hundone.keeps (h.holds.leads.lt_fresh h.sound) h.not_leads)

/-- **A step keeps a compaction under way, or ends it.** -/
theorem step_ongoing {phase : Phase} (h : Ongoing volume path file log phase) :
    Stepped path log (step medium file volume phase) := by
  cases phase with
  | opening todo => exact step_opening h
  | copying draft todo =>
    cases todo with
    | nil => exact step_copying_nil h
    | cons entry todo => exact step_copying_cons h
  | reopening index => exact step_reopening h
  | replacing draft index => exact step_replacing h
  | discarding draft error => exact step_discarding h
  | removing error => exact step_removing h

/-! ## Runs -/

/-- **A compaction under way comes to an end.** -/
theorem run_ongoing {phase : Phase} (h : Ongoing volume path file log phase) :
    Ended path log (run medium file volume phase) := by
  fun_induction run medium file volume phase with
  | case1 file volume phase outcome moved after hstep =>
    have hstepped : Stepped path log (step medium file volume phase) := step_ongoing h
    rw [hstep] at hstepped
    exact hstepped
  | case2 file volume phase next moved after hstep ih =>
    have hstepped : Stepped path log (step medium file volume phase) := step_ongoing h
    rw [hstep] at hstepped
    exact ih hstepped

/-- **A compaction ends with the compacted log in place, or with the log.** -/
theorem run_opening (hsound : volume.Sound) (h : file.Holds volume path log) :
    Ended path log (run medium file volume (.opening log.index.entries)) :=
  run_ongoing ⟨hsound, h, rfl⟩

end Compaction
end KeyLog
