import KeyLog.Proofs.Compaction.Run
import KeyLog.Proofs.Session.Lasting

/-!
# A compaction that is stopped

The process may be gone at any moment.  What it leaves is then a volume on which some steps of the
compaction are done, and perhaps a part of the next one: of a write any number of bytes.  Bytes that
have not been forced to the disk may be lost as well, or come out as others.  That is said here of
the draft until all of it is written; from then on its bytes are forced, and renaming is one event.

* `Compaction.Stopped`: the volumes that a compaction can leave when it is stopped.
* `Compaction.stopAfter`: one of them, computed.
* `Compaction.Stopped.whole`: the log at the path is whole on all of them, be it the old log or the
  compacted one.

The invariant of a compaction that goes on (`Ongoing`) says this at the beginning of every step.  A
step that is cut off within is a step on another medium, and what is lost is lost of an object that
is not the log's.
-/

namespace KeyLog
namespace Compaction

variable {medium : Medium} {volume left : Volume} {path : String} {file : LogFile} {log : Log}
  {phase : Phase}

/-! ## Where it can be stopped -/

/-- The bytes of the draft have been forced to the disk: this is done with the last write, before
the draft is opened as a log. -/
def Phase.Forced : Phase → Prop
  | .reopening _ | .replacing _ _ => True
  | .opening _ | .copying _ _ | .discarding _ _ | .removing _ => False

/-- The volumes that a compaction can leave when it is stopped in some phase or later. -/
inductive Stopped (medium : Medium) : LogFile → Volume → Phase → Volume → Prop
  /-- The next step is not begun. -/
  | before (file : LogFile) (volume : Volume) (phase : Phase) :
      Stopped medium file volume phase volume
  /-- The next step is done, or of what it writes as much as another medium lets through. -/
  | within (file : LogFile) (volume : Volume) (phase : Phase) (cut : Medium) :
      Stopped medium file volume phase (step cut file volume phase).2.2
  /-- The file of the temporary name has come out with any bytes, since they were not forced. -/
  | lost {file : LogFile} {volume left : Volume} {phase : Phase} {draft : Nat}
      (hforced : ¬ phase.Forced) (hleads : volume.Leads (temporaryPath file.path) draft)
      (hwithin : volume.Within left draft) : Stopped medium file volume phase left
  /-- The next step is done, and it is stopped later. -/
  | later {file moved : LogFile} {volume after left : Volume} {phase next : Phase}
      (hstep : step medium file volume phase = (.to next, moved, after))
      (hlater : Stopped medium moved after next left) : Stopped medium file volume phase left

/-- The volume that is left when so many steps are done and the next one is cut off as another
medium cuts it off. -/
def stopAfter (medium cut : Medium) : Nat → LogFile → Volume → Phase → Volume
  | 0, file, volume, phase => (step cut file volume phase).2.2
  | steps + 1, file, volume, phase =>
    match step medium file volume phase with
    | (.finished _, _, volume) => volume
    | (.to next, file, volume) => stopAfter medium cut steps file volume next

/-- A compaction can be stopped after any number of steps. -/
theorem stopped_stopAfter (medium cut : Medium) (steps : Nat) (file : LogFile) (volume : Volume)
    (phase : Phase) :
    Stopped medium file volume phase (stopAfter medium cut steps file volume phase) := by
  induction steps generalizing file volume phase with
  | zero => exact .within file volume phase cut
  | succ steps ih =>
    unfold stopAfter
    split
    next after hstep =>
      have hdone : Stopped medium file volume phase _ := .within file volume phase medium
      rwa [hstep] at hdone
    next next moved after hstep => exact .later hstep (ih moved after next)

/-! ## What is left -/

/-- At the path is a whole log, the old one or the compacted one. -/
structure Whole (volume : Volume) (path : String) (log : Log) : Prop where
  sound : volume.Sound
  leads : ∃ object, volume.Leads path object ∧
    (volume.content object = log.bytes ∨ volume.content object = log.compacted.bytes)

/-- Until a compaction ends the log is the old one. -/
theorem Ongoing.whole (h : Ongoing volume path file log phase) : Whole volume path log :=
  ⟨h.sound, file.object, h.holds.leads, .inl h.holds.content⟩

/-- After a step the log is whole, whatever medium the step has written on. -/
theorem Ongoing.whole_step (h : Ongoing volume path file log phase) (medium : Medium) :
    Whole (step medium file volume phase).2.2 path log := by
  have hstepped : Stepped path log (step medium file volume phase) := step_ongoing h
  have hsound := lasting_step Volume.lasting_sound h.sound medium file phase
  generalize step medium file volume phase = result at hstepped hsound
  obtain ⟨next | outcome, moved, after⟩ := result
  · exact Ongoing.whole hstepped
  · cases outcome with
    | error error =>
      have hholds : moved.Holds after path log := hstepped
      exact ⟨hsound, moved.object, hholds.leads, .inl hholds.content⟩
    | ok result =>
      have hended : result.1.Holds after path log.compacted ∧ result.2 = log.compacted.index :=
        hstepped
      exact ⟨hsound, result.1.object, hended.1.leads, .inr hended.1.content⟩

/-- **Wherever a compaction is stopped, a whole log is left at the path.** -/
theorem Stopped.whole (hstopped : Stopped medium file volume phase left)
    (h : Ongoing volume path file log phase) : Whole left path log := by
  induction hstopped with
  | before file volume phase => exact h.whole
  | within file volume phase cut => exact h.whole_step cut
  | lost _ hleads hwithin =>
    rw [h.holds.path_eq] at hleads
    have hremoving : Ongoing _ path _ log (.removing .notFound) := h.within hleads hwithin trivial
    exact hremoving.whole
  | later hstep _ ih =>
    have hstepped : Stepped path log (step medium _ _ _) := step_ongoing h
    rw [hstep] at hstepped
    exact ih hstepped

end Compaction
end KeyLog
