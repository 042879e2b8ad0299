import KeyLog.Proofs.Session.Sole

/-!
# Where a handle stands

A handle stands behind what it last read or wrote.  What it reads lies inside the log, what it
appends becomes the end of the log, and of a write that is cut off no more than one record was
stored before it was taken back.  So a handle never stands further than one record behind the end of
its log.

* `Compaction.standing_run`: the handles that a compaction leaves, the old one and the new one.
* `Session.standing_step`: one command of somebody who has one store at a time.
* `Session.standing_after`: hence any run.
-/

namespace KeyLog

variable {volume : Volume} {path : String}

/-! ## Log files -/

namespace LogFile

variable {file moved : LogFile} {after : Volume}

/-- A handle that was opened and not used yet stands at the beginning. -/
theorem standsNear_openAt {create : Bool} {sync : SyncPolicy}
    (h : openAt volume path create sync = (.ok file, after)) : file.StandsNear := by
  unfold openAt at h
  split at h
  · cases h
  · cases h
    exact Nat.zero_le _

/-- A replay leaves a handle at the end of the log. -/
theorem standsNear_replay {replay : Replay} (h : file.replay volume = (.ok replay, moved)) :
    moved.StandsNear := by
  unfold LogFile.replay at h
  split at h
  · cases h
  · cases h
    exact Nat.le_add_right _ _

/-- Reading leaves a handle inside the log, or where it stood. -/
theorem StandsNear.readAt (h : file.StandsNear) (volume : Volume)
    (span : Span) : (file.readAt volume span).2.StandsNear := by
  simp only [StandsNear, LogFile.readAt, positionAfter] at h ⊢
  split
  · exact h
  next hinside =>
    rw [not_or, Nat.not_lt] at hinside
    have hstop : span.offset + span.length ≤ file.length := hinside.1
    split
    · omega
    · omega

end LogFile

/-! ## Compactions -/

namespace Compaction

variable {medium : Medium}

/-- The new log that a phase is about to put in place stands near its end. -/
def Phase.Standing : Phase → Prop
  | .replacing draft _ => draft.StandsNear
  | _ => True

/-- The handle with which a compaction ends stands near the end of its log. -/
def Standing : Outcome × LogFile × Volume → Prop
  | (.ok (new, _), _, _) => new.StandsNear
  | (.error _, file, _) => file.StandsNear

/-- So do the handles after a step. -/
def StandingStep : Progress × LogFile × Volume → Prop
  | (.to phase, file, _) => file.StandsNear ∧ phase.Standing
  | (.finished outcome, file, volume) => Standing (outcome, file, volume)

theorem standing_step {file : LogFile} (h : file.StandsNear) {phase : Phase}
    (hphase : phase.Standing) : StandingStep (step medium file volume phase) := by
  cases phase with
  | opening todo =>
    simp only [step]
    split <;> exact ⟨h, trivial⟩
  | copying draft todo =>
    cases todo with
    | nil =>
      simp only [step]
      split <;> exact ⟨h, trivial⟩
    | cons entry todo =>
      have hmoved := h.readAt volume entry.2
      simp only [step]
      split
      next hread =>
        rw [hread] at hmoved
        exact ⟨hmoved, trivial⟩
      next hread =>
        rw [hread] at hmoved
        split <;> exact ⟨hmoved, trivial⟩
  | reopening index =>
    simp only [step]
    split
    · exact ⟨h, trivial⟩
    next hopen => exact ⟨h, LogFile.standsNear_openAt hopen⟩
  | replacing draft index =>
    simp only [step]
    split
    · exact ⟨h, trivial⟩
    · exact hphase
  | discarding draft error => exact ⟨h, trivial⟩
  | removing error => exact h

theorem standing_run {file : LogFile} (h : file.StandsNear) {phase : Phase}
    (hphase : phase.Standing) : Standing (run medium file volume phase) := by
  fun_induction run medium file volume phase with
  | case1 file volume phase outcome moved after hstep =>
    have hstepped : StandingStep (step medium file volume phase) := standing_step h hphase
    rw [hstep] at hstepped
    exact hstepped
  | case2 file volume phase next moved after hstep ih =>
    have hstepped : StandingStep (step medium file volume phase) := standing_step h hphase
    rw [hstep] at hstepped
    exact ih hstepped.1 hstepped.2

end Compaction

/-! ## Stores -/

namespace Store

variable {store : Store}

/-- A store that is opened stands at the end of its log. -/
theorem standing_openWith {settings : Settings} {after : Volume}
    (h : openWith volume settings = (.ok store, after)) : store.file.StandsNear := by
  unfold openWith at h
  split at h
  · cases h
  · split at h
    · cases h
    next hreplay =>
      cases h
      exact LogFile.standsNear_replay hreplay

theorem standing_get (h : store.file.StandsNear) (key : String) :
    (store.get volume key).2.file.StandsNear := by
  unfold Store.get
  split
  · exact h
  split
  · exact h
  next span _ =>
    have hmoved := h.readAt volume span
    split
    next hread =>
      rw [hread] at hmoved
      exact hmoved
    next hread =>
      rw [hread] at hmoved
      exact hmoved

theorem standing_compact (h : store.file.StandsNear) (medium : Medium) :
    (store.compact medium volume).2.1.file.StandsNear := by
  have hrun : Compaction.Standing
      (Compaction.run medium store.file volume (.opening store.index.entries)) :=
    Compaction.standing_run h trivial
  unfold Store.compact
  split
  next hresult =>
    rw [hresult] at hrun
    exact hrun
  next hresult =>
    rw [hresult] at hrun
    exact hrun

end Store

/-! ## Sessions -/

namespace Session

/-- An open store stands near the end of its log. -/
def Standing (session : Session) (name : String) : Prop :=
  ∀ store, session.stores.get? name = some store → store.file.StandsNear

variable {session : Session} {name path : String} {log : Log} {command : Command}
  {commands : List Command} {store : Store}

/-- Where the name was given to a store, that is the open store. -/
theorem standing_assign {after : Session} {stores : Handles Store}
    (hstores : after.stores = stores.assign name store) (h : store.file.StandsNear) :
    after.Standing name := by
  intro other hother
  rw [hstores, Handles.get?_assign_self] at hother
  cases hother
  exact h

theorem standing_onStore (h : session.Standing name) (hfollows : session.Follows name path log)
    (hstore : session.stores.get? name = some store) (command : StoreCommand) :
    (session.step (.store name command)).2.Standing name := by
  have hnear := h store hstore
  have hstep : session.step (.store name command) = session.onStore name store command := by
    simp only [step, hstore]
  cases command with
  | get key =>
    rw [hstep]
    exact standing_assign rfl (Store.standing_get hnear key)
  | set key value =>
    rcases hfollows.step_set hstore key value with
      ⟨record, moved, volume, hset, -, -, -, -, hmoved⟩ |
        ⟨error, position, moved, volume, hset, -, -, -, hmoved⟩
    · rw [hset]
      exact standing_assign rfl (hmoved hnear)
    · rw [hset]
      exact standing_assign rfl (hmoved hnear)
  | compact =>
    rw [hstep]
    exact standing_assign rfl (Store.standing_compact hnear session.medium)
  | close =>
    rw [hstep]
    intro other hother
    rw [onStore, Handles.get?_release_self] at hother
    cases hother
  | contains | keys | iterate | info =>
    rw [hstep]
    exact h

/-- **A step leaves an open store near the end of its log.** -/
theorem standing_step (h : session.Standing name) (hfollows : session.Follows name path log)
    (hsole : command.Sole name path) : (session.step command).2.Standing name := by
  cases command with
  | limit limit => exact h
  | openStore handle settings =>
    obtain rfl : handle = name := hsole.1
    simp only [step, openStore]
    split
    · exact h
    next hopen => exact standing_assign rfl (Store.standing_openWith hopen)
  | store handle command =>
    obtain rfl : handle = name := hsole
    cases hstore : session.stores.get? handle with
    | none =>
      simp only [step, hstore]
      exact h
    | some store => exact standing_onStore h hfollows hstore command
  | verify path => exact h
  | cursor cursor query =>
    simp only [step]
    split <;> exact h
  | disk | openFile | file | foreign | commandLine => exact hsole.elim

/-- **A run leaves an open store near the end of its log.** -/
theorem standing_after (h : session.Standing name) (hfollows : session.Follows name path log)
    (hsole : ∀ command ∈ commands, command.Sole name path) :
    (session.after commands).Standing name := by
  induction commands generalizing session log with
  | nil => exact h
  | cons command commands ih =>
    have hfirst := hsole command List.mem_cons_self
    obtain ⟨next, htakes⟩ := step_follows hfollows hfirst
    exact ih (standing_step h hfollows hfirst) htakes.follows
      fun other hother => hsole other (List.mem_cons_of_mem _ hother)

end Session
end KeyLog
