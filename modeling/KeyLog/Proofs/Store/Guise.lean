import KeyLog.Proofs.Store
import KeyLog.Proofs.Store.Alike

/-!
# What a store wears

A store carries the settings it was opened with, what the replay counted when it was opened, and a
sync policy.  They tell how the store came to be and never what it holds: nothing that is done with
the store looks at them.  Together they are its *guise*, and a store in another guise is read, set
and compacted like the store itself.

Stores are *kin* if they are alike once one of them wears the guise of the other.  So a store that
is opened again is kin to the one that was open before, whatever has been done with that one.

* `Store.get_wearing`, `set_wearing`, `compact_wearing`: what is done with a store in another guise.
* `Store.Kin.get`, `set`, `compact`: hence what is done with two stores that are kin.
* `Store.Holds.kin`: stores that hold one log are kin, unless the log is close to the largest size.
-/

namespace KeyLog

variable {medium : Medium} {volume : Volume}

/-! ## Log files -/

namespace LogFile

/-- The handle with another sync policy. -/
def syncing (file : LogFile) (sync : SyncPolicy) : LogFile := { file with sync }

variable (file : LogFile) (sync : SyncPolicy)

theorem wrote_syncing (before after : Volume) :
    (file.syncing sync).wrote before after = (file.wrote before after).syncing sync := by
  show (if after.size file.object = before.size file.object then file.syncing sync
    else { file.syncing sync with position := after.size file.object }) = _
  unfold wrote
  split <;> rfl

theorem rollBack_syncing :
    (file.syncing sync).rollBack medium volume =
      ((file.rollBack medium volume).1.syncing sync, (file.rollBack medium volume).2) := by
  simp only [rollBack, syncing]
  cases volume.resize medium file.object file.length with
  | mk result after => cases result <;> rfl

/-- **The sync policy does not matter to an append.** -/
theorem append_syncing (record : Record) :
    (file.syncing sync).append medium volume record =
      ((file.append medium volume record).1, (file.append medium volume record).2.1.syncing sync,
        (file.append medium volume record).2.2) := by
  have hwrote := file.wrote_syncing sync volume
  have happend : volume.append medium (file.syncing sync).object (file.syncing sync).position
      record.encode = volume.append medium file.object file.position record.encode := rfl
  simp only [append, happend]
  cases volume.append medium file.object file.position record.encode with
  | mk result after =>
    cases result with
    | none =>
      simp only [hwrote]
      rfl
    | some cause => simp only [hwrote, rollBack_syncing]

end LogFile

/-! ## Compactions -/

namespace Compaction

/-- The phase in which a new log that is about to take its place has another sync policy. -/
def Phase.syncing (sync : SyncPolicy) : Phase → Phase
  | .replacing draft index => .replacing (draft.syncing sync) index
  | phase => phase

/-- The outcome in which the new log has another sync policy. -/
def Outcome.syncing (sync : SyncPolicy) (outcome : Outcome) : Outcome :=
  outcome.map fun (file, index) => (file.syncing sync, index)

/-- A step that leads to the same, but for the sync policy. -/
def Progress.syncing (sync : SyncPolicy) : Progress → Progress
  | .to phase => .to (phase.syncing sync)
  | .finished outcome => .finished (outcome.syncing sync)

variable (medium : Medium) (sync : SyncPolicy)

/-- **The sync policy does not matter to a step.** -/
theorem step_syncing (file : LogFile) (volume : Volume) (phase : Phase) :
    step medium (file.syncing sync) volume (phase.syncing sync) =
      ((step medium file volume phase).1.syncing sync,
        (step medium file volume phase).2.1.syncing sync, (step medium file volume phase).2.2) := by
  cases phase with
  | opening todo =>
    simp only [Phase.syncing, step, LogFile.syncing]
    cases volume.openEmpty (temporaryPath file.path) with
    | mk result after => cases result <;> rfl
  | copying draft todo =>
    cases todo with
    | nil =>
      simp only [Phase.syncing, step]
      cases write medium volume draft.object draft.pending with
      | mk result after => cases result <;> rfl
    | cons entry todo =>
      obtain ⟨key, span⟩ := entry
      have hread : (file.syncing sync).readAt volume span =
          ((file.readAt volume span).1, (file.readAt volume span).2.syncing sync) := rfl
      simp only [Phase.syncing, step, hread]
      cases file.readAt volume span with
      | mk result moved =>
        cases result with
        | error error => rfl
        | ok record =>
          simp only
          cases write medium volume (draft.add key record).2.object (draft.add key record).1 with
          | mk result after => cases result <;> rfl
  | reopening index =>
    simp only [Phase.syncing, step, LogFile.openAt, LogFile.syncing]
    cases volume.openFile (temporaryPath file.path) false with
    | mk result after => cases result <;> rfl
  | replacing draft index =>
    simp only [Phase.syncing, step, LogFile.syncing]
    cases volume.rename (temporaryPath file.path) file.path with
    | mk result after => cases result <;> rfl
  | discarding draft error => rfl
  | removing error => rfl

/-- **The sync policy does not matter to a compaction.** -/
theorem run_syncing (file : LogFile) (volume : Volume) (phase : Phase) :
    run medium (file.syncing sync) volume (phase.syncing sync) =
      ((run medium file volume phase).1.syncing sync,
        (run medium file volume phase).2.1.syncing sync, (run medium file volume phase).2.2) := by
  fun_induction run medium file volume phase with
  | case1 file volume phase outcome moved after hstep =>
    rw [run_eq, step_syncing, hstep]
    rfl
  | case2 file volume phase next moved after hstep ih =>
    rw [run_eq, step_syncing, hstep]
    exact ih

end Compaction

/-! ## Stores -/

/-- What a store carries of how it came to be. -/
structure Store.Guise where
  settings : Settings
  sync : SyncPolicy
  opening : ReplayStats

namespace Store

/-- The store in another guise. -/
def wearing (store : Store) (guise : Guise) : Store :=
  ⟨guise.settings, store.file.syncing guise.sync, store.index, guise.opening⟩

variable (store : Store) (guise : Guise)

/-- **A look-up does not depend on the guise.** -/
theorem get_wearing (key : String) :
    (store.wearing guise).get volume key =
      ((store.get volume key).1, (store.get volume key).2.wearing guise) := by
  simp only [Store.get, wearing]
  split
  · rfl
  split
  · rfl
  next span _ =>
    have hread : (store.file.syncing guise.sync).readAt volume span =
        ((store.file.readAt volume span).1,
          (store.file.readAt volume span).2.syncing guise.sync) := rfl
    rw [hread]
    cases store.file.readAt volume span with
    | mk result moved => cases result <;> rfl

/-- **A `set` does not depend on the guise.** -/
theorem set_wearing (key value : String) :
    (store.wearing guise).set medium volume key value =
      ((store.set medium volume key value).1, (store.set medium volume key value).2.1.wearing guise,
        (store.set medium volume key value).2.2) := by
  simp only [Store.set, wearing]
  split
  · rfl
  next record _ =>
    rw [LogFile.append_syncing]
    cases store.file.append medium volume record with
    | mk result rest => cases result <;> rfl

/-- **A compaction does not depend on the guise.** -/
theorem compact_wearing :
    (store.wearing guise).compact medium volume =
      ((store.compact medium volume).1, (store.compact medium volume).2.1.wearing guise,
        (store.compact medium volume).2.2) := by
  have hrun : Compaction.run medium (store.file.syncing guise.sync) volume
      (.opening store.index.entries) = _ :=
    Compaction.run_syncing medium guise.sync store.file volume (.opening store.index.entries)
  simp only [Store.compact, wearing, hrun]
  cases Compaction.run medium store.file volume (.opening store.index.entries) with
  | mk outcome rest =>
    cases outcome with
    | error error => rfl
    | ok new => rfl

/-! ## Stores that are kin -/

/-- The stores are alike but for their guises. -/
def Kin (s t : Store) : Prop := ∃ guise, (s.wearing guise).Alike t

variable {store guise} {a b : Volume} {s t : Store}

/-- The same keys are at the same places. -/
theorem Kin.index (h : s.Kin t) : t.index = s.index := by
  obtain ⟨guise, halike⟩ := h
  obtain ⟨file, rfl⟩ := halike.eq_file
  rfl

/-- The logs are equally long. -/
theorem Kin.logSize (h : s.Kin t) : t.logSize = s.logSize := by
  obtain ⟨guise, halike⟩ := h
  obtain ⟨position, hfile⟩ := halike.file.eq_move
  show t.file.length = s.file.length
  rw [hfile]
  rfl

/-- **Stores that are kin answer a look-up alike.** -/
theorem Kin.get (hstore : s.Kin t) (h : a.Alike b) (key : String) :
    (s.get a key).1 = (t.get b key).1 ∧ (s.get a key).2.Kin (t.get b key).2 := by
  obtain ⟨guise, halike⟩ := hstore
  obtain ⟨hresult, hmoved⟩ := halike.get h key
  rw [get_wearing] at hresult hmoved
  exact ⟨hresult, guise, hmoved⟩

/-- **They take a `set` alike.** -/
theorem Kin.set (hstore : s.Kin t) (h : a.Alike b) (limit : Option Nat) (key value : String) :
    Volume.AgreeWith Kin (s.set (.limited limit) a key value)
      (t.set (.limited limit) b key value) := by
  obtain ⟨guise, halike⟩ := hstore
  obtain ⟨hresult, hmoved, hafter⟩ := halike.set h limit key value
  rw [set_wearing] at hresult hmoved hafter
  exact ⟨hresult, ⟨guise, hmoved⟩, hafter⟩

/-- **They are compacted alike.** -/
theorem Kin.compact (hstore : s.Kin t) (h : a.Alike b) (medium : Medium) :
    Volume.AgreeWith Kin (s.compact medium a) (t.compact medium b) := by
  obtain ⟨guise, halike⟩ := hstore
  obtain ⟨hresult, hmoved, hafter⟩ := halike.compact h medium
  rw [compact_wearing] at hresult hmoved hafter
  exact ⟨hresult, ⟨guise, hmoved⟩, hafter⟩

/-- **Stores that hold one log are kin**, if both of their handles have room where they stand. -/
theorem Holds.kin {path : String} {log : Log} (hs : s.Holds a path log) (ht : t.Holds b path log)
    (h : a.Alike b) (hroom : s.file.HasRoom) (hroom' : t.file.HasRoom) : s.Kin t := by
  have hindex : s.index = t.index := hs.index.trans ht.index.symm
  have hpath : s.file.path = t.file.path := hs.file.path_eq.trans ht.file.path_eq.symm
  have hobject : s.file.object = t.file.object := (h.leads hs.file.leads).unique ht.file.leads
  have hlength : s.file.length = t.file.length := hs.file.length.trans ht.file.length.symm
  refine ⟨⟨t.settings, t.file.sync, t.opening⟩, ⟨t.file, ?_⟩, ⟨t.file.position, ?_⟩, ?_⟩
  · rw [wearing, hindex]
  · rw [wearing, LogFile.syncing, hpath, hobject, hlength]
  · exact .inr ⟨hroom, hroom'⟩

end Store
end KeyLog
