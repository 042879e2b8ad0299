import KeyLog.Proofs.Session.Sole
import KeyLog.Proofs.Store.Alike

/-!
# Sessions that are alike

Two sessions are *alike* to somebody who has one store at a time if their volumes are alike and so
are the stores under the name.  Whatever that somebody does in both of them has the same answers and
leaves them alike.

* `Session.Alike.step`: one command.
* `Session.Alike.run`: hence a run.
-/

namespace KeyLog

/-- The same can be seen of stores that are alike. -/
theorem Store.Alike.storeState {s t : Store} (h : s.Alike t) :
    Session.storeState s = Session.storeState t := by
  obtain ⟨file, rfl⟩ := h.eq_file
  obtain ⟨position, hfile⟩ : ∃ position, file = { s.file with position } := h.file.eq_move
  have hlength : file.length = s.file.length := by rw [hfile]
  simp only [Session.storeState, Store.size, Store.logSize, hlength]

namespace Session

/-- The volumes are alike and so are the stores under the name; size limit and cursors are the
same. -/
structure Alike (a b : Session) (name : String) : Prop where
  volume : a.volume.Alike b.volume
  limit : a.limit = b.limit
  cursors : a.cursors = b.cursors
  store : Option.Rel Store.Alike (a.stores.get? name) (b.stores.get? name)

variable {a b : Session} {name path : String}

theorem Alike.medium (h : a.Alike b name) : a.medium = b.medium := by
  rw [Session.medium, Session.medium, h.limit]

/-- In both sessions there is no store under the name, or the stores are alike. -/
theorem Alike.store_cases (h : a.Alike b name) :
    a.stores.get? name = none ∧ b.stores.get? name = none ∨
      ∃ s t, a.stores.get? name = some s ∧ b.stores.get? name = some t ∧ s.Alike t := by
  have hstore := h.store
  cases ha : a.stores.get? name with
  | none =>
    rw [ha] at hstore
    cases hb : b.stores.get? name with
    | none => exact .inl ⟨rfl, rfl⟩
    | some t =>
      rw [hb] at hstore
      cases hstore
  | some s =>
    rw [ha] at hstore
    cases hb : b.stores.get? name with
    | none =>
      rw [hb] at hstore
      cases hstore
    | some t =>
      rw [hb] at hstore
      cases hstore with
      | some halike => exact .inr ⟨s, t, rfl, rfl, halike⟩

/-- The stores have the same index. -/
theorem Alike.index (h : a.Alike b name) :
    (a.stores.get? name).map Store.index = (b.stores.get? name).map Store.index := by
  rcases h.store_cases with ⟨ha, hb⟩ | ⟨s, t, ha, hb, hstore⟩
  · rw [ha, hb]
  · obtain ⟨file, rfl⟩ := hstore.eq_file
    rw [ha, hb]
    rfl

/-- Sessions in which the name is given to stores that are alike. -/
theorem Alike.assign (h : a.Alike b name) {v w : Volume} (hvolume : v.Alike w) {s t : Store}
    (hstore : s.Alike t) :
    Alike { a with volume := v, stores := a.stores.assign name s }
      { b with volume := w, stores := b.stores.assign name t } name := by
  refine ⟨hvolume, h.limit, h.cursors, ?_⟩
  simp only [Handles.get?_assign_self]
  exact .some hstore

/-! ## One command -/

/-- A store is opened alike in both sessions. -/
theorem Alike.openStore (h : a.Alike b name) (settings : Settings) :
    (a.openStore name settings).1 = (b.openStore name settings).1 ∧
      (a.openStore name settings).2.Alike (b.openStore name settings).2 name := by
  obtain ⟨result, after, after', ha, hb, hafter⟩ := (Store.openWith_alike h.volume settings).pairs
  simp only [Session.openStore, ha, hb]
  cases result with
  | error error => exact ⟨rfl, hafter, h.limit, h.cursors, h.store⟩
  | ok store => exact ⟨rfl, h.assign hafter (.refl store)⟩

/-- Stores that are alike are asked alike. -/
theorem Alike.onStore (h : a.Alike b name) {s t : Store} (hstore : s.Alike t)
    (command : StoreCommand) :
    (a.onStore name s command).1 = (b.onStore name t command).1 ∧
      (a.onStore name s command).2.Alike (b.onStore name t command).2 name := by
  obtain ⟨file, heq⟩ := hstore.eq_file
  have hindex : t.index = s.index := by rw [heq]
  have hstate := hstore.storeState
  cases command with
  | get key =>
    obtain ⟨hresult, hmoved⟩ := hstore.get h.volume key
    refine ⟨?_, h.assign h.volume hmoved⟩
    simp only [Session.onStore, hresult, hmoved.storeState]
  | set key value =>
    have hset : Volume.AgreeWith Store.Alike (s.set b.medium a.volume key value)
        (t.set b.medium b.volume key value) := hstore.set h.volume b.limit key value
    obtain ⟨result, moved, moved', after, after', ha, hb, hmoved, hafter⟩ := hset.triples
    simp only [Session.onStore, h.medium, ha, hb, hmoved.storeState, true_and]
    exact h.assign hafter hmoved
  | contains key =>
    refine ⟨?_, h⟩
    simp only [Session.onStore, Store.contains, hindex, hstate]
  | keys =>
    refine ⟨?_, h⟩
    simp only [Session.onStore, Store.keys, hindex, hstate]
  | iterate cursor =>
    refine ⟨?_, h.volume, h.limit, ?_, h.store⟩
    · simp only [Session.onStore, hstate]
    · simp only [Session.onStore, Store.keys, hindex, h.cursors]
  | compact =>
    obtain ⟨result, moved, moved', after, after', ha, hb, hmoved, hafter⟩ :=
      (hstore.compact h.volume b.medium).triples
    simp only [Session.onStore, h.medium, ha, hb, hmoved.storeState, true_and]
    exact h.assign hafter hmoved
  | info =>
    refine ⟨?_, h⟩
    simp only [Session.onStore, hstate]
    rw [heq]
    rfl
  | close =>
    refine ⟨rfl, h.volume, h.limit, h.cursors, ?_⟩
    simp only [Session.onStore, Handles.get?_release_self]
    exact .none

/-- **A command has the same answer in both sessions and leaves them alike.** -/
theorem Alike.step (h : a.Alike b name) {command : Command} (hsole : command.Sole name path) :
    (a.step command).1 = (b.step command).1 ∧ (a.step command).2.Alike (b.step command).2 name := by
  cases command with
  | limit limit => exact ⟨rfl, h.volume, rfl, h.cursors, h.store⟩
  | openStore handle settings =>
    obtain rfl : handle = name := hsole.1
    exact h.openStore settings
  | store handle command =>
    obtain rfl : handle = name := hsole
    rcases h.store_cases with ⟨ha, hb⟩ | ⟨s, t, ha, hb, hstore⟩
    · simp only [Session.step, ha, hb, true_and]
      exact h
    · simp only [Session.step, ha, hb]
      exact h.onStore hstore command
  | verify path =>
    refine ⟨?_, h⟩
    simp only [Session.step, Replay.verify_alike h.volume]
  | cursor cursor query =>
    simp only [Session.step, h.cursors]
    split
    · exact ⟨rfl, h⟩
    · exact ⟨rfl, h.volume, h.limit, rfl, h.store⟩
  | disk | openFile | file | foreign | commandLine => exact hsole.elim

/-! ## Runs -/

/-- **A run has the same answers in both sessions and leaves them alike.** -/
theorem Alike.run (h : a.Alike b name) {commands : List Command}
    (hsole : ∀ command ∈ commands, command.Sole name path) :
    a.run commands = b.run commands ∧ (a.after commands).Alike (b.after commands) name := by
  induction commands generalizing a b with
  | nil => exact ⟨rfl, h⟩
  | cons command commands ih =>
    obtain ⟨hanswer, hafter⟩ := h.step (hsole command List.mem_cons_self)
    obtain ⟨hanswers, hlast⟩ :=
      ih hafter fun other hother => hsole other (List.mem_cons_of_mem _ hother)
    refine ⟨?_, hlast⟩
    simp only [Session.run, hanswer, hanswers]

end Session
end KeyLog
