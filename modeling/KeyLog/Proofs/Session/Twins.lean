import KeyLog.Proofs.Session.Alike
import KeyLog.Proofs.Store.Twins
import KeyLog.Proofs.Volume.Twins

/-!
# Sessions that are twins

Somebody has one store at a time, under one name and at one path, and looks at no other path.  Two
sessions *match* for him if their volumes match (`Volume.Matching`), the stores under the name are
twins, and his cursors are the same.  Whatever he does in both of them has the same answers, gives
the stores the same index, and leaves the same bytes at the path.

* `Session.Command.Own`: what he does.
* `Session.Matched.step`: one command.
* `Session.Matched.run`: hence a run.
* `Session.Twins`: sessions whose volumes are twins match.
* `Session.Indistinct`: he cannot tell two sessions apart, whatever he does; so it is with twins and
  with sessions that are alike.
-/

namespace KeyLog

/-- The same can be seen of stores that are twins. -/
theorem Store.Twin.storeState {path : String} {pairs : Nat → Nat → Prop} {s t : Store}
    (h : s.Twin path pairs t) : Session.storeState s = Session.storeState t := by
  obtain ⟨file, rfl⟩ := h.eq_file
  obtain ⟨object, position, hfile⟩ := h.file.eq_move
  have hlength : file.length = s.file.length := (congrArg LogFile.length hfile).trans rfl
  simp only [Session.storeState, Store.size, Store.logSize, hlength]

namespace Session

open Compaction (temporaryPath)

/-- The commands of somebody who has one store at a time, under this name and at this path, and who
looks at no other path. -/
structure Command.Own (name path : String) (command : Command) : Prop where
  sole : command.Sole name path
  verify : ∀ text, command = .verify text → text = path

/-- The cursor that a command makes or asks. -/
def Command.cursor? : Command → Option String
  | .store _ (.iterate name) => some name
  | .cursor name _ => some name
  | _ => none

/-- A command that neither makes nor asks a cursor leaves it. -/
theorem cursors_step (session : Session) {command : Command} {cursor : String}
    (h : command.cursor? ≠ some cursor) :
    (session.step command).2.cursors.get? cursor = session.cursors.get? cursor := by
  cases command with
  | limit limit => rfl
  | disk command => rfl
  | openStore name settings =>
    simp only [step, openStore]
    split <;> rfl
  | store name command =>
    simp only [step]
    split
    · rfl
    next store _ =>
      cases command with
      | iterate name =>
        refine Handles.get?_assign_of_ne _ ?_ _
        rintro rfl
        exact h rfl
      | _ => rfl
  | verify path => rfl
  | openFile name path create sync =>
    simp only [step, openFile]
    split <;> rfl
  | file name command =>
    simp only [step]
    split
    · rfl
    · cases command <;> rfl
  | foreign command =>
    cases command with
    | openStore | freeNull => rfl
    | _ =>
      simp only [step, onForeign]
      split <;> rfl
  | cursor name query =>
    simp only [step]
    split
    · rfl
    · refine Handles.get?_assign_of_ne _ ?_ _
      rintro rfl
      exact h rfl
  | commandLine words => rfl

/-- The volumes match and the stores under the name are twins; the size limit is the same and so are
the cursors of some names. -/
structure Matched (R : (Nat → Nat → Prop) → Option (Nat × Nat) → Volume → Volume → Prop)
    (owns : String → Prop) (a b : Session) (name path : String) (pairs : Nat → Nat → Prop) :
    Prop where
  volume : R pairs none a.volume b.volume
  limit : a.limit = b.limit
  cursors : ∀ cursor, owns cursor → a.cursors.get? cursor = b.cursors.get? cursor
  store : Option.Rel (Store.Twin path pairs) (a.stores.get? name) (b.stores.get? name)

variable {a b : Session} {name path : String} {pairs more : Nat → Nat → Prop}
  {R : (Nat → Nat → Prop) → Option (Nat × Nat) → Volume → Volume → Prop} {owns : String → Prop}

theorem Matched.medium (h : Matched R owns a b name path pairs) : a.medium = b.medium := by
  rw [Session.medium, Session.medium, h.limit]

/-- The stores have the same index. -/
theorem Matched.index (h : Matched R owns a b name path pairs) :
    (a.stores.get? name).map Store.index = (b.stores.get? name).map Store.index := by
  have hstore := h.store
  generalize a.stores.get? name = s at hstore
  generalize b.stores.get? name = t at hstore
  cases hstore with
  | none => rfl
  | some htwin =>
    obtain ⟨file, rfl⟩ := htwin.eq_file
    rfl

/-- Sessions in which the name is given to stores that are twins. -/
theorem Matched.assign (h : Matched R owns a b name path pairs) {v w : Volume}
    (hvolume : R more none v w) {s t : Store} (hstore : s.Twin path more t) :
    Matched R owns { a with volume := v, stores := a.stores.assign name s }
      { b with volume := w, stores := b.stores.assign name t } name path more := by
  refine ⟨hvolume, h.limit, h.cursors, ?_⟩
  simp only [Handles.get?_assign_self]
  exact .some hstore

/-- Sessions in which a cursor is given to the same keys. -/
theorem Matched.assignCursor (h : Matched R owns a b name path pairs) (cursor : String)
    (keys : KeyCursor) :
    Matched R owns { a with cursors := a.cursors.assign cursor keys }
      { b with cursors := b.cursors.assign cursor keys } name path pairs := by
  refine ⟨h.volume, h.limit, fun other hother => ?_, h.store⟩
  by_cases hsame : other = cursor
  · simp only [hsame, Handles.get?_assign_self]
  · simp only [Handles.get?_assign_of_ne _ hsame]
    exact h.cursors other hother

/-- Stores stay twins by more pairs. -/
theorem rel_twin_mono (hmore : ∀ x y, pairs x y → more x y) {s t : Option Store}
    (h : Option.Rel (Store.Twin path pairs) s t) : Option.Rel (Store.Twin path more) s t := by
  cases h with
  | none => exact .none
  | some htwin => exact .some ⟨htwin.eq_file, htwin.file.mono hmore⟩

/-- **The store is opened alike in both sessions.** -/
theorem Matched.openStore (hR : Volume.Matching path (temporaryPath path) R)
    (h : Matched R owns a b name path pairs) {settings : Settings} (hpath : settings.path = path) :
    (a.openStore name settings).1 = (b.openStore name settings).1 ∧
      ∃ more, Matched R owns (a.openStore name settings).2 (b.openStore name settings).2 name path
        more := by
  obtain ⟨more, after, after', hmore, hafter, ⟨error, ha, hb⟩ | ⟨s, t, ha, hb, hstore⟩⟩ :=
    Store.openWith_twins hpath hR h.volume
  · simp only [Session.openStore, ha, hb]
    exact ⟨trivial, more, hafter, h.limit, h.cursors, rel_twin_mono hmore h.store⟩
  · have hopening : s.opening = t.opening := by
      obtain ⟨file, rfl⟩ := hstore.eq_file
      rfl
    simp only [Session.openStore, ha, hb, hopening, hstore.storeState]
    exact ⟨trivial, more, h.assign hafter hstore⟩

/-- Stores that are twins are asked alike. -/
theorem Matched.onStore (hR : Volume.Matching path (temporaryPath path) R)
    (h : Matched R owns a b name path pairs) {s t : Store} (hstore : s.Twin path pairs t)
    (command : StoreCommand) :
    (a.onStore name s command).1 = (b.onStore name t command).1 ∧
      ∃ more, Matched R owns (a.onStore name s command).2 (b.onStore name t command).2 name path
        more := by
  obtain ⟨file, heq⟩ := hstore.eq_file
  have hindex : t.index = s.index := by rw [heq]
  have hstate := hstore.storeState
  cases command with
  | get key =>
    obtain ⟨hresult, hmoved⟩ := hstore.get (hR.paired h.volume) key
    refine ⟨?_, pairs, h.assign h.volume hmoved⟩
    simp only [Session.onStore, hresult, hmoved.storeState]
  | set key value =>
    obtain ⟨result, moved, moved', after, after', ha, hb, hmoved, hafter⟩ :=
      hstore.set hR h.volume b.limit key value
    have ha' : s.set b.medium a.volume key value = (result, moved, after) := ha
    have hb' : t.set b.medium b.volume key value = (result, moved', after') := hb
    simp only [Session.onStore, h.medium, ha', hb', hmoved.storeState, true_and]
    exact ⟨pairs, h.assign hafter hmoved⟩
  | contains key =>
    refine ⟨?_, pairs, h⟩
    simp only [Session.onStore, Store.contains, hindex, hstate]
  | keys =>
    refine ⟨?_, pairs, h⟩
    simp only [Session.onStore, Store.keys, hindex, hstate]
  | iterate cursor =>
    refine ⟨by simp only [Session.onStore, hstate], pairs, ?_⟩
    simp only [Session.onStore, Store.keys, hindex]
    exact h.assignCursor cursor _
  | compact =>
    obtain ⟨more, result, moved, moved', after, after', ha, hb, hmoved, hafter⟩ :=
      hstore.compact hR h.volume b.medium
    simp only [Session.onStore, h.medium, ha, hb, hmoved.storeState, true_and]
    exact ⟨more, h.assign hafter hmoved⟩
  | info =>
    refine ⟨?_, pairs, h⟩
    simp only [Session.onStore, hstate]
    rw [heq]
    rfl
  | close =>
    refine ⟨rfl, pairs, h.volume, h.limit, h.cursors, ?_⟩
    simp only [Session.onStore, Handles.get?_release_self]
    exact .none

/-- **A command has the same answer in both sessions and leaves them matched.** -/
theorem Matched.step (hR : Volume.Matching path (temporaryPath path) R)
    (h : Matched R owns a b name path pairs) {command : Command} (hown : command.Own name path)
    (hcursor : ∀ cursor, command.cursor? = some cursor → owns cursor) :
    (a.step command).1 = (b.step command).1 ∧
      ∃ more, Matched R owns (a.step command).2 (b.step command).2 name path more := by
  cases command with
  | limit limit => exact ⟨rfl, pairs, h.volume, rfl, h.cursors, h.store⟩
  | openStore handle settings =>
    obtain ⟨rfl, hpath⟩ := hown.sole
    exact h.openStore hR hpath
  | store handle command =>
    obtain rfl : handle = name := hown.sole
    have hstore := h.store
    cases ha : a.stores.get? handle with
    | none =>
      rw [ha] at hstore
      generalize hb : b.stores.get? handle = t at hstore
      cases hstore
      simp only [Session.step, ha, hb, true_and]
      exact ⟨pairs, h⟩
    | some s =>
      rw [ha] at hstore
      generalize hb : b.stores.get? handle = t at hstore
      cases hstore with
      | some htwin =>
        simp only [Session.step, ha, hb]
        exact h.onStore hR htwin command
  | verify text =>
    obtain rfl := hown.verify text rfl
    refine ⟨?_, pairs, h⟩
    simp only [Session.step, Replay.verify_twins hR h.volume]
  | cursor cursor query =>
    have hsame := h.cursors cursor (hcursor cursor rfl)
    cases hb : b.cursors.get? cursor with
    | none =>
      rw [hb] at hsame
      simp only [Session.step, hsame, hb, true_and]
      exact ⟨pairs, h⟩
    | some keys =>
      rw [hb] at hsame
      simp only [Session.step, hsame, hb, true_and]
      exact ⟨pairs, h.assignCursor cursor _⟩
  | disk | openFile | file | foreign | commandLine => exact hown.sole.elim

/-! ## Runs -/

/-- **A run has the same answers in both sessions and leaves them matched.** -/
theorem Matched.run (hR : Volume.Matching path (temporaryPath path) R)
    (h : Matched R owns a b name path pairs) {commands : List Command}
    (hown : ∀ command ∈ commands, command.Own name path)
    (hcursor : ∀ command ∈ commands, ∀ cursor, command.cursor? = some cursor → owns cursor) :
    a.run commands = b.run commands ∧
      ∃ more, Matched R owns (a.after commands) (b.after commands) name path more := by
  induction commands generalizing a b pairs with
  | nil => exact ⟨rfl, pairs, h⟩
  | cons command commands ih =>
    obtain ⟨hanswer, next, hafter⟩ :=
      h.step hR (hown command List.mem_cons_self) (hcursor command List.mem_cons_self)
    obtain ⟨hanswers, hlast⟩ := ih hafter
      (fun other hother => hown other (List.mem_cons_of_mem _ hother))
      fun other hother => hcursor other (List.mem_cons_of_mem _ hother)
    refine ⟨?_, hlast⟩
    simp only [Session.run, hanswer, hanswers]

/-! ## Twins -/

/-- The volumes are twins and so are the stores under the name; size limit and cursors are the
same. -/
structure Twins (a b : Session) (name path : String) (hidden : Path) (pairs : Nat → Nat → Prop) :
    Prop where
  volume : Volume.Twins path (temporaryPath path) hidden pairs none a.volume b.volume
  limit : a.limit = b.limit
  cursors : a.cursors = b.cursors
  store : Option.Rel (Store.Twin path pairs) (a.stores.get? name) (b.stores.get? name)

variable {hidden : Path}

/-- Sessions that are twins match, with all their cursors. -/
theorem Twins.matched (h : a.Twins b name path hidden pairs) :
    Matched (Volume.Twins path (temporaryPath path) hidden) (fun _ => True) a b name path pairs :=
  ⟨h.volume, h.limit, fun _ _ => by rw [h.cursors], h.store⟩

/-! ## What nobody can tell apart -/

/-- Somebody who has one store at a time, under this name and at this path, cannot tell the sessions
apart.  Whatever he does in both of them has the same answers, and leaves the same bytes at the path
and stores with the same index. -/
def Indistinct (a b : Session) (name path : String) : Prop :=
  ∀ later : List Command, (∀ command ∈ later, command.Own name path) →
    a.run later = b.run later ∧
      (a.after later).volume.bytesAt? path = (b.after later).volume.bytesAt? path ∧
      ((a.after later).stores.get? name).map Store.index =
        ((b.after later).stores.get? name).map Store.index

/-- **Nobody can tell twins apart.** -/
theorem Twins.indistinct (h : a.Twins b name path hidden pairs) : a.Indistinct b name path := by
  intro later hlater
  obtain ⟨hanswers, more, hafter⟩ :=
    h.matched.run Volume.twins_matching hlater fun _ _ _ _ => trivial
  exact ⟨hanswers, Volume.twins_matching.bytesAt? hafter.volume, hafter.index⟩

/-- **Nobody can tell sessions apart that are alike.** -/
theorem Alike.indistinct (h : a.Alike b name) : a.Indistinct b name path := by
  intro later hlater
  obtain ⟨hanswers, hafter⟩ := h.run fun command hcommand => (hlater command hcommand).sole
  exact ⟨hanswers, hafter.volume.bytesAt? path, hafter.index⟩

end Session
end KeyLog
