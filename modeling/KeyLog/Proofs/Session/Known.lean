import KeyLog.Proofs.Compaction.Copied
import KeyLog.Proofs.Session.Lasting

/-!
# Open stores have known objects

The object of an open store was made before, so no new object will ever be it.  This holds in every
session that begins without open stores, whatever is done in it: no number of an object is given
back (`Volume.lasting_le_fresh`), and a store gets its object where it is opened or compacted.  It
also keeps its path all the time.

* `Session.known_step`: a step keeps this.
* `Session.known_of_start`: hence it holds of every session that begins on an empty volume.
-/

namespace KeyLog

variable {volume after : Volume} {store moved : Store}

/-! ## Log files -/

namespace LogFile

/-- The object of a handle that was opened was made before, and the handle knows its path. -/
theorem known_openAt (h : volume.Sound) {path : String} {create : Bool} {sync : SyncPolicy}
    {file : LogFile} (hopen : openAt volume path create sync = (.ok file, after)) :
    file.object < after.fresh ∧ file.path = path := by
  unfold openAt at hopen
  rcases Volume.openFile_cases volume path create with
    ⟨object, hleads, hfile⟩ | ⟨cause, -, hfile⟩ | ⟨name, -, -, -, hfile⟩
  · rw [hfile] at hopen
    cases hopen
    exact ⟨hleads.lt_fresh h, rfl⟩
  · rw [hfile] at hopen
    cases hopen
  · rw [hfile] at hopen
    cases hopen
    exact ⟨Nat.lt_succ_self _, rfl⟩

/-- An append changes nothing about a handle but what it counts and where it stands. -/
theorem append_handle (medium : Medium) (volume : Volume) (file : LogFile) (record : Record) :
    ∃ length position,
      (file.append medium volume record).2.1 = { file with length, position } := by
  unfold append
  split
  next after _ =>
    obtain ⟨position, hwrote, -⟩ := file.wrote_eq volume after
    exact ⟨_, position, by rw [hwrote]⟩
  next cause after _ =>
    obtain ⟨position, hwrote, -⟩ := file.wrote_eq volume after
    unfold rollBack
    rw [hwrote]
    split
    · exact ⟨_, position, rfl⟩
    · exact ⟨_, position, rfl⟩

end LogFile

/-! ## Stores -/

namespace Store

/-- The store's object was made before, and its handle has the path of its settings. -/
structure Known (volume : Volume) (store : Store) : Prop where
  object : store.file.object < volume.fresh
  path : store.file.path = store.settings.path

/-- A store stays known if it keeps its settings, object and path, and no number is given back. -/
theorem Known.keep (h : store.Known volume) (hfresh : volume.fresh ≤ after.fresh)
    (hsettings : moved.settings = store.settings) (hobject : moved.file.object = store.file.object)
    (hpath : moved.file.path = store.file.path) : moved.Known after := by
  refine ⟨?_, ?_⟩
  · rw [hobject]
    exact Nat.lt_of_lt_of_le h.object hfresh
  · rw [hpath, hsettings, h.path]

theorem known_openWith (h : volume.Sound) {settings : Settings}
    (hopen : openWith volume settings = (.ok store, after)) : store.Known after := by
  unfold openWith at hopen
  split at hopen
  · cases hopen
  next file volume hfile =>
    obtain ⟨hobject, hpath⟩ := LogFile.known_openAt h hfile
    unfold LogFile.replay at hopen
    split at hopen
    next hreplay =>
      split at hreplay
      · cases hopen
      · cases hreplay
    next hreplay =>
      split at hreplay
      · cases hreplay
      · cases hreplay
        cases hopen
        exact ⟨hobject, hpath⟩

theorem Known.get (h : store.Known volume) (key : String) : (store.get volume key).2.Known volume := by
  obtain ⟨position, hafter⟩ := store.get_snd volume key
  rw [hafter]
  exact h.keep (Nat.le_refl _) rfl rfl rfl

theorem Known.set (h : store.Known volume) (medium : Medium) (key value : String) :
    (store.set medium volume key value).2.1.Known (store.set medium volume key value).2.2 := by
  have hfresh := lasting_set (Volume.lasting_le_fresh volume.fresh) (Nat.le_refl _) medium store
    key value
  cases haccept : Admission.accept key value with
  | error error =>
    simp only [Store.set, haccept]
    exact h
  | ok record =>
    obtain ⟨length, position, hfile⟩ := LogFile.append_handle medium volume store.file record
    cases happend : store.file.append medium volume record with
    | mk result rest =>
      obtain ⟨file, after⟩ := rest
      rw [happend] at hfile
      obtain rfl : file = { store.file with length, position } := hfile
      cases result <;>
      · simp only [Store.set, haccept, happend] at hfresh ⊢
        exact h.keep hfresh rfl rfl rfl

theorem Known.compact (h : store.Known volume) (hsound : volume.Sound) (medium : Medium) :
    (store.compact medium volume).2.1.Known (store.compact medium volume).2.2 := by
  have hafter := lasting_compact Volume.lasting_sound hsound medium store
  have hfresh := lasting_compact (Volume.lasting_le_fresh volume.fresh) (Nat.le_refl _) medium store
  rcases compact_cases h.object medium with
    ⟨stats, new, index, after, records, hcompact, hpath, -, -, hleads, -⟩ |
      ⟨error, position, after, hcompact, -, -⟩
  · rw [hcompact] at hafter ⊢
    exact ⟨hleads.lt_fresh hafter, hpath.trans h.path⟩
  · rw [hcompact] at hfresh ⊢
    exact h.keep hfresh rfl rfl rfl

end Store

/-! ## Sessions -/

namespace Session

/-- All open stores are known. -/
def Known (session : Session) : Prop :=
  ∀ entry ∈ session.stores, entry.2.Known session.volume

variable {session after : Session} {name : String}

/-- The store of a name is one of the open stores. -/
theorem Known.of_get? (h : session.Known) (hstore : session.stores.get? name = some store) :
    store.Known session.volume := by
  obtain ⟨before, later, hstores, -⟩ := List.lookup_eq_some_iff.1 hstore
  refine h (name, store) ?_
  rw [hstores]
  exact List.mem_append_right _ List.mem_cons_self

/-- Stores stay known where no number is given back. -/
theorem Known.keep (h : session.Known) (hstores : after.stores = session.stores)
    (hfresh : session.volume.fresh ≤ after.volume.fresh) : after.Known := by
  intro entry hentry
  rw [hstores] at hentry
  exact (h entry hentry).keep hfresh rfl rfl rfl

/-- A name may be given to a store that is known. -/
theorem Known.assign (h : session.Known)
    (hstores : after.stores = session.stores.assign name store)
    (hfresh : session.volume.fresh ≤ after.volume.fresh) (hstore : store.Known after.volume) :
    after.Known := by
  intro entry hentry
  rw [hstores] at hentry
  rcases List.mem_cons.1 hentry with rfl | hmem
  · exact hstore
  · exact (h entry (List.mem_filter.1 hmem).1).keep hfresh rfl rfl rfl

theorem known_onStore (h : session.Known) (hsound : session.volume.Sound)
    (hstore : store.Known session.volume) (command : StoreCommand) :
    (session.onStore name store command).2.Known := by
  have hfresh := lasting_onStore (Volume.lasting_le_fresh session.volume.fresh) (Nat.le_refl _) name
    store command
  cases command with
  | get key => exact h.assign rfl hfresh (hstore.get key)
  | set key value => exact h.assign rfl hfresh (hstore.set session.medium key value)
  | compact => exact h.assign rfl hfresh (hstore.compact hsound session.medium)
  | contains | keys | iterate | info => exact h.keep rfl hfresh
  | close =>
    intro entry hentry
    exact h entry (List.mem_filter.1 hentry).1

/-- **A step keeps all open stores known.** -/
theorem known_step (h : session.Known) (hsound : session.volume.Sound) (command : Command) :
    (session.step command).2.Known := by
  have hfresh := lasting_step (Volume.lasting_le_fresh session.volume.fresh) (Nat.le_refl _) command
  cases command with
  | openStore name settings =>
    simp only [step, openStore] at hfresh ⊢
    split
    next hopen =>
      rw [hopen] at hfresh
      exact h.keep rfl hfresh
    next hopen =>
      rw [hopen] at hfresh
      exact h.assign rfl hfresh (Store.known_openWith hsound hopen)
  | store name command =>
    simp only [step]
    split
    · exact h
    next store hstore => exact known_onStore h hsound (h.of_get? hstore) command
  | openFile name path create sync =>
    refine h.keep ?_ hfresh
    simp only [step, openFile]
    split <;> rfl
  | file name command =>
    refine h.keep ?_ hfresh
    simp only [step]
    split
    · rfl
    · cases command <;> rfl
  | foreign command =>
    refine h.keep ?_ hfresh
    cases command <;> simp only [step, onForeign] <;> split <;> rfl
  | cursor cursor query =>
    simp only [step]
    split <;> exact h
  | limit | disk | verify | commandLine => exact h.keep rfl hfresh

/-- **In every session that begins on an empty volume the open stores are known**, whatever is done
in it. -/
theorem known_of_start (commands : List Command) : (start.after commands).Known := by
  induction commands using List.reverseRecOn with
  | nil =>
    intro entry hentry
    exact absurd hentry List.not_mem_nil
  | append_singleton earlier command ih =>
    rw [after_append]
    exact known_step ih (sound_of_start earlier) command

end Session
end KeyLog
