import KeyLog.Proofs.Session.Lasting
import KeyLog.Proofs.Store

/-!
# One store at a path

Somebody has one store at a time, under one name and at one path, and nobody else touches the path.
The store is opened, asked, compacted, closed and opened again in any order, and the size limit
changes whenever it likes.  Through all of this the bytes at the path are those of a log, and an
open store holds that log.

* `Session.Command.Sole`: the commands of such a session.
* `Session.Follows`: the bytes at the path and the open store, if there is one, agree on a log.
* `Session.step_follows`: one step takes the log to another one, and says what has changed.
* `Session.run_follows`: hence so does a run, and what the log says changes with each `set` that
  goes through and with nothing else.
-/

namespace KeyLog

/-- A name that was released belongs to nothing. -/
@[simp] theorem Handles.get?_release_self {α : Type} (handles : Handles α) (name : String) :
    (handles.release name).get? name = none := by
  rw [release, get?, List.lookup_eq_none_iff]
  intro entry hentry
  have hne : entry.1 ≠ name := bne_iff_ne.1 (List.mem_filter.1 hentry).2
  exact bne_iff_ne.2 hne.symm

/-- Releasing a name leaves the things of all others. -/
theorem Handles.get?_release_of_ne {α : Type} (handles : Handles α) {name other : String}
    (h : other ≠ name) : (handles.release name).get? other = handles.get? other :=
  Volume.lookup_filter_ne name other h handles

/-- So does giving it to something. -/
theorem Handles.get?_assign_of_ne {α : Type} (handles : Handles α) {name other : String}
    (h : other ≠ name) (thing : α) : (handles.assign name thing).get? other = handles.get? other := by
  rw [assign, get?, List.lookup_cons, beq_eq_false_iff_ne.2 h]
  exact handles.get?_release_of_ne h

/-- A store that holds a log has its bytes at the path. -/
theorem Store.Holds.bytesAt? {volume : Volume} {path : String} {store : Store} {log : Log}
    (h : store.Holds volume path log) : volume.bytesAt? path = some log.bytes :=
  Volume.bytesAt?_eq_some_iff.2 ⟨_, h.file.leads, h.file.content⟩

/-! ## What is done and what it changes -/

/-- What becomes of some contents by a command that got an answer: a `set` that went through changes
them at its key, and nothing else does. -/
def Contents.next (contents : Contents) : Session.Command × Session.Answer → Contents
  | (.store _ (.set key value), .store (.ok _) _) => Function.update contents key (some value)
  | _ => contents

/-- What becomes of some contents by several commands and their answers. -/
def Contents.after (contents : Contents) (steps : List (Session.Command × Session.Answer)) :
    Contents :=
  steps.foldl Contents.next contents

namespace Session

/-- The commands of somebody who has one store at a time, under this name and at this path.  The
size limit may change, cursors may be asked and files may be verified; nothing else touches a
file. -/
def Command.Sole (name path : String) : Command → Prop
  | .limit _ => True
  | .openStore handle settings => handle = name ∧ settings.path = path
  | .store handle _ => handle = name
  | .verify _ => True
  | .cursor _ _ => True
  | _ => False

/-! ## Sessions that follow a log -/

/-- Nobody has opened the store yet, and its path is absent or holds bytes that a replay accepts. -/
structure Ready (session : Session) (name path : String) : Prop where
  /-- This holds of every session that began on an empty volume (`sound_of_start`). -/
  sound : session.volume.Sound
  closed : session.stores.get? name = none
  accepted : ∀ bytes, session.volume.bytesAt? path = some bytes →
    ∃ replay, Replay.ofBytes bytes = .ok replay

/-- The bytes at the path are those of the log, an absent file counting as empty, and an open store
holds the log. -/
structure Follows (session : Session) (name path : String) (log : Log) : Prop where
  sound : session.volume.Sound
  bytes : (session.volume.bytesAt? path).getD [] = log.bytes
  holds : ∀ store, session.stores.get? name = some store → store.Holds session.volume path log

/-- What a step takes a log to: the session follows the new log, which says what it should, has a
size that objects can have if the old one had, and does not vanish. -/
structure Takes (session : Session) (name path : String) (command : Command) (log next : Log) :
    Prop where
  follows : (session.step command).2.Follows name path next
  contents : next.contents = log.contents.next (command, (session.step command).1)
  fits : log.bytes.length ≤ Medium.maxObjectSize → next.bytes.length ≤ Medium.maxObjectSize
  remains : (session.volume.bytesAt? path).isSome →
    ((session.step command).2.volume.bytesAt? path).isSome

variable {session after : Session} {name path : String} {log next : Log} {store : Store}
  {command : Command} {answer : Answer}

/-- Before the store is opened the session follows the log whose bytes are there. -/
theorem Ready.follows (h : session.Ready name path) :
    ∃ log, session.Follows name path log := by
  obtain ⟨log, hlog⟩ : ∃ log : Log, (session.volume.bytesAt? path).getD [] = log.bytes := by
    cases hbytes : session.volume.bytesAt? path with
    | none => exact ⟨[], rfl⟩
    | some bytes => exact Replay.accepts_iff.1 (h.accepted bytes hbytes)
  refine ⟨log, h.sound, hlog, ?_⟩
  intro store hstore
  rw [h.closed] at hstore
  cases hstore

/-- An open store has a file. -/
theorem Follows.isSome_of_store (h : session.Follows name path log)
    (hstore : (session.stores.get? name).isSome) : (session.volume.bytesAt? path).isSome := by
  obtain ⟨store, hstore⟩ := Option.isSome_iff_exists.1 hstore
  exact Option.isSome_of_eq_some (h.holds store hstore).bytesAt?

/-- **Where there is a file, opening succeeds**: the new store holds the log, and nothing
changes. -/
theorem Follows.openWith (h : session.Follows name path log)
    (hfile : (session.volume.bytesAt? path).isSome) {settings : Settings}
    (hpath : settings.path = path) :
    ∃ store, Store.openWith session.volume settings = (.ok store, session.volume) ∧
      store.Holds session.volume path log := by
  subst hpath
  obtain ⟨bytes, hbytes⟩ := Option.isSome_iff_exists.1 hfile
  obtain ⟨object, hleads, hcontent⟩ := Volume.bytesAt?_eq_some_iff.1 hbytes
  refine Store.openWith_of_leads hleads ?_
  rw [← h.bytes, hbytes, hcontent, Option.getD_some]

/-- A step after which an open store holds some log takes the session to that log. -/
theorem takes_of_holds (h : session.Follows name path log)
    (hstep : session.step command = (answer, after))
    (hstore : after.stores.get? name = some store) (hholds : store.Holds after.volume path next)
    (hcontents : next.contents = log.contents.next (command, answer))
    (hfits : log.bytes.length ≤ Medium.maxObjectSize → next.bytes.length ≤ Medium.maxObjectSize) :
    session.Takes name path command log next := by
  refine ⟨⟨sound_step h.sound command, ?_, ?_⟩, ?_, hfits, ?_⟩
  · rw [hstep, hholds.bytesAt?, Option.getD_some]
  · rw [hstep]
    intro other hother
    rw [hstore] at hother
    cases hother
    exact hholds
  · rw [hstep]
    exact hcontents
  · intro _
    rw [hstep]
    exact Option.isSome_of_eq_some hholds.bytesAt?

/-- A step that leaves the volume, and opens and changes no store, takes the session to the same
log. -/
theorem takes_self (h : session.Follows name path log)
    (hstep : session.step command = (answer, after)) (hvolume : after.volume = session.volume)
    (hstores : ∀ store, after.stores.get? name = some store →
      session.stores.get? name = some store)
    (hcontents : log.contents.next (command, answer) = log.contents) :
    session.Takes name path command log log := by
  refine ⟨⟨sound_step h.sound command, ?_, ?_⟩, ?_, id, ?_⟩
  · rw [hstep, hvolume]
    exact h.bytes
  · rw [hstep, hvolume]
    intro store hstore
    exact h.holds store (hstores store hstore)
  · rw [hstep]
    exact hcontents.symm
  · rw [hstep, hvolume]
    exact id

/-! ## Opening and closing -/

/-- **Opening a store** finds the log that is there, and the log of an absent file is empty. -/
theorem takes_openStore (h : session.Follows name path log) {settings : Settings}
    (hpath : settings.path = path) :
    session.Takes name path (.openStore name settings) log log := by
  cases hbytes : session.volume.bytesAt? path with
  | some bytes =>
    obtain ⟨store, hopen, hholds⟩ := h.openWith (Option.isSome_of_eq_some hbytes) hpath
    have hstep : session.step (.openStore name settings) =
        (.store (.ok (.opened store.opening)) (some (storeState store)),
          { session with stores := session.stores.assign name store }) := by
      simp only [step, openStore, hopen]
    exact takes_of_holds h hstep (Handles.get?_assign_self ..) hholds rfl id
  | none =>
    subst hpath
    have hnone : ∀ object, ¬ session.volume.Leads settings.path object := by
      intro object hleads
      rw [Volume.bytesAt?_eq_some_iff.2 ⟨object, hleads, rfl⟩] at hbytes
      cases hbytes
    have hempty : log = [] := by
      refine Log.bytes_injective ?_
      rw [← h.bytes, hbytes]
      rfl
    rcases Store.openWith_of_not_leads hnone with
      ⟨error, hopen⟩ | ⟨store, volume, hopen, hholds⟩
    · have hstep : session.step (.openStore name settings) =
          (.store (.error error) none, session) := by
        simp only [step, openStore, hopen]
      exact takes_self h hstep rfl (fun _ h => h) rfl
    · have hstep : session.step (.openStore name settings) =
          (.store (.ok (.opened store.opening)) (some (storeState store)),
            { session with volume, stores := session.stores.assign name store }) := by
        simp only [step, openStore, hopen]
      rw [← hempty] at hholds
      exact takes_of_holds h hstep (Handles.get?_assign_self ..) hholds rfl id

/-- Closing a store leaves its log. -/
theorem takes_close (h : session.Follows name path log)
    (hstore : session.stores.get? name = some store) :
    session.Takes name path (.store name .close) log log := by
  have hstep : session.step (.store name .close) =
      (.store (.ok .done) none, { session with stores := session.stores.release name }) := by
    simp only [step, hstore, onStore]
  refine takes_self h hstep rfl ?_ rfl
  intro other hother
  rw [Handles.get?_release_self] at hother
  cases hother

/-! ## Asking an open store -/

/-- A look-up leaves the log. -/
theorem takes_get (h : session.Follows name path log)
    (hstore : session.stores.get? name = some store) (key : String) :
    session.Takes name path (.store name (.get key)) log log := by
  have hholds := (h.holds store hstore).get key
  have hstep : session.step (.store name (.get key)) =
      (.store ((store.get session.volume key).1.map .value)
          (some (storeState (store.get session.volume key).2)),
        { session with
          stores := session.stores.assign name (store.get session.volume key).2 }) := by
    simp only [step, hstore, onStore]
  exact takes_of_holds h hstep (Handles.get?_assign_self ..) hholds rfl id

/-- What comes of a `set`: the open store holds one record more, or it fails and the store holds the
log and is the same but for where its handle stands. -/
theorem Follows.step_set (h : session.Follows name path log)
    (hstore : session.stores.get? name = some store) (key value : String) :
    (∃ record moved volume, session.step (.store name (.set key value)) =
        (.store (.ok .done) (some (storeState moved)),
          { session with volume, stores := session.stores.assign name moved }) ∧
      moved.Holds volume path (log ++ [record]) ∧ record.key = key ∧ record.value = value ∧
        session.medium.cutOff store.file.position log.bytes.length record.size = none ∧
          (store.file.StandsNear → moved.file.StandsNear)) ∨
    ∃ error position moved volume, session.step (.store name (.set key value)) =
        (.store (.error error) (some (storeState moved)),
          { session with volume, stores := session.stores.assign name moved }) ∧
      moved = { store with file := { store.file with position } } ∧
        session.volume.Within volume store.file.object ∧ moved.Holds volume path log ∧
          (store.file.StandsNear → moved.file.StandsNear) := by
  rcases (h.holds store hstore).set (Medium.shrinks_limited session.limit) key value with
    ⟨record, moved, volume, hset, hmoved, hkey, hvalue, hcut, hnear⟩ |
      ⟨error, position, volume, hset, hwithin, hmoved, hnear⟩
  · exact .inl ⟨record, moved, volume, by
      simp only [step, hstore, onStore, medium, hset, Except.map], hmoved, hkey, hvalue, hcut, hnear⟩
  · exact .inr ⟨error, position, _, volume, by
      simp only [step, hstore, onStore, medium, hset, Except.map], rfl, hwithin, hmoved, hnear⟩

/-- **A `set`** adds its record to the log if it goes through, and leaves the log if it fails. -/
theorem takes_set (h : session.Follows name path log)
    (hstore : session.stores.get? name = some store) (key value : String) :
    ∃ next, session.Takes name path (.store name (.set key value)) log next := by
  rcases h.step_set hstore key value with
    ⟨record, moved, volume, hstep, hmoved, hkey, hvalue, hcut, -⟩ |
      ⟨error, position, moved, volume, hstep, -, -, hmoved, -⟩
  · refine ⟨log ++ [record],
      takes_of_holds h hstep (Handles.get?_assign_self ..) hmoved ?_ ?_⟩
    · rw [Log.contents_concat, hkey, hvalue]
      rfl
    · intro _
      have hle := Medium.bounded_limited session.limit _ _ _ hcut record.size_pos
      rwa [Log.bytes_append, Log.bytes_singleton, List.length_append, Record.length_encode]
  · exact ⟨log, takes_of_holds h hstep (Handles.get?_assign_self ..) hmoved rfl id⟩

/-- What comes of a compaction: the open store holds the compacted log, or it fails and the store
holds the log. -/
theorem Follows.step_compact (h : session.Follows name path log)
    (hstore : session.stores.get? name = some store) :
    (∃ stats moved volume, session.step (.store name .compact) =
        (.store (.ok (.compacted stats)) (some (storeState moved)),
          { session with volume, stores := session.stores.assign name moved }) ∧
      moved.Holds volume path log.compacted) ∨
    ∃ error moved volume, session.step (.store name .compact) =
        (.store (.error error) (some (storeState moved)),
          { session with volume, stores := session.stores.assign name moved }) ∧
      moved.Holds volume path log := by
  rcases (h.holds store hstore).compact h.sound session.medium with
    ⟨stats, moved, volume, hcompact, hmoved⟩ | ⟨error, moved, volume, hcompact, hmoved⟩
  · exact .inl ⟨stats, moved, volume, by
      simp only [step, hstore, onStore, hcompact, Except.map], hmoved⟩
  · exact .inr ⟨error, moved, volume, by
      simp only [step, hstore, onStore, hcompact, Except.map], hmoved⟩

/-- **A compaction** compacts the log if it goes through, and leaves the log if it fails. -/
theorem takes_compact (h : session.Follows name path log)
    (hstore : session.stores.get? name = some store) :
    ∃ next, session.Takes name path (.store name .compact) log next := by
  rcases h.step_compact hstore with
    ⟨stats, moved, volume, hstep, hmoved⟩ | ⟨error, moved, volume, hstep, hmoved⟩
  · exact ⟨log.compacted, takes_of_holds h hstep (Handles.get?_assign_self ..) hmoved
      log.contents_compacted (Nat.le_trans log.length_bytes_compacted_le)⟩
  · exact ⟨log, takes_of_holds h hstep (Handles.get?_assign_self ..) hmoved rfl id⟩

/-! ## Steps and runs -/

/-- **A step takes the log of a session to another one.** -/
theorem step_follows (h : session.Follows name path log) (hsole : command.Sole name path) :
    ∃ next, session.Takes name path command log next := by
  cases command with
  | limit limit => exact ⟨log, takes_self h rfl rfl (fun _ h => h) rfl⟩
  | openStore handle settings =>
    obtain ⟨rfl, hpath⟩ := hsole
    exact ⟨log, takes_openStore h hpath⟩
  | store handle command =>
    obtain rfl : handle = name := hsole
    cases hstore : session.stores.get? handle with
    | none =>
      have hstep : session.step (.store handle command) = (.noHandle, session) := by
        simp only [step, hstore]
      have hcontents : log.contents.next (.store handle command, .noHandle) = log.contents := by
        cases command <;> rfl
      exact ⟨log, takes_self h hstep rfl (fun _ h => h) hcontents⟩
    | some store =>
      have hstep : session.step (.store handle command) =
          session.onStore handle store command := by
        simp only [step, hstore]
      cases command with
      | get key => exact ⟨log, takes_get h hstore key⟩
      | set key value => exact takes_set h hstore key value
      | contains key => exact ⟨log, takes_self h hstep rfl (fun _ h => h) rfl⟩
      | keys => exact ⟨log, takes_self h hstep rfl (fun _ h => h) rfl⟩
      | iterate cursor => exact ⟨log, takes_self h hstep rfl (fun _ h => h) rfl⟩
      | compact => exact takes_compact h hstore
      | info => exact ⟨log, takes_self h hstep rfl (fun _ h => h) rfl⟩
      | close => exact ⟨log, takes_close h hstore⟩
  | verify path => exact ⟨log, takes_self h rfl rfl (fun _ h => h) rfl⟩
  | cursor cursor query =>
    cases hcursor : session.cursors.get? cursor with
    | none =>
      have hstep : session.step (.cursor cursor query) = (.noHandle, session) := by
        simp only [step, hcursor]
      exact ⟨log, takes_self h hstep rfl (fun _ h => h) rfl⟩
    | some keys =>
      have hstep : session.step (.cursor cursor query) = (.cursor (keys.ask query).1,
          { session with cursors := session.cursors.assign cursor (keys.ask query).2 }) := by
        simp only [step, hcursor]
      exact ⟨log, takes_self h hstep rfl (fun _ h => h) rfl⟩
  | disk | openFile | file | foreign | commandLine => exact hsole.elim

/-- **A run takes the log of a session to another one**, which says what the answers of the run
promise. -/
theorem run_follows (h : session.Follows name path log) {commands : List Command}
    (hsole : ∀ command ∈ commands, command.Sole name path) :
    ∃ next, (session.after commands).Follows name path next ∧
      next.contents = log.contents.after (commands.zip (session.run commands)) ∧
      (log.bytes.length ≤ Medium.maxObjectSize → next.bytes.length ≤ Medium.maxObjectSize) ∧
      ((session.volume.bytesAt? path).isSome →
        ((session.after commands).volume.bytesAt? path).isSome) := by
  induction commands generalizing session log with
  | nil => exact ⟨log, h, rfl, id, id⟩
  | cons command commands ih =>
    obtain ⟨middle, htakes⟩ := step_follows h (hsole command List.mem_cons_self)
    have hlater : ∀ other ∈ commands, Command.Sole name path other := by
      intro other hother
      exact hsole other (List.mem_cons_of_mem _ hother)
    obtain ⟨last, hlast, hcontents, hfits, hremains⟩ := ih htakes.follows hlater
    refine ⟨last, hlast, ?_, hfits ∘ htakes.fits, hremains ∘ htakes.remains⟩
    rw [hcontents, htakes.contents]
    rfl

end Session
end KeyLog
