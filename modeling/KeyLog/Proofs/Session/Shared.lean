import KeyLog.Proofs.LogFile.Append
import KeyLog.Proofs.Session.Sole
import KeyLog.Proofs.Store.Lookup

/-!
# Several handles on one log

Any number of stores and bare log files may be open on one log at once.  Each of them counts for
itself, and nobody tells it what the others append.  So the counts drift apart, and with them the
places in the indexes; but what is written, and where, does not depend on any count.

* `Session.Command.Shared`: what may be done by those who share a log.
* `Session.Gathered`: whatever is open has the object that the path leads to.
* `Session.step_does`: what one command can do to the log and to the handles on it (`Session.Does`).

Who compacts a log takes the name from the object that the others hold, so compactions are not among
the commands.
-/

namespace KeyLog

/-- The texts of a record make the record. -/
theorem Record.ofTexts?_self (record : Record) :
    ofTexts? record.key record.value = some record :=
  dif_pos ⟨record.key_pos, record.key_le, record.value_le⟩

/-- A key or a value is never refused by the file system. -/
theorem Admission.ne_io_of_accept {key value : String} {error : StoreError}
    (h : accept key value = .error error) (cause : SystemError) : error ≠ .io cause := by
  have hnul : ∀ part text, rejectNul part text ≠ .error (.io cause) := by
    intro part text hnul
    unfold rejectNul at hnul
    split at hnul <;> cases hnul
  rintro rfl
  unfold accept at h
  split at h
  next hkey =>
    cases h
    unfold checkKey at hkey
    split at hkey
    · exact hnul _ _ hkey
    · cases hkey
  next =>
    split at h
    next hvalue =>
      cases h
      unfold checkValue at hvalue
      split at hvalue
      · exact hnul _ _ hvalue
      · cases hvalue
    next => cases h

/-- **What comes of opening a log file**: an error, or a handle that counts what is there.  The volume
changes only if the file was created, and then it is empty. -/
theorem LogFile.openAt_cases (volume : Volume) (path : String) (create : Bool) (sync : SyncPolicy) :
    (∃ error, openAt volume path create sync = (.error error, volume)) ∨
    ∃ file after, openAt volume path create sync = (.ok file, after) ∧
      after.Leads path file.object ∧ file.length = after.size file.object ∧
        (after = volume ∨
          (∀ object, ¬ volume.Leads path object) ∧ after.content file.object = []) := by
  rcases Volume.openFile_cases volume path create with
    ⟨object, hleads, hopen⟩ | ⟨cause, -, hopen⟩ | ⟨name, -, hname, hlook, hopen⟩
  · exact .inr ⟨⟨path, object, volume.size object, 0, sync⟩, volume,
      by simp only [openAt, hopen], hleads, rfl, .inl rfl⟩
  · exact .inl ⟨.io cause, by simp only [openAt, hopen]⟩
  · obtain ⟨hleads, hempty, -⟩ := Volume.leads_create hname hlook
    refine .inr ⟨⟨path, volume.fresh, (volume.create name).2.size volume.fresh, 0, sync⟩, _,
      by simp only [openAt, hopen], hleads, rfl, .inr ⟨?_, hempty⟩⟩
    rintro object ⟨other, hother, hotherLook⟩
    cases hname.symm.trans hother
    cases hlook.symm.trans hotherLook

namespace Session

/-! ## Who writes -/

/-- Whoever has a handle on a log: a store, or a bare log file. -/
inductive Writer where
  | store (name : String)
  | file (name : String)
  deriving DecidableEq

/-- The handle of a writer. -/
def handle? (session : Session) : Writer → Option LogFile
  | .store name => (session.stores.get? name).map Store.file
  | .file name => session.files.get? name

/-- Who writes by a command. -/
def Command.writer? : Command → Option Writer
  | .store name (.set _ _) => some (.store name)
  | .file name (.append _) => some (.file name)
  | _ => none

/-- Who counts the log anew by a command. -/
def Command.counter? : Command → Option Writer
  | .openStore name _ => some (.store name)
  | .openFile name _ _ _ => some (.file name)
  | .file name .replay => some (.file name)
  | _ => none

/-- The commands of those who share the log at a path.  Each may open stores and log files there,
under any name and at any time, ask them and write to them, and close them again.  The size limit
may change, cursors may be asked and files may be verified. -/
def Command.Shared (path : String) : Command → Prop
  | .limit _ => True
  | .openStore _ settings => settings.path = path
  | .store _ .compact => False
  | .store _ _ => True
  | .openFile _ target _ _ => target = path
  | .file _ _ => True
  | .verify _ => True
  | .cursor _ _ => True
  | _ => False

/-! ## What was acknowledged -/

/-- The record that was acknowledged by an answer to a command. -/
def recorded? : Command × Answer → Option Record
  | (.store _ (.set key value), .store (.ok _) _) => Record.ofTexts? key value
  | (.file _ (.append record), .file (.ok _) _) => some record
  | _ => none

/-- The records that were acknowledged, in the order of the calls. -/
def written (steps : List (Command × Answer)) : Log := steps.filterMap recorded?

/-- The command was to write a record, and the write was cut off. -/
def writeFails : Command × Answer → Bool
  | (.store _ (.set _ _), .store (.error (.io _)) _) => true
  | (.file _ (.append _), .file (.error _) _) => true
  | _ => false

/-! ## What a command can do -/

/-- Whatever is open has the object that the path leads to. -/
structure Gathered (session : Session) (path : String) : Prop where
  sound : session.volume.Sound
  leads : ∀ writer file, session.handle? writer = some file →
    session.volume.Leads path file.object

/-- What a command of those who share a log can do. -/
inductive Does (session : Session) (path : String) (command : Command) (answer : Answer)
    (after : Session) : Prop
  /-- Nothing is written.  A handle may be given up, and it may stand elsewhere. -/
  | rests (volume : after.volume = session.volume)
      (handles : ∀ writer file, after.handle? writer = some file →
        ∃ position, session.handle? writer = some { file with position })
      (recorded : recorded? (command, answer) = none)
      (succeeds : writeFails (command, answer) = false)
  /-- A handle counts what is there, because it was opened or replayed. -/
  | counts (writer : Writer) (file : LogFile) (counter : command.counter? = some writer)
      (handles : after.handle? = Function.update session.handle? writer (some file))
      (leads : after.volume.Leads path file.object)
      (length : file.length = after.volume.size file.object)
      (volume : after.volume = session.volume ∨
        (∀ object, ¬ session.volume.Leads path object) ∧
          after.volume.content file.object = [])
      (recorded : recorded? (command, answer) = none)
      (succeeds : writeFails (command, answer) = false)
  /-- A record is added at the end of the object. -/
  | appends (writer : Writer) (file : LogFile) (record : Record) (position : Nat)
      (writes : command.writer? = some writer) (held : session.handle? writer = some file)
      (handles : after.handle? = Function.update session.handle? writer
        (some { file with length := file.length + record.size, position }))
      (within : session.volume.Within after.volume file.object)
      (content : after.volume.content file.object =
        session.volume.content file.object ++ record.encode)
      (fits : session.volume.size file.object + record.size ≤ Medium.maxObjectSize)
      (recorded : recorded? (command, answer) = some record)
      (succeeds : writeFails (command, answer) = false)
  /-- A write is cut off, and the object is cut to the bytes that the handle counts. -/
  | cutsOff (writer : Writer) (file moved : LogFile)
      (writes : command.writer? = some writer) (held : session.handle? writer = some file)
      (handles : after.handle? = Function.update session.handle? writer (some moved))
      (within : session.volume.Within after.volume file.object)
      (object : moved.object = file.object)
      (cut : file.length ≤ session.volume.size file.object → moved.length = file.length ∧
        after.volume.content file.object =
          (session.volume.content file.object).take file.length)
      (fill : session.volume.size file.object < file.length →
        moved.length = after.volume.size file.object ∧
          ∃ rest, after.volume.content file.object =
            session.volume.content file.object ++ rest)
      (recorded : recorded? (command, answer) = none)
      (fails : writeFails (command, answer) = true)

variable {session after : Session} {path : String} {command : Command} {answer : Answer}
  {writer : Writer} {file moved : LogFile}

theorem handle?_of_assign_store {name : String} {store : Store}
    (hstores : after.stores = session.stores.assign name store)
    (hfiles : after.files = session.files) :
    after.handle? = Function.update session.handle? (.store name) (some store.file) := by
  funext writer
  cases writer with
  | store other =>
    by_cases hsame : other = name
    · rw [hsame, Function.update_self, handle?, hstores, Handles.get?_assign_self]
      rfl
    · rw [Function.update_of_ne (by simpa using hsame), handle?, hstores,
        Handles.get?_assign_of_ne _ hsame]
      rfl
  | file other =>
    rw [Function.update_of_ne (by simp), handle?, hfiles]
    rfl

theorem handle?_of_assign_file {name : String} {file : LogFile}
    (hfiles : after.files = session.files.assign name file)
    (hstores : after.stores = session.stores) :
    after.handle? = Function.update session.handle? (.file name) (some file) := by
  funext writer
  cases writer with
  | store other =>
    rw [Function.update_of_ne (by simp), handle?, hstores]
    rfl
  | file other =>
    by_cases hsame : other = name
    · rw [hsame, Function.update_self, handle?, hfiles, Handles.get?_assign_self]
    · rw [Function.update_of_ne (by simpa using hsame), handle?, hfiles,
        Handles.get?_assign_of_ne _ hsame]
      rfl

/-- A handle that only moves was there before. -/
theorem exists_position_of_update (position : Nat) (hheld : session.handle? writer = some file)
    (hhandles : after.handle? =
      Function.update session.handle? writer (some { file with position })) :
    ∀ other kept, after.handle? other = some kept →
      ∃ position, session.handle? other = some { kept with position } := by
  intro other kept hkept
  rw [hhandles] at hkept
  by_cases hsame : other = writer
  · rw [hsame, Function.update_self, Option.some.injEq] at hkept
    refine ⟨file.position, ?_⟩
    rw [hsame, hheld, ← hkept]
  · rw [Function.update_of_ne hsame] at hkept
    exact ⟨kept.position, hkept⟩

/-- A command that leaves the volume and all handles rests. -/
theorem Does.of_same (hvolume : after.volume = session.volume)
    (hhandles : ∀ writer file, after.handle? writer = some file →
      session.handle? writer = some file)
    (hwriter : command.writer? = none) : session.Does path command answer after := by
  refine .rests hvolume (fun writer file hfile => ⟨file.position, hhandles writer file hfile⟩) ?_ ?_
  all_goals
    cases command with
    | store name command =>
      cases command with
      | set key value => cases hwriter
      | _ => rfl
    | file name command =>
      cases command with
      | append record => cases hwriter
      | _ => rfl
    | _ => rfl

/-- **A write through a handle** adds its record, or is cut off. -/
theorem Does.of_append {record : Record} {result : Except StoreError Span}
    (happend : file.append session.medium session.volume record = (result, moved, after.volume))
    (hheld : session.handle? writer = some file)
    (hhandles : after.handle? = Function.update session.handle? writer (some moved))
    (hwrites : command.writer? = some writer)
    (hok : ∀ span, result = .ok span →
      recorded? (command, answer) = some record ∧ writeFails (command, answer) = false)
    (herror : ∀ cause, result = .error (.io cause) →
      recorded? (command, answer) = none ∧ writeFails (command, answer) = true) :
    session.Does path command answer after := by
  cases hcut : session.medium.cutOff file.position (session.volume.size file.object)
      record.size with
  | none =>
    obtain ⟨position, volume, heq, hwithin, hcontent⟩ := LogFile.append_of_none hcut
    obtain ⟨rfl, rfl, rfl⟩ : _ = result ∧ _ = moved ∧ volume = after.volume := by
      simpa only [Prod.mk.injEq] using heq.symm.trans happend
    obtain ⟨hrecorded, hsucceeds⟩ := hok _ rfl
    exact .appends writer file record position hwrites hheld hhandles hwithin hcontent
      (Medium.bounded_limited session.limit _ _ _ hcut record.size_pos) hrecorded hsucceeds
  | some cut =>
    obtain ⟨left, volume, heq, hwithin, hobject, hcuts, hfills⟩ :=
      LogFile.append_of_some (Medium.shrinks_limited session.limit) hcut
    obtain ⟨rfl, rfl, rfl⟩ : _ = result ∧ left = moved ∧ volume = after.volume := by
      simpa only [Prod.mk.injEq] using heq.symm.trans happend
    obtain ⟨hrecorded, hfails⟩ := herror _ rfl
    exact .cutsOff writer file left hwrites hheld hhandles hwithin hobject hcuts hfills hrecorded
      hfails

theorem handle?_store {name : String} {store : Store}
    (hstore : session.stores.get? name = some store) :
    session.handle? (.store name) = some store.file := by
  rw [handle?, hstore]
  rfl

/-- A store that is opened counts what is there. -/
theorem does_openStore {settings : Settings} (hpath : settings.path = path) (name : String) :
    session.Does path (.openStore name settings) (session.step (.openStore name settings)).1
      (session.step (.openStore name settings)).2 := by
  subst hpath
  rcases Store.openWith_cases session.volume settings with
    ⟨error, hopen⟩ | ⟨store, log, hopen, hholds⟩ | ⟨hnone, store, volume, hopen, hholds⟩
  · have hstep : session.step (.openStore name settings) =
        (.store (.error error) none, session) := by
      simp only [step, openStore, hopen]
    rw [hstep]
    exact .of_same rfl (fun _ _ h => h) rfl
  · have hstep : session.step (.openStore name settings) =
        (.store (.ok (.opened store.opening)) (some (storeState store)),
          { session with stores := session.stores.assign name store }) := by
      simp only [step, openStore, hopen]
    rw [hstep]
    exact .counts (.store name) store.file rfl (handle?_of_assign_store rfl rfl)
      hholds.file.leads (hholds.file.length.trans hholds.file.size_eq.symm) (.inl rfl) rfl rfl
  · have hstep : session.step (.openStore name settings) =
        (.store (.ok (.opened store.opening)) (some (storeState store)),
          { session with volume, stores := session.stores.assign name store }) := by
      simp only [step, openStore, hopen]
    rw [hstep]
    exact .counts (.store name) store.file rfl (handle?_of_assign_store rfl rfl)
      hholds.file.leads (hholds.file.length.trans hholds.file.size_eq.symm)
      (.inr ⟨hnone, hholds.file.content⟩) rfl rfl

/-- So does a log file. -/
theorem does_openFile (name : String) (create : Bool) (sync : SyncPolicy) :
    session.Does path (.openFile name path create sync)
      (session.step (.openFile name path create sync)).1
      (session.step (.openFile name path create sync)).2 := by
  rcases LogFile.openAt_cases session.volume path create sync with
    ⟨error, hopen⟩ | ⟨file, volume, hopen, hleads, hlength, hvolume⟩
  · have hstep : session.step (.openFile name path create sync) =
        (.file (.error error) none, session) := by
      simp only [step, openFile, hopen]
    rw [hstep]
    exact .of_same rfl (fun _ _ h => h) rfl
  · have hstep : session.step (.openFile name path create sync) =
        (.file (.ok (.opened file.path file.sync)) (some (fileState file)),
          { session with volume, files := session.files.assign name file }) := by
      simp only [step, openFile, hopen]
    rw [hstep]
    exact .counts (.file name) file rfl (handle?_of_assign_file rfl rfl) hleads hlength hvolume
      rfl rfl

/-- A `set` of a store writes through its handle, if the key and the value are accepted. -/
theorem does_set {name : String} {store : Store}
    (hstore : session.stores.get? name = some store) (key value : String) :
    session.Does path (.store name (.set key value))
      (session.step (.store name (.set key value))).1
      (session.step (.store name (.set key value))).2 := by
  have hheld := handle?_store hstore
  cases haccept : Admission.accept key value with
  | error error =>
    have hstep : session.step (.store name (.set key value)) =
        (.store (.error error) (some (storeState store)),
          { session with stores := session.stores.assign name store }) := by
      simp only [step, hstore, onStore, Store.set, haccept, Except.map]
    rw [hstep]
    refine .rests rfl (exists_position_of_update store.file.position hheld
      (handle?_of_assign_store rfl rfl)) rfl ?_
    cases error with
    | io cause => exact absurd rfl (Admission.ne_io_of_accept haccept cause)
    | _ => rfl
  | ok record =>
    obtain ⟨rfl, rfl⟩ := Admission.texts_of_accept haccept
    cases happend : store.file.append session.medium session.volume record with
    | mk result rest =>
      obtain ⟨moved, volume⟩ := rest
      cases result with
      | ok span =>
        obtain ⟨next, rfl, hstep⟩ : ∃ next : Store, next.file = moved ∧
            session.step (.store name (.set record.key record.value)) =
              (.store (.ok .done) (some (storeState next)),
                { session with volume, stores := session.stores.assign name next }) :=
          ⟨{ store with file := moved, index := store.index.insert record.key span }, rfl, by
            simp only [step, hstore, onStore, Store.set, haccept, happend, Except.map]⟩
        rw [hstep]
        refine .of_append happend hheld (handle?_of_assign_store rfl rfl) rfl
          (fun _ _ => ⟨record.ofTexts?_self, rfl⟩) ?_
        rintro _ ⟨⟩
      | error error =>
        obtain ⟨next, rfl, hstep⟩ : ∃ next : Store, next.file = moved ∧
            session.step (.store name (.set record.key record.value)) =
              (.store (.error error) (some (storeState next)),
                { session with volume, stores := session.stores.assign name next }) :=
          ⟨{ store with file := moved }, rfl, by
            simp only [step, hstore, onStore, Store.set, haccept, happend, Except.map]⟩
        rw [hstep]
        refine .of_append happend hheld (handle?_of_assign_store rfl rfl) rfl ?_ ?_
        · rintro _ ⟨⟩
        · rintro cause ⟨⟩
          exact ⟨rfl, rfl⟩

/-- What can be asked of a store, compactions aside. -/
theorem does_onStore {name : String} {store : Store}
    (hstore : session.stores.get? name = some store) {command : StoreCommand}
    (hshared : Command.Shared path (.store name command)) :
    session.Does path (.store name command) (session.step (.store name command)).1
      (session.step (.store name command)).2 := by
  have hheld := handle?_store hstore
  have hstep : session.step (.store name command) = session.onStore name store command := by
    simp only [step, hstore]
  cases command with
  | get key =>
    obtain ⟨position, hafter⟩ := store.get_snd session.volume key
    have hhandles : (session.onStore name store (.get key)).2.handle? =
        Function.update session.handle? (.store name) (some { store.file with position }) := by
      have hfile : (store.get session.volume key).2.file = { store.file with position } := by
        rw [hafter]
      rw [← hfile]
      exact handle?_of_assign_store rfl rfl
    rw [hstep]
    exact .rests rfl (exists_position_of_update position hheld hhandles) rfl rfl
  | set key value => exact does_set hstore key value
  | compact => exact hshared.elim
  | close =>
    rw [hstep]
    refine .of_same rfl ?_ rfl
    rintro (other | other) file hfile
    · by_cases hsame : other = name
      · simp only [handle?, onStore, hsame, Handles.get?_release_self, Option.map_none,
          reduceCtorEq] at hfile
      · simpa only [handle?, onStore, Handles.get?_release_of_ne _ hsame] using hfile
    · exact hfile
  | contains | keys | iterate | info =>
    rw [hstep]
    exact .of_same rfl (fun _ _ h => h) rfl

/-- What can be asked of a log file. -/
theorem does_onFile (h : session.Gathered path) {name : String}
    (hfile : session.files.get? name = some file) (command : FileCommand) :
    session.Does path (.file name command) (session.step (.file name command)).1
      (session.step (.file name command)).2 := by
  have hheld : session.handle? (.file name) = some file := hfile
  have hstep : session.step (.file name command) = session.onFile name file command := by
    simp only [step, hfile]
  cases command with
  | replay =>
    cases hreplay : Replay.ofBytes (session.volume.content file.object) with
    | ok replay =>
      obtain ⟨log, hlog⟩ := Replay.accepts_iff.1 ⟨replay, hreplay⟩
      obtain ⟨superseded, -, hcounted⟩ := file.replay_of_content hlog
      have hsize : log.bytes.length = session.volume.size file.object := by
        rw [Volume.size_eq, hlog]
      rw [hstep]
      simp only [onFile, hcounted]
      exact .counts (.file name)
        { file with length := log.bytes.length, position := log.bytes.length } rfl
        (handle?_of_assign_file rfl rfl) (h.leads _ file hheld) hsize (.inl rfl) rfl rfl
    | error error =>
      rw [hstep]
      simp only [onFile, LogFile.replay, Replay.ofSource_held, hreplay]
      exact .rests rfl (exists_position_of_update 0 hheld (handle?_of_assign_file rfl rfl)) rfl rfl
  | append record =>
    cases happend : file.append session.medium session.volume record with
    | mk result rest =>
      obtain ⟨moved, volume⟩ := rest
      rw [hstep]
      simp only [onFile, happend]
      refine .of_append happend hheld (handle?_of_assign_file rfl rfl) rfl ?_ ?_
      · rintro span rfl
        exact ⟨rfl, rfl⟩
      · rintro cause rfl
        exact ⟨rfl, rfl⟩
  | readAt span =>
    rw [hstep]
    exact .rests rfl (exists_position_of_update (file.positionAfter session.volume span) hheld
      (handle?_of_assign_file rfl rfl)) rfl rfl
  | close =>
    rw [hstep]
    refine .of_same rfl ?_ rfl
    rintro (other | other) held hother
    · exact hother
    · by_cases hsame : other = name
      · simp only [handle?, onFile, hsame, Handles.get?_release_self, reduceCtorEq] at hother
      · simpa only [handle?, onFile, Handles.get?_release_of_ne _ hsame] using hother
  | sync =>
    rw [hstep]
    exact .of_same rfl (fun _ _ h => h) rfl

/-- A command of somebody who shares a log rests if nothing has the name that it asks for. -/
theorem does_of_noHandle (hstep : session.step command = (.noHandle, session)) :
    session.Does path command (session.step command).1 (session.step command).2 := by
  rw [hstep]
  refine .rests rfl (fun _ file hfile => ⟨file.position, hfile⟩) ?_ ?_
  all_goals
    cases command with
    | store name command => cases command <;> rfl
    | file name command => cases command <;> rfl
    | _ => rfl

/-- **What one command can do** of those who share a log. -/
theorem step_does (h : session.Gathered path) (hshared : command.Shared path) :
    session.Does path command (session.step command).1 (session.step command).2 := by
  cases command with
  | limit limit => exact .of_same rfl (fun _ _ h => h) rfl
  | verify path => exact .of_same rfl (fun _ _ h => h) rfl
  | openStore name settings => exact does_openStore hshared name
  | store name command =>
    cases hstore : session.stores.get? name with
    | none => exact does_of_noHandle (by simp only [step, hstore])
    | some store => exact does_onStore hstore hshared
  | openFile name target create sync =>
    obtain rfl : target = path := hshared
    exact does_openFile name create sync
  | file name command =>
    cases hfile : session.files.get? name with
    | none => exact does_of_noHandle (by simp only [step, hfile])
    | some file => exact does_onFile h hfile command
  | cursor name query =>
    cases hcursor : session.cursors.get? name with
    | none => exact does_of_noHandle (by simp only [step, hcursor])
    | some cursor =>
      have hstep : session.step (.cursor name query) = (.cursor (cursor.ask query).1,
          { session with cursors := session.cursors.assign name (cursor.ask query).2 }) := by
        simp only [step, hcursor]
      rw [hstep]
      exact .of_same rfl (fun _ _ h => h) rfl
  | disk | foreign | commandLine => exact hshared.elim

end Session
end KeyLog
