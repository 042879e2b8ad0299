import KeyLog.Proofs.Session.FailedSet
import KeyLog.Proofs.Session.Reclaimed
import KeyLog.Proofs.Store.Guise

/-!
# Reopening and reading leave no trace

Somebody has one store at a time, and between the commands of a run he closes the store and opens it
again, looks up keys, lists them, or verifies the file.  These are *asides*: the rest of the run has
the answers that it would have had without them, and ends with the same bytes.

Two runs are compared that are not equally long: the plain one, and the one with the asides.  What
keeps them together is that both follow the same log (`Session.Abreast`).  The stores need not be
alike, since a look-up moves a handle and a store that was opened again has another guise; but they
hold one log, so they are kin wherever the log has room (`Store.Holds.kin`).

* `Session.Abreast.own`: a command that both runs have in common.
* `Session.Abreast.aside`: an aside, which only one of them has.
* `Session.Abreast.run_woven`: hence whole runs.
* `Session.asides_leave_no_trace`: what a run with asides answers and leaves.
-/

namespace KeyLog
namespace Session

/-! ## Runs with asides -/

/-- The commands of a plain run: those of an open store that neither close it nor ask for how it was
opened, the limit, and cursors. -/
def Command.Plain (name : String) : Command → Prop
  | .limit _ => True
  | .store _ .info => False
  | .store _ .close => False
  | .store handle _ => handle = name
  | .verify _ => True
  | .cursor _ _ => True
  | _ => False

/-- What is done beside a run. -/
inductive Aside where
  /-- Closing the store, or dropping it, and opening it again. -/
  | reopen (settings : Settings)
  | get (key : String)
  | contains (key : String)
  | keys
  | verify

/-- The commands of an aside. -/
def Aside.commands (name path : String) : Aside → List Command
  | .reopen settings => [.store name .close, .openStore name { settings with path }]
  | .get key => [.store name (.get key)]
  | .contains key => [.store name (.contains key)]
  | .keys => [.store name .keys]
  | .verify => [.verify path]

/-- A command of the plain run, or something beside it. -/
inductive Turn where
  | own (command : Command)
  | aside (aside : Aside)

/-- The plain run. -/
def plain : List Turn → List Command
  | [] => []
  | .own command :: turns => command :: plain turns
  | .aside _ :: turns => plain turns

/-- The run with the asides. -/
def woven (name path : String) : List Turn → List Command
  | [] => []
  | .own command :: turns => command :: woven name path turns
  | .aside aside :: turns => aside.commands name path ++ woven name path turns

/-- Of the answers to the run with the asides, those to the commands of the plain run. -/
def heard (name path : String) : List Turn → List Answer → List Answer
  | .own _ :: turns, answer :: answers => answer :: heard name path turns answers
  | .aside aside :: turns, answers =>
    heard name path turns (answers.drop (aside.commands name path).length)
  | _, _ => []

/-- In every state of the run, the log of an open store has room for two records more in the largest
object. -/
def Roomy (session : Session) (name : String) (commands : List Command) : Prop :=
  ∀ earlier, earlier <+: commands → ∀ store,
    (session.after earlier).stores.get? name = some store →
      store.logSize + 2 * Layout.maxRecordSize ≤ Medium.maxObjectSize

variable {a b session : Session} {name path : String} {log : Log} {command : Command}
  {commands : List Command} {turns : List Turn} {s t : Store}

theorem Command.Plain.sole (h : command.Plain name) : command.Sole name path := by
  cases command with
  | store handle command =>
    cases command with
    | info | close => exact h.elim
    | get | set | contains | keys | iterate | compact => exact h
  | limit | verify | cursor => trivial
  | disk | openStore | openFile | file | foreign | commandLine => exact h.elim

theorem Roomy.here (h : session.Roomy name commands) (hstore : session.stores.get? name = some s) :
    s.logSize + 2 * Layout.maxRecordSize ≤ Medium.maxObjectSize :=
  h [] List.nil_prefix s hstore

theorem Roomy.after {earlier later : List Command} (h : session.Roomy name (earlier ++ later)) :
    (session.after earlier).Roomy name later := by
  intro more hmore store hstore
  rw [← session.after_append] at hstore
  exact h (earlier ++ more) ((List.prefix_append_right_inj earlier).2 hmore) store hstore

theorem Roomy.tail (h : session.Roomy name (command :: commands)) :
    (session.step command).2.Roomy name commands :=
  @Roomy.after session name [command] commands h

/-! ## Sessions abreast -/

/-- The volumes are alike, size limit and cursors are the same, and in both sessions a store is open
that stands near the end of the same log. -/
structure Abreast (a b : Session) (name path : String) (log : Log) : Prop where
  volume : a.volume.Alike b.volume
  limit : a.limit = b.limit
  cursors : a.cursors = b.cursors
  left : a.Follows name path log
  right : b.Follows name path log
  near : a.Standing name
  near' : b.Standing name
  opened : (a.stores.get? name).isSome
  opened' : (b.stores.get? name).isSome

/-- The open stores are kin, if the log has room. -/
theorem Abreast.kin (h : Abreast a b name path log) (hroomy : a.Roomy name commands) :
    ∃ s t, a.stores.get? name = some s ∧ b.stores.get? name = some t ∧ s.Kin t := by
  obtain ⟨s, hs⟩ := Option.isSome_iff_exists.1 h.opened
  obtain ⟨t, ht⟩ := Option.isSome_iff_exists.1 h.opened'
  have hleft := h.left.holds s hs
  have hright := h.right.holds t ht
  have hroom := hroomy.here hs
  have hlength : t.file.length = s.file.length := hright.file.length.trans hleft.file.length.symm
  refine ⟨s, t, hs, ht, hleft.kin hright h.volume ((h.near s hs).hasRoom hroom)
    ((h.near' t ht).hasRoom ?_)⟩
  rw [hlength]
  exact hroom

/-! ## A command of both runs -/

/-- The same can be seen of stores that are kin. -/
theorem storeState_kin (h : s.Kin t) : storeState s = storeState t := by
  simp only [storeState, Store.size, h.index, h.logSize]

/-- A command does the same in both sessions, as far as can be told without their logs. -/
structure Together (name : String) (x y : Answer × Session) : Prop where
  answer : x.1 = y.1
  volume : x.2.volume.Alike y.2.volume
  limit : x.2.limit = y.2.limit
  cursors : x.2.cursors = y.2.cursors
  opened : (x.2.stores.get? name).isSome
  opened' : (y.2.stores.get? name).isSome

/-- Nothing but the volume and the open store changes. -/
theorem Abreast.together_assign (h : Abreast a b name path log) {v w : Volume} (hvolume : v.Alike w)
    (s t : Store) {answer answer' : Answer} (hanswer : answer = answer') :
    Together name (answer, { a with volume := v, stores := a.stores.assign name s })
      (answer', { b with volume := w, stores := b.stores.assign name t }) := by
  refine ⟨hanswer, hvolume, h.limit, h.cursors, ?_, ?_⟩
  · exact Option.isSome_of_eq_some (Handles.get?_assign_self ..)
  · exact Option.isSome_of_eq_some (Handles.get?_assign_self ..)

/-- Stores that are kin are asked alike. -/
theorem Abreast.onStore (h : Abreast a b name path log) (hkin : s.Kin t) {command : StoreCommand}
    (hplain : Command.Plain name (.store name command)) :
    Together name (a.onStore name s command) (b.onStore name t command) := by
  have hindex := hkin.index
  have hstate := storeState_kin hkin
  have hmedium : a.medium = b.medium := by rw [medium, medium, h.limit]
  cases command with
  | get key =>
    obtain ⟨hresult, hmoved⟩ := hkin.get h.volume key
    simp only [Session.onStore, hresult, storeState_kin hmoved]
    exact h.together_assign h.volume _ _ rfl
  | set key value =>
    have hset : Volume.AgreeWith Store.Kin (s.set a.medium a.volume key value)
        (t.set a.medium b.volume key value) := hkin.set h.volume a.limit key value
    obtain ⟨result, moved, moved', after, after', ha, hb, hmoved, hafter⟩ := hset.triples
    rw [hmedium] at ha hb
    simp only [Session.onStore, hmedium, ha, hb, storeState_kin hmoved]
    exact h.together_assign hafter _ _ rfl
  | compact =>
    obtain ⟨result, moved, moved', after, after', ha, hb, hmoved, hafter⟩ :=
      (hkin.compact h.volume b.medium).triples
    simp only [Session.onStore, hmedium, ha, hb, storeState_kin hmoved]
    exact h.together_assign hafter _ _ rfl
  | contains key =>
    refine ⟨?_, h.volume, h.limit, h.cursors, h.opened, h.opened'⟩
    simp only [Session.onStore, Store.contains, hindex, hstate]
  | keys =>
    refine ⟨?_, h.volume, h.limit, h.cursors, h.opened, h.opened'⟩
    simp only [Session.onStore, Store.keys, hindex, hstate]
  | iterate cursor =>
    refine ⟨?_, h.volume, h.limit, ?_, h.opened, h.opened'⟩
    · simp only [Session.onStore, hstate]
    · simp only [Session.onStore, Store.keys, hindex, h.cursors]
  | info | close => exact hplain.elim

/-- A command of the plain run does the same in both sessions. -/
theorem Abreast.together (h : Abreast a b name path log) (hroomy : a.Roomy name commands)
    (hplain : command.Plain name) : Together name (a.step command) (b.step command) := by
  cases command with
  | limit limit => exact ⟨rfl, h.volume, rfl, h.cursors, h.opened, h.opened'⟩
  | store handle command =>
    obtain rfl : handle = name := (hplain.sole : Command.Sole name path _)
    obtain ⟨s, t, hs, ht, hkin⟩ := h.kin hroomy
    simp only [step, hs, ht]
    exact h.onStore hkin hplain
  | verify text =>
    refine ⟨?_, h.volume, h.limit, h.cursors, h.opened, h.opened'⟩
    simp only [step, Replay.verify_alike h.volume]
  | cursor cursor query =>
    simp only [step, h.cursors]
    split
    · exact ⟨rfl, h.volume, h.limit, h.cursors, h.opened, h.opened'⟩
    · exact ⟨rfl, h.volume, h.limit, rfl, h.opened, h.opened'⟩
  | disk | openStore | openFile | file | foreign | commandLine => exact hplain.elim

/-- **A command of the plain run** has the same answer in both sessions and leaves them abreast. -/
theorem Abreast.own (h : Abreast a b name path log) (hroomy : a.Roomy name commands)
    (hplain : command.Plain name) :
    (a.step command).1 = (b.step command).1 ∧
      ∃ next, Abreast (a.step command).2 (b.step command).2 name path next := by
  have hsole : command.Sole name path := hplain.sole
  have htogether := h.together hroomy hplain
  obtain ⟨next, hleft⟩ := step_follows h.left hsole
  obtain ⟨other, hright⟩ := step_follows h.right hsole
  -- the bytes at the path are the same, so both sessions have come to one log
  have hsame : other = next := by
    refine Log.bytes_injective ?_
    rw [← hright.follows.bytes, ← htogether.volume.bytesAt?, hleft.follows.bytes]
  rw [hsame] at hright
  exact ⟨htogether.answer, next, htogether.volume, htogether.limit, htogether.cursors,
    hleft.follows, hright.follows, standing_step h.near h.left hsole,
    standing_step h.near' h.right hsole, htogether.opened, htogether.opened'⟩

/-! ## Asides -/

/-- Opening a store again leaves everything but the store, which holds the same log. -/
theorem step_reopen (h : session.Follows name path log) (hopened : (session.stores.get? name).isSome)
    (settings : Settings) :
    ∃ store, session.after (Aside.commands name path (.reopen settings)) =
        { session with stores := (session.stores.release name).assign name store } ∧
      store.Holds session.volume path log ∧ store.file.StandsNear := by
  obtain ⟨old, hold⟩ := Option.isSome_iff_exists.1 hopened
  obtain ⟨store, hopen, hholds⟩ := h.openWith (h.isSome_of_store hopened)
    (rfl : ({ settings with path } : Settings).path = path)
  refine ⟨store, ?_, hholds, Store.standing_openWith hopen⟩
  simp only [Aside.commands, after_cons, after_nil, step, hold, onStore, openStore, hopen]

/-- Another store on the same log, that stands near its end, may take the place of the open one. -/
theorem Abreast.replace (h : Abreast a b name path log) {stores : Handles Store}
    (hstore : stores.get? name = some t) (hholds : t.Holds b.volume path log)
    (hnear : t.file.StandsNear) : Abreast a { b with stores } name path log := by
  have honly : ∀ other, stores.get? name = some other → other = t := by
    intro other hother
    exact Option.some.inj (hother.symm.trans hstore)
  refine ⟨h.volume, h.limit, h.cursors, h.left, ⟨h.right.sound, h.right.bytes, ?_⟩, h.near, ?_,
    h.opened, Option.isSome_of_eq_some hstore⟩
  · intro other hother
    rw [honly other hother]
    exact hholds
  · intro other hother
    rw [honly other hother]
    exact hnear

/-- **An aside leaves the sessions abreast.** -/
theorem Abreast.aside (h : Abreast a b name path log) (aside : Aside) :
    Abreast a (b.after (aside.commands name path)) name path log := by
  cases aside with
  | reopen settings =>
    obtain ⟨store, hafter, hholds, hnear⟩ := step_reopen h.right h.opened' settings
    rw [hafter]
    exact h.replace (Handles.get?_assign_self ..) hholds hnear
  | get key =>
    obtain ⟨t, ht⟩ := Option.isSome_iff_exists.1 h.opened'
    have hafter : b.after (Aside.commands name path (.get key)) =
        { b with stores := b.stores.assign name (t.get b.volume key).2 } := by
      simp only [Aside.commands, after_cons, after_nil, step, ht, Session.onStore]
    rw [hafter]
    exact h.replace (Handles.get?_assign_self ..) ((h.right.holds t ht).get key)
      (Store.standing_get (h.near' t ht) key)
  | contains | keys =>
    obtain ⟨t, ht⟩ := Option.isSome_iff_exists.1 h.opened'
    simp only [Aside.commands, after_cons, after_nil, step, ht, Session.onStore]
    exact h
  | verify => exact h

/-! ## Runs -/

/-- Without the answers to the first commands, those to the others are left. -/
theorem drop_run (session : Session) (earlier later : List Command) :
    (session.run (earlier ++ later)).drop earlier.length = (session.after earlier).run later := by
  induction earlier generalizing session with
  | nil => rfl
  | cons command earlier ih => exact ih (session.step command).2

/-- **A run with asides** answers what the plain run answers, and leaves the sessions abreast. -/
theorem Abreast.run_woven (h : Abreast a b name path log) (hroomy : a.Roomy name (plain turns))
    (hplain : ∀ command ∈ plain turns, command.Plain name) :
    heard name path turns (b.run (woven name path turns)) = a.run (plain turns) ∧
      ∃ last, Abreast (a.after (plain turns)) (b.after (woven name path turns)) name path last := by
  induction turns generalizing a b log with
  | nil => exact ⟨rfl, log, h⟩
  | cons turn turns ih =>
    cases turn with
    | own command =>
      obtain ⟨hanswer, next, hafter⟩ := h.own hroomy (hplain command List.mem_cons_self)
      obtain ⟨hanswers, hlast⟩ := ih hafter hroomy.tail
        fun other hother => hplain other (List.mem_cons_of_mem _ hother)
      refine ⟨?_, hlast⟩
      simp only [woven, plain, Session.run, heard, hanswer, hanswers]
    | aside aside =>
      obtain ⟨hanswers, last, hlast⟩ := ih (h.aside aside) hroomy hplain
      refine ⟨?_, last, ?_⟩
      · show heard name path turns ((b.run (aside.commands name path ++ _)).drop _) = _
        rw [drop_run]
        exact hanswers
      · show Abreast _ (b.after (aside.commands name path ++ _)) _ _ _
        rw [b.after_append]
        exact hlast

/-- A session is abreast of itself. -/
theorem Follows.abreast (h : session.Follows name path log) (hnear : session.Standing name)
    (hopened : (session.stores.get? name).isSome) : Abreast session session name path log :=
  ⟨⟨rfl, rfl, fun _ => rfl⟩, rfl, rfl, h, h, hnear, hnear, hopened, hopened⟩

/-- A plain command lengthens the log by no more than a record. -/
theorem Follows.step_length_le (h : session.Follows name path log) (hplain : command.Plain name) :
    ∃ next, (session.step command).2.Follows name path next ∧
      next.bytes.length ≤ log.bytes.length + Layout.maxRecordSize := by
  obtain ⟨next, htakes⟩ := step_follows h (hplain.sole : Command.Sole name path _)
  refine ⟨next, htakes.follows, ?_⟩
  -- but for a `set` and a compaction nothing happens to the volume
  have hsame : (session.step command).2.volume = session.volume →
      next.bytes.length ≤ log.bytes.length + Layout.maxRecordSize := by
    intro hvolume
    rw [← htakes.follows.bytes, hvolume, h.bytes]
    exact Nat.le_add_right _ _
  have hholds : ∀ {moved : Store} {other : Log},
      moved.Holds (session.step command).2.volume path other → next = other := by
    intro moved other hmoved
    refine Log.bytes_injective ?_
    rw [← htakes.follows.bytes, hmoved.bytesAt?, Option.getD_some]
  cases command with
  | store handle command =>
    obtain rfl : handle = name := (hplain.sole : Command.Sole name path _)
    cases hstore : session.stores.get? handle with
    | none => exact hsame (by simp only [step, hstore])
    | some store =>
      cases command with
      | set key value =>
        rcases h.step_set hstore key value with
          ⟨record, moved, volume, hstep, hmoved, -⟩ |
            ⟨error, position, moved, volume, hstep, -, -, hmoved, -⟩
        · rw [hstep] at hholds
          rw [hholds hmoved, Log.bytes_append, Log.bytes_singleton, List.length_append,
            Record.length_encode]
          exact Nat.add_le_add_left
            (Layout.recordSize_bounds record.key_pos record.key_le record.value_le).2 _
        · rw [hstep] at hholds
          rw [hholds hmoved]
          exact Nat.le_add_right _ _
      | compact =>
        rcases h.step_compact hstore with
          ⟨stats, moved, volume, hstep, hmoved⟩ | ⟨error, moved, volume, hstep, hmoved⟩
        · rw [hstep] at hholds
          rw [hholds hmoved]
          exact Nat.le_add_right_of_le log.length_bytes_compacted_le
        · rw [hstep] at hholds
          rw [hholds hmoved]
          exact Nat.le_add_right _ _
      | get | contains | keys | iterate => exact hsame (by simp only [step, hstore, onStore])
      | info | close => exact hplain.elim
  | limit | verify => exact hsame rfl
  | cursor cursor query =>
    refine hsame ?_
    simp only [step]
    split <;> rfl
  | disk | openStore | openFile | file | foreign | commandLine => exact hplain.elim

/-- **A run is roomy** if the log has room for a record for each of its commands and for two more. -/
theorem Follows.roomy (h : session.Follows name path log)
    (hplain : ∀ command ∈ commands, command.Plain name)
    (hlength : log.bytes.length + (commands.length + 2) * Layout.maxRecordSize ≤
      Medium.maxObjectSize) : session.Roomy name commands := by
  induction commands generalizing session log with
  | nil =>
    intro earlier hearlier store hstore
    rw [List.prefix_nil.1 hearlier] at hstore
    have hsize : store.logSize = log.bytes.length := (h.holds store hstore).file.length
    rw [List.length_nil, Nat.zero_add] at hlength
    rwa [hsize]
  | cons command commands ih =>
    intro earlier hearlier store hstore
    obtain ⟨next, hnext, hle⟩ := h.step_length_le (hplain command List.mem_cons_self)
    have hrest : (List.length (command :: commands) + 2) * Layout.maxRecordSize =
        (commands.length + 2) * Layout.maxRecordSize + Layout.maxRecordSize := by
      rw [List.length_cons, Nat.add_right_comm, Nat.succ_mul]
    cases earlier with
    | nil =>
      have hsize : store.logSize = log.bytes.length := (h.holds store hstore).file.length
      have htwo : 2 * Layout.maxRecordSize ≤ (commands.length + 2) * Layout.maxRecordSize :=
        Nat.mul_le_mul_right _ (Nat.le_add_left 2 _)
      omega
    | cons first earlier =>
      obtain ⟨rfl, hlater⟩ := List.cons_prefix_cons.1 hearlier
      refine ih hnext (fun other hother => hplain other (List.mem_cons_of_mem _ hother)) ?_
        earlier hlater store hstore
      omega

/-- **Asides leave no trace.**  Let somebody have one store at a time on a file that a replay
accepts, and let his store be open.  Whatever run he makes then, if he puts in any number of asides
anywhere, closing the store and opening it again under any settings, looking up keys, listing them
or verifying the file, then every command of the run has the answer that it has without them, with
the number of the keys and the length of the log, and in the end the same bytes are everywhere.

The log of the run must never come within two records of the largest size that an object can have,
where it matters how far a handle stands from the end. -/
theorem asides_leave_no_trace {before : List Command} (hready : session.Ready name path)
    (hsole : ∀ command ∈ before, command.Sole name path)
    (hopened : ((session.after before).stores.get? name).isSome)
    (hplain : ∀ command ∈ plain turns, command.Plain name)
    (hroomy : (session.after before).Roomy name (plain turns)) :
    heard name path turns ((session.after before).run (woven name path turns)) =
        (session.after before).run (plain turns) ∧
      ∀ text, ((session.after before).after (woven name path turns)).volume.bytesAt? text =
        ((session.after before).after (plain turns)).volume.bytesAt? text := by
  obtain ⟨first, hfirst⟩ := hready.follows
  obtain ⟨log, hfollows, -⟩ := run_follows hfirst hsole
  have hclosed : session.Standing name := by
    intro store hstore
    rw [hready.closed] at hstore
    cases hstore
  have habreast := hfollows.abreast (standing_after hclosed hfirst hsole) hopened
  obtain ⟨hanswers, last, hlast⟩ := habreast.run_woven hroomy hplain
  exact ⟨hanswers, fun text => (hlast.volume.bytesAt? text).symm⟩

/-- Lets a `set` be cut off, sets another key and compacts, and in between looks up a key, opens the
store again under other settings, verifies the file and lists the keys. -/
def interrupted : List Turn :=
  [.aside (.get "a"), .own (.limit (some 25)), .own (.store "s" (.set "b" "3")),
    .aside (.reopen { createIfMissing := false, sync := .everyWrites 3 }), .own (.limit none),
    .own (.store "s" (.set "c" "4")), .aside .verify, .aside .keys, .own (.store "s" .compact),
    .aside (.reopen {}), .own (.store "s" (.get "c"))]

/-- The compaction counts 33 bytes with the asides and without them. -/
theorem asides_leave_no_trace_interrupted :
    onTwiceSet.Ready "s" "heap" ∧
      (∀ command ∈ [Command.openStore "s" { path := "heap" }], command.Sole "s" "heap") ∧
      ((onTwiceSet.after [.openStore "s" { path := "heap" }]).stores.get? "s").isSome ∧
      (∀ command ∈ plain interrupted, command.Plain "s") ∧
      (onTwiceSet.after [.openStore "s" { path := "heap" }]).Roomy "s" (plain interrupted) ∧
      (heard "s" "heap" interrupted ((onTwiceSet.after [.openStore "s" { path := "heap" }]).run
        (woven "s" "heap" interrupted))).filterMap Answer.counts? = [⟨2, 33, 22⟩] := by
  have hsole : ∀ command ∈ [Command.openStore "s" { path := "heap" }],
      command.Sole "s" "heap" := by simp [Command.Sole]
  have hopen : ((onTwiceSet.after [.openStore "s" { path := "heap" }]).stores.get? "s").isSome := by
    decide +kernel
  have hplain : ∀ command ∈ plain interrupted, command.Plain "s" := by
    simp [plain, interrupted, Command.Plain]
  obtain ⟨first, hfirst⟩ := ready_onTwiceSet.follows
  obtain ⟨log, hfollows, -⟩ := run_follows hfirst hsole
  have hbytes : (onTwiceSet.after [.openStore "s" { path := "heap" }]).volume.bytesAt? "heap" =
      some twiceSet.bytes := by decide +kernel
  have hlength : log.bytes.length = 22 := by
    rw [← hfollows.bytes, hbytes]
    decide +kernel
  have hroomy : (onTwiceSet.after [.openStore "s" { path := "heap" }]).Roomy "s"
      (plain interrupted) := by
    refine hfollows.roomy hplain ?_
    rw [hlength]
    decide
  refine ⟨ready_onTwiceSet, hsole, hopen, hplain, hroomy, ?_⟩
  rw [(asides_leave_no_trace ready_onTwiceSet hsole hopen hplain hroomy).1]
  decide +kernel

end Session
end KeyLog
