import KeyLog.Proofs.Log.Altered
import KeyLog.Proofs.Session.Asides
import KeyLog.Proofs.Store.Miss

/-!
# Command lines and one long session

A command line opens the log, does one thing with it and is gone.  Nothing is handed on from one
command line to the next but the volume.  Still, a sequence of command lines does what one session
does that opens the store once and keeps it: every report is that of the session's answer, and the
bytes are the same after each.

A command line opens a store of its own, which holds the log that the long-lived store holds.  So the
two stores are kin (`Store.Holds.kin`), whatever has been done with the other one before.

* `CommandLine.Action.command`, `CommandLine.Report.ofAnswer`: an action as a command of a session,
  and an answer as a report.
* `Session.InStep.act`: one action on both sides.
* `Session.InStep.tells`: what the report says about the log that is there.
* `CommandLine.run_of_missing`: what is reported where there is no log.
* `Session.command_lines_are_one_session`: hence any sequence of command lines.
-/

namespace KeyLog
namespace CommandLine

/-- What is asked of an open store, or of the file, to do what the action does. -/
def Action.command (name path : String) : Action → Session.Command
  | .verify => .verify path
  | .onStore (.get key) => .store name (.get key)
  | .onStore (.set key value) => .store name (.set key value)
  | .onStore .keys => .store name .keys
  | .onStore .compact => .store name .compact

/-- The report of an answer to what an action asks; no other answers are given to that. -/
def Report.ofAnswer : Session.Answer → Report
  | .verified result => .ofResult printStats result
  | .store (.ok (.value value)) _ => .success (value ++ "\n")
  | .store (.ok .done) _ => .success ""
  | .store (.ok (.keys keys)) _ => .success (printKeys keys)
  | .store (.ok (.compacted stats)) _ => .success (printCompaction stats)
  | .store (.error error) _ => .ofError error
  | _ => ⟨"", some .usage⟩

/-- What the report of an action tells about the log that it found. -/
def Action.Tells (log : Log) (report : Report) : Action → Prop
  | .verify => ∃ replay, Replay.ofBytes log.bytes = .ok replay ∧
      report.exitCode = 0 ∧ report.output = printStats replay.stats
  | .onStore (.get key) =>
    match Admission.checkKey key, log.contents key with
    | .error _, _ => report.exitCode = 2 ∧ report.output = ""
    | .ok (), none => report.exitCode = 1 ∧ report.output = ""
    | .ok (), some value => report.exitCode = 0 ∧ report.output = value ++ "\n"
  | .onStore (.set _ _) => (report.exitCode = 0 ∨ report.exitCode = 2) ∧ report.output = ""
  | .onStore .keys => report.exitCode = 0 ∧ ∃ keys, report.output = printKeys keys ∧
      keys.Pairwise Utf8.Before ∧ ∀ key, key ∈ keys ↔ (log.contents key).isSome
  | .onStore .compact => (report.exitCode = 0 ∧ ∃ stats, report.output = printCompaction stats) ∨
      report.exitCode = 2 ∧ report.output = ""

/-- Every error but that a key has no value has the same exit code, and nothing is printed. -/
theorem Report.exitCode_ofError {error : StoreError} (h : error ≠ .notFound) :
    (ofError error).exitCode = 2 ∧ (ofError error).output = "" := by
  cases error with
  | notFound => exact absurd rfl h
  | _ => exact ⟨rfl, rfl⟩

/-- **Where there is no log**, everything but a `set` fails, prints nothing and creates nothing. -/
theorem run_of_missing {volume : Volume} {path : String} (hmissing : volume.bytesAt? path = none)
    {action : Action} (haction : ∀ key value, action ≠ .onStore (.set key value)) :
    (action.run volume path).1.exitCode = 2 ∧ (action.run volume path).1.output = "" ∧
      (action.run volume path).2 = volume := by
  obtain ⟨cause, hopen⟩ : ∃ cause, volume.openFile path false = (.error cause, volume) := by
    rcases volume.openFile_cases path false with
      ⟨object, hleads, -⟩ | ⟨cause, -, hopen⟩ | ⟨place, hcreate, -⟩
    · rw [Volume.bytesAt?_eq_some_iff.2 ⟨object, hleads, rfl⟩] at hmissing
      cases hmissing
    · exact ⟨cause, hopen⟩
    · cases hcreate
  cases action with
  | verify =>
    simp only [Action.run, Replay.verify, hopen]
    exact ⟨rfl, rfl, trivial⟩
  | onStore task =>
    have hcreates : task.creates = false := by
      cases task with
      | set key value => exact absurd rfl (haction key value)
      | get | keys | compact => rfl
    simp only [Action.run, Store.openWith, LogFile.openAt, hcreates, hopen]
    exact ⟨rfl, rfl, trivial⟩

end CommandLine

namespace Session

open CommandLine (Action Task Report Request)

/-- A sequence of command lines, each with the action that it means. -/
abbrev Script := List (List String × Action)

/-- The command lines of a script. -/
def asLines (script : Script) : List Command := script.map fun line => .commandLine line.1

/-- The same as commands for an open store. -/
def asCommands (name path : String) (script : Script) : List Command :=
  script.map fun line => line.2.command name path

variable {a : Session} {volume : Volume} {name path : String} {log : Log} {commands : List Command}

theorem plain_command (name path : String) (action : Action) :
    (action.command name path).Plain name := by
  cases action with
  | verify => trivial
  | onStore task => cases task <;> rfl

/-- In a session without a limit a store is open that stands near the end of a log, and the volume
that the command lines have come to is alike. -/
structure InStep (a : Session) (volume : Volume) (name path : String) (log : Log) : Prop where
  volume : a.volume.Alike volume
  unlimited : a.limit = none
  follows : a.Follows name path log
  near : a.Standing name
  opened : (a.stores.get? name).isSome

/-- A command line opens a store that is kin to the one that is open in the session. -/
theorem InStep.openWith (h : InStep a volume name path log) (hroomy : a.Roomy name commands)
    (create : Bool) :
    ∃ s t, a.stores.get? name = some s ∧
      Store.openWith volume { path, createIfMissing := create } = (.ok t, volume) ∧
      s.Kin t ∧ t.Holds volume path log := by
  obtain ⟨s, hs⟩ := Option.isSome_iff_exists.1 h.opened
  have hholds := h.follows.holds s hs
  have hcontent : volume.content s.file.object = log.bytes := by
    rw [← h.volume.content]
    exact hholds.file.content
  have hleads : volume.Leads ({ path, createIfMissing := create } : Settings).path s.file.object :=
    h.volume.leads hholds.file.leads
  obtain ⟨t, hopen, hholds'⟩ := Store.openWith_of_leads hleads hcontent
  have hroom := hroomy.here hs
  have hlength : t.file.length = s.file.length :=
    hholds'.file.length.trans hholds.file.length.symm
  refine ⟨s, t, hs, hopen, hholds.kin hholds' h.volume ((h.near s hs).hasRoom hroom)
    ((Store.standing_openWith hopen).hasRoom ?_), hholds'⟩
  rw [hlength]
  exact hroom

/-- An action reports the session's answer, and leaves a volume like the session's. -/
theorem InStep.answer (h : InStep a volume name path log) (hroomy : a.Roomy name commands)
    (action : Action) :
    (action.run volume path).1 = .ofAnswer (a.step (action.command name path)).1 ∧
      (a.step (action.command name path)).2.volume.Alike (action.run volume path).2 ∧
      (a.step (action.command name path)).2.limit = none := by
  have hmedium : a.medium = .limited none := by rw [medium, h.unlimited]
  cases action with
  | verify =>
    refine ⟨?_, h.volume, h.unlimited⟩
    simp only [Action.run, Action.command, step, Replay.verify_alike h.volume]
    rfl
  | onStore task =>
    obtain ⟨s, t, hs, hopen, hkin, -⟩ := h.openWith hroomy task.creates
    simp only [Action.run, hopen]
    cases task with
    | get key =>
      obtain ⟨hresult, -⟩ := hkin.get h.volume key
      simp only [Task.run, Action.command, step, hs, onStore, ← hresult]
      refine ⟨?_, h.volume, h.unlimited⟩
      cases (s.get a.volume key).1 <;> rfl
    | set key value =>
      obtain ⟨result, moved, moved', after, after', ha, hb, -, hafter⟩ :=
        (hkin.set h.volume none key value).triples
      simp only [Task.run, Action.command, step, hs, onStore, hmedium, ha, hb]
      refine ⟨?_, hafter, h.unlimited⟩
      cases result <;> rfl
    | keys =>
      simp only [Task.run, Action.command, step, hs, onStore, Store.keys, hkin.index]
      exact ⟨rfl, h.volume, h.unlimited⟩
    | compact =>
      obtain ⟨result, moved, moved', after, after', ha, hb, -, hafter⟩ :=
        (hkin.compact h.volume (.limited none)).triples
      simp only [Task.run, Action.command, step, hs, onStore, hmedium, ha, hb]
      refine ⟨?_, hafter, h.unlimited⟩
      cases result <;> rfl

/-- **An action on both sides** is reported as it is answered, and keeps them in step. -/
theorem InStep.act (h : InStep a volume name path log) (hroomy : a.Roomy name commands)
    (action : Action) :
    (action.run volume path).1 = .ofAnswer (a.step (action.command name path)).1 ∧
      ∃ next, InStep (a.step (action.command name path)).2 (action.run volume path).2 name path
        next := by
  have hplain := plain_command name path action
  obtain ⟨hreport, hvolume, hunlimited⟩ := h.answer hroomy action
  obtain ⟨-, next, hnext⟩ := (h.follows.abreast h.near h.opened).own hroomy hplain
  exact ⟨hreport, next, hvolume, hunlimited, hnext.left, hnext.near, hnext.opened⟩

/-- **The report of an action tells about the log that is there.** -/
theorem InStep.tells (h : InStep a volume name path log) (hroomy : a.Roomy name commands)
    (action : Action) : action.Tells log (action.run volume path).1 := by
  obtain ⟨s, hs⟩ := Option.isSome_iff_exists.1 h.opened
  have hholds := h.follows.holds s hs
  have hroom : s.file.length + 2 * Layout.maxRecordSize ≤ Medium.maxObjectSize := hroomy.here hs
  have hsize : log.bytes.length ≤ Medium.maxObjectSize := by
    rw [← hholds.file.length]
    exact Nat.le_of_add_right_le hroom
  cases action with
  | verify =>
    obtain ⟨superseded, -, hreplay⟩ := Replay.ofBytes_log log
    have hbytes : volume.bytesAt? path = some log.bytes :=
      (h.volume.bytesAt? path).symm.trans hholds.bytesAt?
    refine ⟨_, hreplay, ?_⟩
    simp only [Action.run, Replay.verify_of_bytesAt? hbytes, hreplay]
    exact ⟨rfl, rfl⟩
  | onStore task =>
    obtain ⟨-, t, -, hopen, -, hfresh⟩ := h.openWith hroomy task.creates
    simp only [Action.run, hopen]
    cases task with
    | get key =>
      cases hkey : Admission.checkKey key with
      | error error =>
        have hget : (t.get volume key).1 = .error error := by simp only [Store.get, hkey]
        have hne : error ≠ .notFound := by
          rintro rfl
          obtain ⟨haccepted, -⟩ := Store.get_eq_notFound_iff.1 hget
          cases hkey.symm.trans haccepted
        simp only [Action.Tells, hkey, Task.run, hget]
        exact Report.exitCode_ofError hne
      | ok _ =>
        have hget := hfresh.get_eq hsize hkey
        simp only [Action.Tells, hkey, Task.run, hget, Contents.get]
        cases log.contents key <;> exact ⟨rfl, rfl⟩
    | set key value =>
      have hne := t.set_ne_notFound (.limited none) volume key value
      simp only [Task.run, Action.Tells]
      cases hset : t.set (.limited none) volume key value with
      | mk result rest =>
        rw [hset] at hne
        cases result with
        | ok done => exact ⟨.inl rfl, rfl⟩
        | error error =>
          have herror := Report.exitCode_ofError fun hmiss => hne (congrArg _ hmiss)
          exact ⟨.inr herror.1, herror.2⟩
    | keys =>
      exact ⟨rfl, t.keys.pending, rfl, t.index.pairwise_keys, hfresh.mem_keys_iff⟩
    | compact =>
      have hne := t.compact_ne_notFound (.limited none) volume
      simp only [Task.run, Action.Tells]
      cases hcompact : t.compact (.limited none) volume with
      | mk result rest =>
        rw [hcompact] at hne
        cases result with
        | ok stats => exact .inl ⟨rfl, stats, rfl⟩
        | error error =>
          exact .inr (Report.exitCode_ofError fun hmiss => hne (congrArg _ hmiss))

/-! ## Sequences of command lines -/

variable {script : Script} {session c : Session}

/-- **Command lines and one long session** report and answer the same and stay in step. -/
theorem InStep.run (h : InStep a c.volume name path log)
    (hroomy : a.Roomy name (asCommands name path script))
    (hscript : ∀ line ∈ script, Request.ofWords line.1 = .run path line.2) :
    c.run (asLines script) = (a.run (asCommands name path script)).map
        (fun answer => .commandLine (.ofAnswer answer)) ∧
      ∃ last, InStep (a.after (asCommands name path script)) (c.after (asLines script)).volume name
        path last := by
  induction script generalizing a c log with
  | nil => exact ⟨rfl, log, h⟩
  | cons line script ih =>
    obtain ⟨words, action⟩ := line
    obtain ⟨hreport, next, hnext⟩ := h.act hroomy action
    have hrequest : Request.ofWords words = .run path action :=
      hscript (words, action) List.mem_cons_self
    have hstep : c.step (.commandLine words) = (.commandLine (action.run c.volume path).1,
        { c with volume := (action.run c.volume path).2 }) := by
      simp only [step, CommandLine.run, hrequest, Request.answer]
    have hvolume : (c.step (.commandLine words)).2.volume = (action.run c.volume path).2 := by
      rw [hstep]
    rw [← hvolume] at hnext
    obtain ⟨hreports, hlast⟩ :=
      ih hnext hroomy.tail fun other hother => hscript other (List.mem_cons_of_mem _ hother)
    refine ⟨?_, hlast⟩
    have hanswer : (c.step (.commandLine words)).1 =
        .commandLine (.ofAnswer (a.step (action.command name path)).1) := by
      rw [hstep, hreport]
    simp only [asLines, asCommands, List.map_cons, Session.run, hanswer] at hreports ⊢
    rw [hreports]

/-- **Command lines are one long session.**  Let there be a file that a replay accepts, and open a
store on it that is kept.  Let command lines be given that mean actions on that file, as many as one
likes.  Then each reports what the session answers to the same commands for the open store, and in
the end, and so after each of them, the same bytes are everywhere.  What the next command line
reports is what the log tells that is then in the file: the current value of a key, or exit code 1
where the key is in order but has none; the live keys in ascending order; the counts of a replay; and
for every other error exit code 2 and no output.

Where there is no file, everything but a `set` has exit code 2, prints nothing and creates nothing.

The log must never come within two records of the largest size that an object can have. -/
theorem command_lines_are_one_session {settings : Settings} (hready : session.Ready name path)
    (hfile : (session.volume.bytesAt? path).isSome) (hlimit : session.limit = none)
    (hpath : settings.path = path)
    (hroomy : (session.after [.openStore name settings]).Roomy name (asCommands name path script))
    (hscript : ∀ line ∈ script, Request.ofWords line.1 = .run path line.2) :
    ((session.after [.openStore name settings]).stores.get? name).isSome ∧
      session.run (asLines script) =
        ((session.after [.openStore name settings]).run (asCommands name path script)).map
          (fun answer => .commandLine (.ofAnswer answer)) ∧
      (∀ text, (session.after (asLines script)).volume.bytesAt? text =
        ((session.after [.openStore name settings]).after
          (asCommands name path script)).volume.bytesAt? text) ∧
      (∃ log : Log, (session.after (asLines script)).volume.bytesAt? path = some log.bytes ∧
        ∀ words action, Request.ofWords words = .run path action →
          action.Tells log (CommandLine.run (session.after (asLines script)).volume words).1) ∧
      ∀ (volume : Volume) (missing : String) words action,
        Request.ofWords words = .run missing action → volume.bytesAt? missing = none →
        (∀ key value, action ≠ .onStore (.set key value)) →
          (CommandLine.run volume words).1.exitCode = 2 ∧
            (CommandLine.run volume words).1.output = "" ∧
            (CommandLine.run volume words).2 = volume := by
  obtain ⟨log, hfollows⟩ := hready.follows
  obtain ⟨store, hopen, hholds⟩ := hfollows.openWith hfile hpath
  have hstep : session.after [.openStore name settings] =
      { session with stores := session.stores.assign name store } := by
    simp only [after_cons, after_nil, step, openStore, hopen]
  have hget : (session.after [.openStore name settings]).stores.get? name = some store := by
    rw [hstep, Handles.get?_assign_self]
  have hinstep : InStep (session.after [.openStore name settings]) session.volume name path log := by
    have htakes := takes_openStore hfollows hpath
    refine ⟨?_, ?_, htakes.follows, ?_, Option.isSome_of_eq_some hget⟩
    · rw [hstep]
      exact ⟨rfl, rfl, fun _ => rfl⟩
    · rw [hstep]
      exact hlimit
    · rw [hstep]
      exact standing_assign rfl (Store.standing_openWith hopen)
  obtain ⟨hreports, last, hlast⟩ := hinstep.run hroomy hscript
  have hlastRoomy : ((session.after [.openStore name settings]).after
      (asCommands name path script)).Roomy name [] := by
    refine Roomy.after ?_
    rw [List.append_nil]
    exact hroomy
  refine ⟨Option.isSome_of_eq_some hget, hreports, fun text => (hlast.volume.bytesAt? text).symm,
    ⟨last, ?_, ?_⟩, ?_⟩
  · obtain ⟨kept, hkept⟩ := Option.isSome_iff_exists.1 hlast.opened
    rw [← hlast.volume.bytesAt?]
    exact (hlast.follows.holds kept hkept).bytesAt?
  · intro words action hwords
    simp only [CommandLine.run, hwords, Request.answer]
    exact hlast.tells hlastRoomy action
  · intro volume missing words action hwords hmissing haction
    simp only [CommandLine.run, hwords, Request.answer]
    exact CommandLine.run_of_missing hmissing haction

/-- Sets a key, looks up three, one of which has no value and one of which is none, lists the keys,
compacts and verifies. -/
def errands : Script :=
  [(["-f", "heap", "set", "b", "3"], .onStore (.set "b" "3")),
    (["--file", "heap", "get", "a"], .onStore (.get "a")),
    (["-fheap", "get", "c"], .onStore (.get "c")),
    (["-f", "heap", "get", ""], .onStore (.get "")),
    (["-f", "heap", "keys"], .onStore .keys),
    (["-f", "heap", "compact"], .onStore .compact),
    (["-f", "heap", "verify"], .verify)]

/-- What a command line has printed, and its exit code. -/
def Answer.printed? : Answer → Option (String × Nat)
  | .commandLine report => some (report.output, report.exitCode)
  | _ => none

/-- Each errand prints what the open store answers. -/
theorem command_lines_are_one_session_errands :
    onTwiceSet.Ready "s" "heap" ∧ (onTwiceSet.volume.bytesAt? "heap").isSome ∧
      onTwiceSet.limit = none ∧
      (onTwiceSet.after [.openStore "s" { path := "heap" }]).Roomy "s"
        (asCommands "s" "heap" errands) ∧
      (∀ line ∈ errands, Request.ofWords line.1 = .run "heap" line.2) ∧
      (onTwiceSet.run (asLines errands)).filterMap Answer.printed? =
        [("", 0), ("2\n", 0), ("", 1), ("", 2), ("a\nb\n", 0),
          ("compacted: 2 live records, 33 -> 22 bytes (11 reclaimed)\n", 0),
          ("ok: 2 records, 2 live keys, 0 superseded, 22 bytes\n", 0)] := by
  have hfile : (onTwiceSet.volume.bytesAt? "heap").isSome :=
    Option.isSome_of_eq_some bytesAt?_onTwiceSet
  have hscript : ∀ line ∈ errands, Request.ofWords line.1 = .run "heap" line.2 := by
    decide +kernel
  obtain ⟨log, hfollows⟩ := ready_onTwiceSet.follows
  have hlog : log.bytes = twiceSet.bytes := by
    rw [← hfollows.bytes, bytesAt?_onTwiceSet, Option.getD_some]
  have hroomy : (onTwiceSet.after [.openStore "s" { path := "heap" }]).Roomy "s"
      (asCommands "s" "heap" errands) := by
    refine (takes_openStore hfollows rfl).follows.roomy ?_ ?_
    · intro command hcommand
      obtain ⟨line, -, rfl⟩ := List.mem_map.1 hcommand
      exact plain_command "s" "heap" line.2
    · rw [hlog]
      decide +kernel
  refine ⟨ready_onTwiceSet, hfile, rfl, hroomy, hscript, ?_⟩
  rw [(command_lines_are_one_session ready_onTwiceSet hfile rfl rfl hroomy hscript).2.1]
  decide +kernel

end Session
end KeyLog
