import KeyLog.Proofs.Session.Refinement
import KeyLog.Proofs.Session.Shared

/-!
# Acknowledged writes of several handles

Handles that share a log count it apart, so each of them knows less and less where its own records
lie.  The log itself does not suffer from that: appends go to the end of the object, wherever a
handle believes the end to be.

* `Session.Grows`: from one session to another some records were added to the log, and nothing else
  has happened to it.
* `Session.run_grows`: a run in which no write is cut off adds what was acknowledged.
* `Session.acknowledged_writes_reach_the_log`: hence a store that is opened afterwards shows the last
  value of each key, whichever handle wrote it.
-/

namespace KeyLog
namespace Session

variable {session middle after : Session} {path : String} {command : Command} {answer : Answer}
  {commands : List Command}

/-- The bytes at a path, an absent file counting as empty. -/
def logBytes (session : Session) (path : String) : Bytes := (session.volume.bytesAt? path).getD []

theorem logBytes_of_leads {object : Nat} (h : session.volume.Leads path object) :
    session.logBytes path = session.volume.content object := by
  rw [logBytes, Volume.bytesAt?_eq_some_iff.2 ⟨object, h, rfl⟩, Option.getD_some]

theorem logBytes_of_not_leads (h : ∀ object, ¬ session.volume.Leads path object) :
    session.logBytes path = [] := by
  cases hbytes : session.volume.bytesAt? path with
  | none => rw [logBytes, hbytes, Option.getD_none]
  | some bytes =>
    obtain ⟨object, hleads, -⟩ := Volume.bytesAt?_eq_some_iff.1 hbytes
    exact absurd hleads (h object)

/-! ## Growing logs -/

/-- The records of a log are added at the end of a file, and nothing else happens to it.  As long as
there is no file, nothing happens at all. -/
structure Grows (session after : Session) (path : String) (log : Log) : Prop where
  bytes : after.logBytes path = session.logBytes path ++ log.bytes
  fits : (session.logBytes path).length ≤ Medium.maxObjectSize →
    (after.logBytes path).length ≤ Medium.maxObjectSize
  untouched : after.volume.bytesAt? path = none → after.volume = session.volume

theorem Grows.of_volume (hvolume : after.volume = session.volume) :
    session.Grows after path [] := by
  have hsame : after.logBytes path = session.logBytes path := by
    rw [logBytes, hvolume]
    rfl
  refine ⟨?_, ?_, fun _ => hvolume⟩
  · rw [hsame, Log.bytes_nil, List.append_nil]
  · rw [hsame]
    exact id

theorem Grows.trans {log more : Log} (h : session.Grows middle path log)
    (h' : middle.Grows after path more) : session.Grows after path (log ++ more) := by
  refine ⟨?_, h'.fits ∘ h.fits, ?_⟩
  · rw [h'.bytes, h.bytes, Log.bytes_append, List.append_assoc]
  · intro hnone
    have hsame := h'.untouched hnone
    rw [hsame] at hnone ⊢
    exact h.untouched hnone

/-- A file that is there stays there. -/
theorem Grows.isSome {log : Log} (h : session.Grows after path log)
    (hsome : (session.volume.bytesAt? path).isSome) : (after.volume.bytesAt? path).isSome := by
  cases hafter : after.volume.bytesAt? path with
  | some bytes => rfl
  | none =>
    rw [h.untouched hafter] at hafter
    rw [hafter] at hsome
    cases hsome

/-! ## One step -/

/-- Whatever is done, the handles go on to have the object that the path leads to. -/
theorem Does.gathered (hdoes : session.Does path command answer after)
    (h : session.Gathered path) (hsound : after.volume.Sound) : after.Gathered path := by
  refine ⟨hsound, ?_⟩
  intro other kept hkept
  cases hdoes with
  | rests hvolume hhandles =>
    obtain ⟨position, hheld⟩ := hhandles other kept hkept
    rw [hvolume]
    exact h.leads other { kept with position } hheld
  | counts writer file _ hhandles hleads _ hvolume =>
    rw [hhandles] at hkept
    by_cases hsame : other = writer
    · rw [hsame, Function.update_self, Option.some.injEq] at hkept
      exact hkept ▸ hleads
    · rw [Function.update_of_ne hsame] at hkept
      have hbefore := h.leads other kept hkept
      rcases hvolume with hvolume | ⟨hnone, -⟩
      · rwa [hvolume]
      · exact absurd hbefore (hnone _)
  | appends writer file record position _ hheld hhandles hwithin =>
    refine (?_ : session.volume.Leads path kept.object).within hwithin
    rw [hhandles] at hkept
    by_cases hsame : other = writer
    · rw [hsame, Function.update_self, Option.some.injEq] at hkept
      rw [← hkept]
      exact h.leads writer file hheld
    · rw [Function.update_of_ne hsame] at hkept
      exact h.leads other kept hkept
  | cutsOff writer file moved _ hheld hhandles hwithin hobject =>
    refine (?_ : session.volume.Leads path kept.object).within hwithin
    rw [hhandles] at hkept
    by_cases hsame : other = writer
    · rw [hsame, Function.update_self, Option.some.injEq] at hkept
      rw [← hkept, hobject]
      exact h.leads writer file hheld
    · rw [Function.update_of_ne hsame] at hkept
      exact h.leads other kept hkept

/-- **A command whose write is not cut off** adds the record that it acknowledges, if any. -/
theorem Does.grows (hdoes : session.Does path command answer after)
    (h : session.Gathered path) (hsucceeds : writeFails (command, answer) = false) :
    session.Grows after path (recorded? (command, answer)).toList := by
  cases hdoes with
  | rests hvolume _ hrecorded =>
    rw [hrecorded]
    exact .of_volume hvolume
  | counts writer file _ _ hleads _ hvolume hrecorded =>
    rw [hrecorded]
    rcases hvolume with hvolume | ⟨hnone, hempty⟩
    · exact .of_volume hvolume
    · have hbytes : after.logBytes path = [] := by rw [logBytes_of_leads hleads, hempty]
      refine ⟨?_, ?_, ?_⟩
      · rw [hbytes, logBytes_of_not_leads hnone]
        rfl
      · rw [hbytes]
        exact fun _ => Nat.zero_le _
      · intro habsent
        rw [Volume.bytesAt?_eq_some_iff.2 ⟨_, hleads, rfl⟩] at habsent
        cases habsent
  | appends writer file record position _ hheld _ hwithin hcontent hfits hrecorded =>
    have hbefore := h.leads writer file hheld
    have hafter := hbefore.within hwithin
    rw [hrecorded]
    refine ⟨?_, ?_, ?_⟩
    · rw [logBytes_of_leads hafter, logBytes_of_leads hbefore, hcontent]
      exact congrArg _ (Log.bytes_singleton record).symm
    · intro _
      rw [logBytes_of_leads hafter, hcontent, List.length_append, Record.length_encode,
        ← Volume.size_eq]
      exact hfits
    · intro habsent
      rw [Volume.bytesAt?_eq_some_iff.2 ⟨_, hafter, rfl⟩] at habsent
      cases habsent
  | cutsOff _ _ _ _ _ _ _ _ _ _ _ hfails => cases hfails.symm.trans hsucceeds

/-! ## Runs -/

/-- Through a run the handles have the object that the path leads to, whatever fails. -/
theorem run_gathered (h : session.Gathered path)
    (hshared : ∀ command ∈ commands, command.Shared path) :
    (session.after commands).Gathered path := by
  induction commands generalizing session with
  | nil => exact h
  | cons command commands ih =>
    have hdoes := step_does h (hshared command List.mem_cons_self)
    refine ih (hdoes.gathered h (sound_step h.sound command)) ?_
    intro other hother
    exact hshared other (List.mem_cons_of_mem _ hother)

theorem written_cons (step : Command × Answer) (steps : List (Command × Answer)) :
    written (step :: steps) = (recorded? step).toList ++ written steps := by
  cases hstep : recorded? step with
  | none => exact List.filterMap_cons_none hstep
  | some record => exact List.filterMap_cons_some hstep

/-- **A run in which no write is cut off** adds the records that it acknowledges, in the order of the
calls and whichever handle wrote them. -/
theorem run_grows (h : session.Gathered path)
    (hshared : ∀ command ∈ commands, command.Shared path)
    (hsucceeds : ∀ step ∈ commands.zip (session.run commands), writeFails step = false) :
    session.Grows (session.after commands) path (written (commands.zip (session.run commands))) := by
  induction commands generalizing session with
  | nil => exact .of_volume rfl
  | cons command commands ih =>
    have hdoes := step_does h (hshared command List.mem_cons_self)
    have hfirst := hdoes.grows h (hsucceeds _ List.mem_cons_self)
    have hgathered := hdoes.gathered h (sound_step h.sound command)
    have hrest := ih hgathered (fun other hother => hshared other (List.mem_cons_of_mem _ hother))
      fun step hstep => hsucceeds step (List.mem_cons_of_mem _ hstep)
    rw [zip_run_cons, written_cons]
    exact hfirst.trans hrest

/-! ## What is found afterwards -/

/-- Nothing is open yet, and the path is absent or holds bytes that a replay accepts. -/
structure Unopened (session : Session) (path : String) : Prop where
  /-- This holds of every session that began on an empty volume (`sound_of_start`). -/
  sound : session.volume.Sound
  closed : ∀ writer, session.handle? writer = none
  accepted : ∀ bytes, session.volume.bytesAt? path = some bytes →
    ∃ replay, Replay.ofBytes bytes = .ok replay

theorem Unopened.gathered (h : session.Unopened path) : session.Gathered path := by
  refine ⟨h.sound, ?_⟩
  intro writer file hfile
  rw [h.closed] at hfile
  cases hfile

/-- What is there at first is a log. -/
theorem Unopened.exists_log (h : session.Unopened path) :
    ∃ log : Log, session.logBytes path = log.bytes := by
  cases hbytes : session.volume.bytesAt? path with
  | none => exact ⟨[], by rw [logBytes, hbytes]; rfl⟩
  | some bytes =>
    obtain ⟨log, hlog⟩ := Replay.accepts_iff.1 (h.accepted bytes hbytes)
    exact ⟨log, by rw [logBytes, hbytes, hlog]; rfl⟩

/-- A file whose bytes are those of a log is opened, and the store shows what the log says. -/
theorem openWith_of_logBytes {log : Log} (hbytes : session.logBytes path = log.bytes)
    (hsome : (session.volume.bytesAt? path).isSome)
    (hsize : log.bytes.length ≤ Medium.maxObjectSize) {settings : Settings}
    (hpath : settings.path = path) :
    ∃ store, Store.openWith session.volume settings = (.ok store, session.volume) ∧
      store.Shows session.volume log.contents := by
  subst hpath
  obtain ⟨bytes, hsome⟩ := Option.isSome_iff_exists.1 hsome
  obtain ⟨object, hleads, -⟩ := Volume.bytesAt?_eq_some_iff.1 hsome
  rw [logBytes_of_leads hleads] at hbytes
  obtain ⟨store, hopen, hholds⟩ := Store.openWith_of_leads hleads hbytes
  exact ⟨store, hopen, hholds.shows hsize⟩

/-- **Acknowledged writes of several handles all reach the log.**  Let any number of stores and log
files be opened on one path, at any time, and let them be asked, written to and closed in any order,
without a compaction and without a write that is cut off.  Then the file holds what it held at first,
followed by the records that were acknowledged, in the order of the calls and whichever handle wrote
them.

Where there is a file, from the beginning or because something has been opened since, every later
opening succeeds and changes nothing, and the store shows for each key the value of its last record.
Where there is none, nothing at all has happened to the volume. -/
theorem acknowledged_writes_reach_the_log (hunopened : session.Unopened path)
    (hfits : ∀ bytes, session.volume.bytesAt? path = some bytes →
      bytes.length ≤ Medium.maxObjectSize)
    (hshared : ∀ command ∈ commands, command.Shared path)
    (hsucceeds : ∀ step ∈ commands.zip (session.run commands), writeFails step = false) :
    ∃ initial : Log, session.logBytes path = initial.bytes ∧
      (session.after commands).logBytes path =
        initial.bytes ++ (written (commands.zip (session.run commands))).bytes ∧
      ((session.after commands).volume.bytesAt? path = none →
        (session.after commands).volume = session.volume) ∧
      ∀ earlier later, commands = earlier ++ later →
        ((session.after earlier).volume.bytesAt? path).isSome ∨
          (∃ writer, ((session.after earlier).handle? writer).isSome) →
        ∀ settings : Settings, settings.path = path →
          ∃ store, Store.openWith (session.after commands).volume settings =
              (.ok store, (session.after commands).volume) ∧
            store.Shows (session.after commands).volume
              (Log.contents (initial ++ written (commands.zip (session.run commands)))) := by
  obtain ⟨initial, hinitial⟩ := hunopened.exists_log
  have hgrows := run_grows hunopened.gathered hshared hsucceeds
  have hbytes := hgrows.bytes
  rw [hinitial] at hbytes
  refine ⟨initial, hinitial, hbytes, hgrows.untouched, ?_⟩
  intro earlier later hcommands hthere settings hpath
  rw [← Log.bytes_append] at hbytes
  have hsize : (session.logBytes path).length ≤ Medium.maxObjectSize := by
    cases hfirst : session.volume.bytesAt? path with
    | none => simp only [logBytes, hfirst, Option.getD_none, List.length_nil, Nat.zero_le]
    | some bytes =>
      rw [logBytes, hfirst]
      exact hfits bytes hfirst
  refine openWith_of_logBytes hbytes ?_ (hbytes ▸ hgrows.fits hsize) hpath
  -- the file that was there after the earlier commands has stayed
  subst hcommands
  have hearlier : (session.after earlier).Gathered path :=
    run_gathered hunopened.gathered fun command hcommand =>
      hshared command (List.mem_append_left _ hcommand)
  have hfile : ((session.after earlier).volume.bytesAt? path).isSome := by
    rcases hthere with hsome | ⟨writer, hwriter⟩
    · exact hsome
    · obtain ⟨file, hfile⟩ := Option.isSome_iff_exists.1 hwriter
      exact Option.isSome_of_eq_some
        (Volume.bytesAt?_eq_some_iff.2 ⟨_, hearlier.leads writer file hfile, rfl⟩)
  rw [session.after_append]
  refine (run_grows hearlier ?_ ?_).isSome hfile
  · exact fun command hcommand => hshared command (List.mem_append_right _ hcommand)
  · intro step hstep
    refine hsucceeds step ?_
    rw [zip_run_append]
    exact List.mem_append_right _ hstep

/-! ## Three handles -/

/-- Opens two stores and a log file on one path.  The second store writes first, and then nobody
counts right any more. -/
def threeHandles : List Command :=
  [.openStore "s" { path := "heap" }, .openStore "t" { path := "heap" },
    .openFile "f" "heap" false .everyWrite, .store "t" (.set "a" "1"), .store "s" (.set "a" "2"),
    .file "f" (.append ((Record.ofTexts? "b" "3").get (by decide +kernel))),
    .store "t" (.set "c" "4")]

theorem unopened_start (path : String) : start.Unopened path where
  sound := Volume.sound_empty
  closed writer := by cases writer <;> rfl
  accepted := by
    intro bytes hbytes
    obtain ⟨object, ⟨name, hname, hlook⟩, -⟩ := Volume.bytesAt?_eq_some_iff.1 hbytes
    have hnode := Volume.node?_of_lookUp hlook
    unfold Volume.node? at hnode
    split at hnode
    · cases hnode
    · cases hnode

/-- Four records have been written through three handles, and a store that is opened afterwards shows
the second one for the key that was set twice. -/
theorem acknowledged_writes_reach_the_log_threeHandles :
    (∀ command ∈ threeHandles, command.Shared "heap") ∧
      (∀ step ∈ threeHandles.zip (start.run threeHandles), writeFails step = false) ∧
      (start.after threeHandles).logBytes "heap" =
        (written (threeHandles.zip (start.run threeHandles))).bytes ∧
      ∃ store, Store.openWith (start.after threeHandles).volume { path := "heap" } =
          (.ok store, (start.after threeHandles).volume) ∧
        (store.get (start.after threeHandles).volume "a").1 = .ok "2" := by
  have hshared : ∀ command ∈ threeHandles, command.Shared "heap" := by
    simp [threeHandles, Command.Shared]
  have hall : (threeHandles.zip (start.run threeHandles)).all (fun step => !writeFails step) =
      true := by decide +kernel
  have hsucceeds : ∀ step ∈ threeHandles.zip (start.run threeHandles), writeFails step = false := by
    intro step hstep
    exact Bool.not_eq_true' _ ▸ List.all_eq_true.1 hall step hstep
  have hnone : start.volume.bytesAt? "heap" = none := by decide +kernel
  have hfits : ∀ bytes, start.volume.bytesAt? "heap" = some bytes →
      bytes.length ≤ Medium.maxObjectSize := by
    intro bytes hbytes
    rw [hnone] at hbytes
    cases hbytes
  obtain ⟨initial, hinitial, hbytes, -, hopened⟩ :=
    acknowledged_writes_reach_the_log (unopened_start "heap") hfits hshared hsucceeds
  obtain rfl : [] = initial := by
    apply Log.bytes_injective
    rw [← hinitial, logBytes, hnone]
    rfl
  have hthere : ((start.after threeHandles).volume.bytesAt? "heap").isSome := by decide +kernel
  obtain ⟨store, hstore, hshows⟩ :=
    hopened threeHandles [] (List.append_nil _).symm (.inl hthere) { path := "heap" } rfl
  have hvalue : (written (threeHandles.zip (start.run threeHandles))).contents "a" = some "2" := by
    decide +kernel
  refine ⟨hshared, hsucceeds, hbytes, store, hstore, ?_⟩
  rw [hshows.get "a" rfl, List.nil_append, Contents.get, hvalue]

end Session
end KeyLog
