import KeyLog.Proofs.Session.Acknowledged
import KeyLog.Proofs.Session.Compaction

/-!
# What a failed append costs the others

An append that is cut off is taken back: the handle cuts the object to its own count.  If the handle
counts right this restores the file.  If others have appended since it last counted, its count lies
behind the end of the log, and what is cut away is what they wrote.

* `Session.byOthers`: the records that somebody else wrote.
* `Session.run_lag`: a handle lags behind by the bytes of what others have written since it counted
  the log, and by nothing else.
* `Session.failed_append_cuts_off_what_others_wrote`: so this is what a failed append destroys.
* `Session.failed_append_destroys_acknowledged`: a record that is lost in this way.
-/

namespace KeyLog
namespace Session

variable {session after : Session} {path : String} {command : Command} {answer : Answer}
  {commands : List Command} {writer : Writer}

/-- The records that were acknowledged to others than the writer, in the order of the calls. -/
def byOthers (writer : Writer) (steps : List (Command × Answer)) : Log :=
  steps.filterMap fun step => if step.1.writer? = some writer then none else recorded? step

theorem byOthers_cons (writer : Writer) (step : Command × Answer)
    (steps : List (Command × Answer)) :
    byOthers writer (step :: steps) = byOthers writer [step] ++ byOthers writer steps :=
  List.filterMap_append (l := [step])

/-- What the writer itself has written is not by others. -/
theorem byOthers_of_writer (h : command.writer? = some writer) :
    byOthers writer [(command, answer)] = [] :=
  List.filterMap_cons_none (if_pos h)

theorem byOthers_of_none (h : recorded? (command, answer) = none) :
    byOthers writer [(command, answer)] = [] :=
  List.filterMap_cons_none (by rw [h, ite_self])

/-- What somebody else has written is. -/
theorem byOthers_of_ne {record : Record} (hwriter : command.writer? ≠ some writer)
    (hrecord : recorded? (command, answer) = some record) :
    byOthers writer [(command, answer)] = [record] :=
  List.filterMap_cons_some ((if_neg hwriter).trans hrecord)

/-- No record was written where no byte was. -/
theorem eq_nil_of_length_bytes {log : Log} (h : log.bytes.length = 0) : log = [] := by
  cases log with
  | nil => rfl
  | cons record log =>
    have hpos := record.size_pos
    rw [Log.bytes_cons, List.length_append, Record.length_encode] at h
    omega

/-! ## How far a handle lags behind -/

/-- The handle of a writer, if there is one, counts so many bytes less than the file has. -/
def Lags (session : Session) (path : String) (writer : Writer) (lag : Nat) : Prop :=
  ∀ file, session.handle? writer = some file →
    file.length + lag = (session.logBytes path).length

/-- **A handle that does not count anew falls behind by what others write.** -/
theorem Does.lags (hdoes : session.Does path command answer after)
    (h : session.Gathered path) (hsucceeds : writeFails (command, answer) = false)
    (hcounter : command.counter? ≠ some writer) {lag : Nat} (hlag : session.Lags path writer lag) :
    after.Lags path writer (lag + (byOthers writer [(command, answer)]).bytes.length) := by
  intro file hfile
  have hbytes := congrArg List.length (hdoes.grows h hsucceeds).bytes
  rw [List.length_append] at hbytes
  cases hdoes with
  | rests _ hhandles hrecorded =>
    obtain ⟨position, hheld⟩ := hhandles writer file hfile
    have hbefore : file.length + lag = (session.logBytes path).length :=
      hlag { file with position } hheld
    rw [hrecorded] at hbytes
    rw [byOthers_of_none hrecorded, hbytes]
    exact hbefore
  | counts other _ hcounted hhandles _ _ _ hrecorded =>
    have hne : writer ≠ other := by
      rintro rfl
      exact hcounter hcounted
    rw [hhandles, Function.update_of_ne hne] at hfile
    rw [hrecorded] at hbytes
    rw [byOthers_of_none hrecorded, hbytes]
    exact hlag file hfile
  | appends other held record position hwrites hheld hhandles _ _ _ hrecorded =>
    rw [hrecorded, Option.toList_some, Log.bytes_singleton, Record.length_encode] at hbytes
    rw [hhandles] at hfile
    by_cases hsame : writer = other
    · subst hsame
      rw [Function.update_self, Option.some.injEq] at hfile
      have hbefore := hlag held hheld
      rw [byOthers_of_writer hwrites, hbytes, ← hbefore, ← hfile]
      exact Nat.add_right_comm _ _ _
    · rw [Function.update_of_ne hsame] at hfile
      have hothers : command.writer? ≠ some writer := by
        rw [hwrites]
        exact fun heq => hsame (Option.some.inj heq).symm
      rw [byOthers_of_ne hothers hrecorded, Log.bytes_singleton, Record.length_encode, hbytes,
        ← hlag file hfile, Nat.add_assoc]
  | cutsOff _ _ _ _ _ _ _ _ _ _ _ hfails => cases hfails.symm.trans hsucceeds

/-- **A handle lags behind by what others have written** since it counted the log. -/
theorem run_lag (h : session.Gathered path) (hshared : ∀ command ∈ commands, command.Shared path)
    (hsucceeds : ∀ step ∈ commands.zip (session.run commands), writeFails step = false)
    (hcounter : ∀ command ∈ commands, command.counter? ≠ some writer) {lag : Nat}
    (hlag : session.Lags path writer lag) :
    (session.after commands).Lags path writer
      (lag + (byOthers writer (commands.zip (session.run commands))).bytes.length) := by
  induction commands generalizing session lag with
  | nil => exact hlag
  | cons command commands ih =>
    have hdoes := step_does h (hshared command List.mem_cons_self)
    have hfirst := hdoes.lags h (hsucceeds _ List.mem_cons_self)
      (hcounter command List.mem_cons_self) hlag
    have hrest := ih (hdoes.gathered h (sound_step h.sound command))
      (fun other hother => hshared other (List.mem_cons_of_mem _ hother))
      (fun step hstep => hsucceeds step (List.mem_cons_of_mem _ hstep))
      (fun other hother => hcounter other (List.mem_cons_of_mem _ hother)) hfirst
    rw [zip_run_cons, byOthers_cons, Log.bytes_append, List.length_append, ← Nat.add_assoc lag]
    exact hrest

/-! ## A write that is cut off -/

/-- **A failed append takes the log back to where the handle believes it to end.**  Let the handles
of a session share a log, and let anything have been done with them, be it that writes have failed
before.  When a write through one of them is cut off, after any number of bytes, then nothing but the
file and that handle is touched.  A handle that counts no more bytes than the file has leaves as many
of them as it counts; one that counts more leaves all of them, and fills the gap or counts again.

So what is destroyed is what others have written since the handle last counted the log, and nothing
else: as many bytes are gone as their records have.  The file is what it was before the append if and
only if nobody else has written anything. -/
theorem failed_append_cuts_off_what_others_wrote (hgathered : session.Gathered path)
    (hshared : ∀ command ∈ commands, command.Shared path) (hcommand : command.Shared path)
    (hstep : (session.after commands).step command = (answer, after))
    (hfails : writeFails (command, answer) = true) :
    ∃ writer file moved, command.writer? = some writer ∧
      (session.after commands).handle? writer = some file ∧
      after.handle? = Function.update (session.after commands).handle? writer (some moved) ∧
      moved.object = file.object ∧
      (session.after commands).volume.Within after.volume file.object ∧
      (file.length ≤ ((session.after commands).logBytes path).length →
        moved.length = file.length ∧
          after.logBytes path = ((session.after commands).logBytes path).take file.length) ∧
      (((session.after commands).logBytes path).length < file.length →
        moved.length = (after.logBytes path).length ∧
          (session.after commands).logBytes path <+: after.logBytes path) ∧
      ∀ earlier later, commands = earlier ++ later → (session.after earlier).Lags path writer 0 →
        (∀ other ∈ later, other.counter? ≠ some writer) →
        (∀ step ∈ later.zip ((session.after earlier).run later), writeFails step = false) →
        (∃ lost, (session.after commands).logBytes path = after.logBytes path ++ lost ∧
          lost.length =
            (byOthers writer (later.zip ((session.after earlier).run later))).bytes.length) ∧
        (after.logBytes path = (session.after commands).logBytes path ↔
          byOthers writer (later.zip ((session.after earlier).run later)) = []) := by
  have hbefore := run_gathered hgathered hshared
  have hdoes := step_does hbefore hcommand
  rw [hstep] at hdoes
  cases hdoes with
  | rests _ _ _ hsucceeds => cases hfails.symm.trans hsucceeds
  | counts _ _ _ _ _ _ _ _ hsucceeds => cases hfails.symm.trans hsucceeds
  | appends _ _ _ _ _ _ _ _ _ _ _ hsucceeds => cases hfails.symm.trans hsucceeds
  | cutsOff writer file moved hwrites hheld hhandles hwithin hobject hcut hfill =>
    have hleads := hbefore.leads writer file hheld
    rw [Volume.size_eq, ← logBytes_of_leads hleads, ← logBytes_of_leads (hleads.within hwithin)]
      at hcut
    rw [Volume.size_eq, Volume.size_eq, ← logBytes_of_leads hleads,
      ← logBytes_of_leads (hleads.within hwithin)] at hfill
    refine ⟨writer, file, moved, hwrites, hheld, hhandles, hobject, hwithin, hcut, ?_, ?_⟩
    · intro hless
      obtain ⟨hlength, rest, hrest⟩ := hfill hless
      exact ⟨hlength, rest, hrest.symm⟩
    · intro earlier later hcommands hlags hcounter hsucceeds
      subst hcommands
      rw [session.after_append] at hheld hcut ⊢
      have hearlier : (session.after earlier).Gathered path :=
        run_gathered hgathered fun other hother => hshared other (List.mem_append_left _ hother)
      have hlag := run_lag hearlier
        (fun other hother => hshared other (List.mem_append_right _ hother)) hsucceeds hcounter
        hlags file hheld
      rw [Nat.zero_add] at hlag
      obtain ⟨-, htake⟩ := hcut (hlag ▸ Nat.le_add_right _ _)
      have hlost : ((((session.after earlier).after later).logBytes path).drop
          file.length).length =
            (byOthers writer (later.zip ((session.after earlier).run later))).bytes.length := by
        rw [List.length_drop, ← hlag, Nat.add_sub_cancel_left]
      refine ⟨⟨_, by rw [htake, List.take_append_drop], hlost⟩, ?_⟩
      constructor
      · intro hsame
        apply eq_nil_of_length_bytes
        rw [← hlost, List.length_drop, Nat.sub_eq_zero_iff_le, ← List.take_eq_self_iff, ← htake]
        exact hsame
      · intro hnobody
        rw [hnobody, Log.bytes_nil, List.length_nil, List.length_drop, Nat.sub_eq_zero_iff_le,
          ← List.take_eq_self_iff] at hlost
        rw [htake, hlost]

/-! ## Two stores, and one of them is out of date -/

/-- Opens two stores on one path.  The second one writes, and then there is room for three bytes
more. -/
def outOfDate : List Command :=
  [.openStore "s" { path := "heap" }, .openStore "t" { path := "heap" },
    .store "t" (.set "a" "1"), .limit (some 14)]

/-- The write that is cut off. -/
def tooLarge : Command := .store "s" (.set "b" "2")

theorem gathered_start (path : String) : start.Gathered path where
  sound := Volume.sound_empty
  leads writer file hfile := by cases writer <;> cases hfile

/-- The first store counts nothing, so nothing is left when its write fails. -/
theorem failed_append_cuts_off_what_others_wrote_outOfDate :
    start.Gathered "heap" ∧ (∀ command ∈ outOfDate, command.Shared "heap") ∧
      tooLarge.Shared "heap" ∧
      writeFails (tooLarge, ((start.after outOfDate).step tooLarge).1) = true ∧
      ((start.after outOfDate).logBytes "heap").length = 11 ∧
      ((start.after outOfDate).step tooLarge).2.logBytes "heap" = [] := by
  have hshared : ∀ command ∈ outOfDate, command.Shared "heap" := by
    simp [outOfDate, Command.Shared]
  have htooLarge : tooLarge.Shared "heap" := trivial
  have hfails : writeFails (tooLarge, ((start.after outOfDate).step tooLarge).1) = true := by
    decide +kernel
  have hlength : ((start.after outOfDate).logBytes "heap").length = 11 := by decide +kernel
  have hstep : (start.after outOfDate).step tooLarge =
      (((start.after outOfDate).step tooLarge).1, ((start.after outOfDate).step tooLarge).2) := rfl
  obtain ⟨writer, file, moved, hwrites, hheld, -, -, -, hcut, -, -⟩ :=
    failed_append_cuts_off_what_others_wrote (gathered_start "heap") hshared htooLarge hstep
      hfails
  obtain rfl : Writer.store "s" = writer := Option.some.inj hwrites
  have hcount : ((start.after outOfDate).handle? (.store "s")).map LogFile.length = some 0 := by
    decide +kernel
  rw [hheld, Option.map_some, Option.some.injEq] at hcount
  refine ⟨gathered_start "heap", hshared, htooLarge, hfails, hlength, ?_⟩
  rw [(hcut (hcount ▸ Nat.zero_le _)).2, hcount, List.take_zero]

/-- The record of the second store was acknowledged and can be read.  Then a write of the first store
fails, and it is gone. -/
theorem failed_append_destroys_acknowledged :
    recorded? (.store "t" (.set "a" "1"),
        ((start.after (outOfDate.take 2)).step (.store "t" (.set "a" "1"))).1) =
      Record.ofTexts? "a" "1" ∧
      (Record.ofTexts? "a" "1").map Record.encode =
        some ((start.after outOfDate).logBytes "heap") ∧
      (start.after outOfDate).lookupError "t" "a" = none ∧
      writeFails (tooLarge, ((start.after outOfDate).step tooLarge).1) = true ∧
      ((start.after outOfDate).step tooLarge).2.logBytes "heap" = [] ∧
      ((start.after outOfDate).step tooLarge).2.lookupError "t" "a" =
        some (.corruption 0 .shortRead) := by
  decide +kernel

end Session
end KeyLog
