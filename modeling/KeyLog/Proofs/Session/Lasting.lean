import KeyLog.Proofs.Volume.Lasting
import KeyLog.Session.Run

/-!
# What lasts through a session

Whatever is done in a session, be it through a store, through a bare log file, through the C
interface, by a command line or to the volume itself, comes down to a few operations on the volume.
A property of volumes that lasts (`Volume.Lasting`) is therefore kept by every step and every run of
a session.  The argument goes up the layers, and is the same for every such property.

* `Session.lasting_step`, `Session.lasting_after`: steps and runs.
* `Session.sound_of_start`: hence the volume of every session that begins on an empty volume is
  sound, and what is proved of sound volumes holds in all of them.
-/

namespace KeyLog

open Volume (Lasting of_result)

variable {P : Volume → Prop} {volume : Volume}

/-! ## Log files -/

namespace LogFile

theorem lasting_openAt (hP : Lasting P) (h : P volume) (path : String) (create : Bool)
    (sync : SyncPolicy) :
    P (openAt volume path create sync).2 := by
  have hopen := hP.openFile h path create
  unfold openAt
  split
  next hresult => exact of_result hopen hresult
  next hresult => exact of_result hopen hresult

theorem lasting_rollBack (hP : Lasting P) (h : P volume) (medium : Medium) (file : LogFile) :
    P (file.rollBack medium volume).2 := by
  have hresize := hP.resize h medium file.object file.length
  unfold rollBack
  split
  next hresult => exact of_result hresize hresult
  next hresult => exact of_result hresize hresult

theorem lasting_append (hP : Lasting P) (h : P volume) (medium : Medium) (file : LogFile)
    (record : Record) :
    P (file.append medium volume record).2.2 := by
  have happend := hP.append h medium file.object file.position record.encode
  unfold append
  split
  next hresult => exact of_result happend hresult
  next hresult => exact lasting_rollBack hP (of_result happend hresult) medium _

end LogFile

/-! ## Compactions -/

namespace Compaction

theorem lasting_write (hP : Lasting P) (h : P volume) (medium : Medium) (object : Nat)
    (bytes : Bytes) :
    P (write medium volume object bytes).2 := by
  unfold write
  split
  · exact h
  · exact hP.append h _ _ _ _

/-- A step of a compaction keeps what lasts, whatever phase it is in. -/
theorem lasting_step (hP : Lasting P) (h : P volume) (medium : Medium) (file : LogFile)
    (phase : Phase) :
    P (step medium file volume phase).2.2 := by
  cases phase with
  | opening todo =>
    have hopen := hP.openEmpty h (temporaryPath file.path)
    simp only [step]
    split
    next hresult => exact of_result hopen hresult
    next hresult => exact of_result hopen hresult
  | copying draft todo =>
    cases todo with
    | nil =>
      have hwrite := lasting_write hP h medium draft.object draft.pending
      simp only [step]
      split
      next hresult => exact of_result hwrite hresult
      next hresult => exact of_result hwrite hresult
    | cons entry todo =>
      simp only [step]
      split
      · exact h
      next record moved _ =>
        have hwrite := lasting_write hP h medium (draft.add entry.1 record).2.object
          (draft.add entry.1 record).1
        split
        next hresult => exact of_result hwrite hresult
        next hresult => exact of_result hwrite hresult
  | reopening index =>
    have hopen := LogFile.lasting_openAt hP h (temporaryPath file.path) false file.sync
    simp only [step]
    split
    next hresult => exact of_result hopen hresult
    next hresult => exact of_result hopen hresult
  | replacing draft index =>
    have hrename := hP.rename h (temporaryPath file.path) file.path
    simp only [step]
    split
    next hresult => exact of_result hrename hresult
    next hresult => exact of_result hrename hresult
  | discarding draft error => exact lasting_write hP h medium draft.object draft.pending
  | removing error => exact hP.remove h (temporaryPath file.path)

theorem lasting_run (hP : Lasting P) (h : P volume) (medium : Medium) (file : LogFile)
    (phase : Phase) :
    P (run medium file volume phase).2.2 := by
  fun_induction run medium file volume phase with
  | case1 file volume phase outcome moved after hstep =>
    exact of_result (lasting_step hP h medium file phase) (congrArg Prod.snd hstep)
  | case2 file volume phase next moved after hstep ih =>
    exact ih (of_result (lasting_step hP h medium file phase) (congrArg Prod.snd hstep))

end Compaction

/-! ## Stores -/

namespace Store

theorem lasting_openWith (hP : Lasting P) (h : P volume) (settings : Settings) :
    P (openWith volume settings).2 := by
  have hopen := LogFile.lasting_openAt hP h settings.path settings.createIfMissing settings.sync
  unfold openWith
  split
  next hresult => exact of_result hopen hresult
  next hresult =>
    split
    · exact of_result hopen hresult
    · exact of_result hopen hresult

theorem lasting_set (hP : Lasting P) (h : P volume) (medium : Medium) (store : Store)
    (key value : String) :
    P (store.set medium volume key value).2.2 := by
  unfold set
  split
  · exact h
  next record _ =>
    have happend := LogFile.lasting_append hP h medium store.file record
    split
    next hresult => exact of_result happend (congrArg Prod.snd hresult)
    next hresult => exact of_result happend (congrArg Prod.snd hresult)

theorem lasting_compact (hP : Lasting P) (h : P volume) (medium : Medium) (store : Store) :
    P (store.compact medium volume).2.2 := by
  have hrun := Compaction.lasting_run hP h medium store.file (.opening store.index.entries)
  unfold compact
  split
  next hresult => exact of_result hrun (congrArg Prod.snd hresult)
  next hresult => exact of_result hrun (congrArg Prod.snd hresult)

end Store

/-! ## The C interface and the command line -/

namespace Foreign

theorem lasting_openStore (hP : Lasting P) (h : P volume) (path : Option Bytes) (place : Bool) :
    P (openStore volume path place).2.2 := by
  unfold openStore
  split
  · exact h
  split
  · exact h
  next path _ =>
    have hopen := Store.lasting_openWith hP h { path }
    split
    next hresult => exact of_result hopen hresult
    next hresult => exact of_result hopen hresult

theorem lasting_set (hP : Lasting P) (h : P volume) (medium : Medium) (store : Option Store)
    (key value : Option Bytes) : P (set medium volume store key value).2.2 := by
  unfold set
  split
  · exact h
  next store =>
    split
    · exact h
    next key _ =>
      split
      · exact h
      next value _ =>
        have hset := Store.lasting_set hP h medium store key value
        split
        next hresult => exact of_result hset (congrArg Prod.snd hresult)
        next hresult => exact of_result hset (congrArg Prod.snd hresult)

end Foreign

namespace CommandLine

theorem lasting_task (hP : Lasting P) (h : P volume) (store : Store) (task : Task) :
    P (task.run volume store).2 := by
  cases task with
  | get key => exact h
  | set key value => exact Store.lasting_set hP h (.limited none) store key value
  | keys => exact h
  | compact => exact Store.lasting_compact hP h (.limited none) store

theorem lasting_run (hP : Lasting P) (h : P volume) (words : List String) : P
    (run volume words).2 := by
  unfold run
  cases Request.ofWords words with
  | refused => exact h
  | help topic => exact h
  | version => exact h
  | run path action =>
    cases action with
    | verify => exact h
    | onStore task =>
      have hopen := Store.lasting_openWith hP h { path, createIfMissing := task.creates }
      simp only [Request.answer, Action.run]
      split
      next hresult => exact of_result hopen hresult
      next hresult => exact lasting_task hP (of_result hopen hresult) _ task

end CommandLine

/-! ## Sessions -/

namespace Session

theorem lasting_onObject (hP : Lasting P) (h : P volume) (path : String) (create : Bool)
    {change : Volume → Nat → DiskReply × Volume}
    (hchange : ∀ volume object, P volume → P (change volume object).2) :
    P (onObject volume path create change).2 := by
  have hopen := hP.openFile h path create
  unfold onObject
  split
  next hresult => exact of_result hopen hresult
  next hresult => exact hchange _ _ (of_result hopen hresult)

theorem lasting_ofFailure {result : Option SystemError × Volume} (h : P result.2) :
    P (ofFailure result).2 := by
  obtain ⟨_ | cause, after⟩ := result
  · exact h
  · exact h

/-- Work on the volume itself keeps what lasts. -/
theorem lasting_disk (hP : Lasting P) (h : P volume) (command : DiskCommand) :
    P (command.run volume).2 := by
  cases command with
  | write path bytes => exact lasting_onObject hP h _ _ fun _ _ h => hP.put h _ _
  | append path bytes => exact lasting_onObject hP h _ _ fun _ _ h => hP.append h _ _ _ _
  | overwrite path offset bytes =>
    exact lasting_onObject hP h _ _ fun _ _ h => hP.overwrite h _ _ _
  | resize path length => exact lasting_onObject hP h _ _ fun _ _ h => hP.resize h _ _ _
  | remove path => exact lasting_ofFailure (hP.remove h path)
  | rename source target => exact lasting_ofFailure (hP.rename h source target)
  | makeDirectory path => exact lasting_ofFailure (hP.makeDirectory h path)
  | removeDirectory path => exact lasting_ofFailure (hP.removeDirectory h path)
  | read path => exact lasting_onObject hP h _ _ fun _ _ h => h
  | list => exact h

variable {session : Session}

theorem lasting_onStore (hP : Lasting P) (h : P session.volume) (name : String) (store : Store)
    (command : StoreCommand) : P (session.onStore name store command).2.volume := by
  cases command with
  | set key value => exact Store.lasting_set hP h session.medium store key value
  | compact => exact Store.lasting_compact hP h session.medium store
  | get | contains | keys | iterate | info | close => exact h

theorem lasting_onFile (hP : Lasting P) (h : P session.volume) (name : String) (file : LogFile)
    (command : FileCommand) : P (session.onFile name file command).2.volume := by
  cases command with
  | append record => exact LogFile.lasting_append hP h session.medium file record
  | replay | readAt | sync | close => exact h

theorem lasting_onForeign (hP : Lasting P) (h : P session.volume) (command : ForeignCommand) :
    P (session.onForeign command).2.volume := by
  cases command with
  | openStore name path place => exact Foreign.lasting_openStore hP h path place
  | set handle key value =>
    simp only [onForeign]
    split
    · exact h
    · exact Foreign.lasting_set hP h session.medium _ key value
  | get | close | iterate | next | destroy =>
    simp only [onForeign]
    split <;> exact h
  | freeNull => exact h

/-- **A step keeps what lasts.** -/
theorem lasting_step (hP : Lasting P) (h : P session.volume) (command : Command) :
    P (session.step command).2.volume := by
  cases command with
  | limit limit => exact h
  | disk command => exact lasting_disk hP h command
  | openStore name settings =>
    have hopen := Store.lasting_openWith hP h settings
    simp only [step, openStore]
    split
    next hresult => exact of_result hopen hresult
    next hresult => exact of_result hopen hresult
  | store name command =>
    simp only [step]
    split
    · exact h
    · exact lasting_onStore hP h name _ command
  | verify path => exact h
  | openFile name path create sync =>
    have hopen := LogFile.lasting_openAt hP h path create sync
    simp only [step, openFile]
    split
    next hresult => exact of_result hopen hresult
    next hresult => exact of_result hopen hresult
  | file name command =>
    simp only [step]
    split
    · exact h
    · exact lasting_onFile hP h name _ command
  | foreign command => exact lasting_onForeign hP h command
  | cursor name query =>
    simp only [step]
    split <;> exact h
  | commandLine words => exact CommandLine.lasting_run hP h words

/-! ## Runs -/

/-- The session after some commands. -/
def after (session : Session) (commands : List Command) : Session :=
  commands.foldl (fun session command => (session.step command).2) session

@[simp] theorem after_nil (session : Session) : session.after [] = session := rfl

@[simp] theorem after_cons (session : Session) (command : Command) (commands : List Command) :
    session.after (command :: commands) = (session.step command).2.after commands := rfl

theorem after_append (session : Session) (earlier later : List Command) :
    session.after (earlier ++ later) = (session.after earlier).after later :=
  List.foldl_append

theorem zip_run_cons (session : Session) (command : Command) (commands : List Command) :
    (command :: commands).zip (session.run (command :: commands)) =
      (command, (session.step command).1) ::
        commands.zip ((session.step command).2.run commands) := rfl

/-- The commands of a run with what came of them, one part of the run after the other. -/
theorem zip_run_append (session : Session) (earlier later : List Command) :
    (earlier ++ later).zip (session.run (earlier ++ later)) =
      earlier.zip (session.run earlier) ++ later.zip ((session.after earlier).run later) := by
  induction earlier generalizing session with
  | nil => rfl
  | cons command earlier ih => exact congrArg (_ :: ·) (ih (session.step command).2)

/-- **A run keeps what lasts.** -/
theorem lasting_after (hP : Lasting P) (h : P session.volume) (commands : List Command) :
    P (session.after commands).volume := by
  induction commands generalizing session with
  | nil => exact h
  | cons command commands ih => exact ih (lasting_step hP h command)

/-! ## Sound sessions -/

/-- A step keeps the volume sound. -/
theorem sound_step (h : session.volume.Sound) (command : Command) :
    (session.step command).2.volume.Sound :=
  lasting_step Volume.lasting_sound h command

/-- **Every session that begins on an empty volume is sound**, whatever is done in it. -/
theorem sound_of_start (commands : List Command) : (start.after commands).volume.Sound :=
  lasting_after Volume.lasting_sound Volume.sound_empty commands

end Session
end KeyLog
