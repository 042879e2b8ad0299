import KeyLog.Proofs.Log.Altered
import KeyLog.Proofs.Source.Ending
import KeyLog.Session.Run

/-!
# Verifying and opening

Two ways lead to a replay of the log at a path.  To verify it, what the path leads to is opened for
reading alone.  A store is opened for writing as well.  They do not fail at the same point: a
directory can be opened for reading, and only the first read fails, but it cannot be opened for
writing.  And a store goes on counting its log where the replay stopped.  This file says that the
two come to the same end everywhere.

* `Volume.openToRead`, `Replay.verifyByReading`: a verification step by step.
* `Volume.openFile_eq_openToRead`: opening for writing fails where opening for reading or the first
  read does.
* `Store.openWith_eq_verify`: hence what opening a store comes to.
* `Session.verifying_agrees_with_opening`: a verification tells how opening ends, and neither changes
  anything.
-/

namespace KeyLog

variable {volume : Volume} {path : String}

/-! ## Opening for reading alone -/

namespace Volume

/-- Opens what a path leads to for reading alone, and be it a directory. -/
def openToRead (volume : Volume) (text : String) : Except SystemError Node :=
  match volume.locate text with
  | .error cause => .error cause
  | .ok .directory => .ok .directory
  | .ok (.name path asDirectory) =>
    match volume.lookUp path with
    | .error cause => .error cause
    | .ok none => .error .noEntry
    | .ok (some .directory) => .ok .directory
    | .ok (some (.file object)) =>
      if asDirectory then .error .notDirectory else .ok (.file object)

/-- What comes of reading a node that was opened: the bytes of a file, and a failure if it is a
directory. -/
def reading (volume : Volume) : Node → Source
  | .file object => .ofSparse (volume.held object)
  | .directory => [.failure .isDirectory]

/-- What a node that is opened for writing as well comes to: directories are refused. -/
def toWrite : Node → Except SystemError Nat
  | .file object => .ok object
  | .directory => .error .isDirectory

/-- Opening for writing as well ends like opening for reading alone, except that directories are
refused at once. -/
theorem openFile_eq_openToRead (volume : Volume) (text : String) :
    volume.openFile text false = ((volume.openToRead text).bind toWrite, volume) := by
  cases hplace : volume.locate text with
  | error cause => simp only [openFile, openToRead, hplace, Except.bind]
  | ok place =>
    cases place with
    | directory => simp only [openFile, openToRead, hplace, Except.bind, toWrite]
    | name path asDirectory =>
      cases hnode : volume.lookUp path with
      | error cause =>
        simp only [openFile, openToRead, hplace, hnode, Bool.false_and, Bool.false_eq_true, if_false,
          Except.bind]
      | ok node =>
        simp only [openFile, openToRead, hplace, hnode, Bool.false_and, Bool.false_eq_true, if_false]
        rcases node with _ | object | _
        · rfl
        · cases asDirectory <;> rfl
        · rfl

end Volume

namespace Replay

/-- A verification step by step: what the path leads to is opened for reading alone, and what is
read is replayed. -/
def verifyByReading (volume : Volume) (path : String) : Except StoreError ReplayStats :=
  match volume.openToRead path with
  | .error cause => .error (.io cause)
  | .ok node => (ofSource (volume.reading node)).map Replay.stats

/-- A replay of a source that fails at once reports the failure. -/
theorem ofSource_failure (cause : SystemError) (rest : Source) :
    ofSource (.failure cause :: rest) = .error (.io cause) := by
  have hfails : (Scanner.start (.failure cause :: rest)).source.Delivers [] (some cause) :=
    .fails cause rest
  obtain ⟨after, hnext, -⟩ := Scanner.nextRecord_of_nil hfails
  rw [ofSource, resume_eq, hnext]

/-- **A verification** is one step by step: it makes no difference whether a directory is refused
when it is opened or when it is read. -/
theorem verify_eq_verifyByReading (volume : Volume) (path : String) :
    verify volume path = verifyByReading volume path := by
  rw [verify, volume.openFile_eq_openToRead, verifyByReading]
  cases volume.openToRead path with
  | error cause => rfl
  | ok node =>
    cases node with
    | directory =>
      dsimp only
      rw [Volume.reading, ofSource_failure]
      rfl
    | file object =>
      dsimp only [Volume.reading, Except.bind, Volume.toWrite]
      cases ofSource (.ofSparse (volume.held object)) <;> rfl

/-- What a verification says of a file is what a replay of its bytes says. -/
theorem verify_of_leads {object : Nat} (h : volume.Leads path object) :
    verify volume path = (ofBytes (volume.content object)).map Replay.stats :=
  verify_of_bytesAt? (Volume.bytesAt?_eq_some_iff.2 ⟨object, h, rfl⟩)

/-- Where no file is, a verification fails, and not for damage. -/
theorem verify_of_not_leads (h : ∀ object, ¬ volume.Leads path object) :
    ∃ cause, verify volume path = .error (.io cause) := by
  rcases Volume.openFile_cases volume path false with
    ⟨object, hleads, -⟩ | ⟨cause, -, hopen⟩ | ⟨name, hcreate, -⟩
  · exact absurd hleads (h object)
  · exact ⟨cause, by rw [verify, hopen]⟩
  · cases hcreate

end Replay

/-! ## Opening a store -/

namespace Store

/-- **Opening a store whose log must be there** comes to what a verification of the log comes to, and
changes nothing.  The store counts on from the end of the replay. -/
theorem openWith_eq_verify (volume : Volume) (path : String) (sync : SyncPolicy) :
    (∃ store, openWith volume { path, createIfMissing := false, sync } = (.ok store, volume) ∧
      Replay.verify volume path = .ok store.opening ∧ store.logSize = store.opening.bytes) ∨
    ∃ error, openWith volume { path, createIfMissing := false, sync } = (.error error, volume) ∧
      Replay.verify volume path = .error error := by
  rw [openWith, LogFile.openAt, Replay.verify, volume.openFile_eq_openToRead]
  cases volume.openToRead path with
  | error cause => exact .inr ⟨_, rfl, rfl⟩
  | ok node =>
    cases node with
    | directory => exact .inr ⟨_, rfl, rfl⟩
    | file object =>
      dsimp only [LogFile.replay, Except.bind, Volume.toWrite]
      cases Replay.ofSource (.ofSparse (volume.held object)) with
      | error error => exact .inr ⟨error, rfl, rfl⟩
      | ok replay => exact .inl ⟨_, rfl, rfl, rfl⟩

end Store

/-! ## Both in a session -/

/-- **A verification tells how opening ends.**  Take any session, any path, whatever stands there, and
any store that is to be opened at the path without creating a log.

* A verification succeeds if and only if opening does, and its counts are those that the store has
  from its replay.  If they fail, they fail with the same error, whether the path, the reading or the
  log is at fault: the kind is the same, and so are the offset and the reason of damage.
* Where the path leads to a file, both say what a replay of its bytes says; where it does not, both
  fail with an error of the file system.
* Nothing changes by a verification, and by opening no file and no name does.
* All this holds also if the verification is looked at step by step. -/
theorem Session.verifying_agrees_with_opening (session : Session) (name path : String)
    (sync : SyncPolicy) :
    (∀ stats, Replay.verify session.volume path = .ok stats ↔
      ∃ store, Store.openWith session.volume { path, createIfMissing := false, sync } =
        (.ok store, session.volume) ∧ store.opening = stats ∧ store.logSize = stats.bytes) ∧
    (∀ error, Replay.verify session.volume path = .error error ↔
      Store.openWith session.volume { path, createIfMissing := false, sync } =
        (.error error, session.volume)) ∧
    (∀ object, session.volume.Leads path object →
      Replay.verify session.volume path =
        (Replay.ofBytes (session.volume.content object)).map Replay.stats) ∧
    ((∀ object, ¬ session.volume.Leads path object) →
      ∃ cause, Replay.verify session.volume path = .error (.io cause)) ∧
    session.step (.verify path) = (.verified (Replay.verify session.volume path), session) ∧
    (session.step (.openStore name { path, createIfMissing := false, sync })).2.volume =
      session.volume ∧
    Replay.verify session.volume path = Replay.verifyByReading session.volume path := by
  refine ⟨?_, ?_, fun object => Replay.verify_of_leads, Replay.verify_of_not_leads, rfl, ?_,
    Replay.verify_eq_verifyByReading _ _⟩
  · intro stats
    rcases Store.openWith_eq_verify session.volume path sync with
      ⟨store, hopen, hverify, hsize⟩ | ⟨error, hopen, hverify⟩
    · rw [hopen, hverify]
      constructor
      · rintro ⟨rfl⟩
        exact ⟨store, rfl, rfl, hsize⟩
      · rintro ⟨other, hother, rfl, -⟩
        cases hother
        rfl
    · rw [hopen, hverify]
      refine iff_of_false (fun h => nomatch h) ?_
      rintro ⟨store, hstore, -⟩
      cases hstore
  · intro error
    rcases Store.openWith_eq_verify session.volume path sync with
      ⟨store, hopen, hverify, -⟩ | ⟨other, hopen, hverify⟩
    · rw [hopen, hverify]
      exact iff_of_false (fun h => nomatch h) fun h => nomatch h
    · rw [hopen, hverify, Prod.mk.injEq, Except.error.injEq, Except.error.injEq]
      exact (and_iff_left rfl).symm
  · rcases Store.openWith_eq_verify session.volume path sync with
      ⟨store, hopen, -⟩ | ⟨error, hopen, -⟩
    · simp only [step, openStore, hopen]
    · simp only [step, openStore, hopen]

end KeyLog
