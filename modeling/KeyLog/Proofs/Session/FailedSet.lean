import KeyLog.Proofs.Session.Alike
import KeyLog.Proofs.Session.Refinement
import KeyLog.Proofs.Session.Standing

/-!
# A `set` that fails leaves no trace

A `set` fails because its key or its value is not accepted, or because the write is cut off.  In the
second case some bytes of the record may be on the disk already, and the handle takes them back.
What is left then is what was there before, but for the place where the handle stands: it may stand
behind bytes that are gone.

* `Session.Follows.alike_of_failed_set`: the session before and the session afterwards are alike.
* `Session.failed_set_leaves_no_trace`: hence nothing that is done later can tell them apart.

## What the place of a handle can do

The disk refuses to append a record for which there is no place behind the handle, even if there is
one at the end of the object (`Medium.cutAt`).  A handle that has been moved can meet that only where
the log has come within two records of the largest size that an object can have, since no handle
stands further than one record behind the end (`Session.standing_after`).
-/

namespace KeyLog

/-- Volumes are alike if nothing but the bytes of one object can have changed, and these have not. -/
theorem Volume.Within.alike {volume after : Volume} {object : Nat}
    (h : volume.Within after object) (hcontent : after.content object = volume.content object) :
    volume.Alike after := by
  refine ⟨h.entries.symm, h.fresh.symm, ?_⟩
  intro other
  by_cases hsame : other = object
  · rw [hsame, hcontent]
  · rw [h.content other hsame]

namespace LogFile

/-- A handle near the end of a log that is not within two records of the largest size has room. -/
theorem StandsNear.hasRoom {file : LogFile} (h : file.StandsNear)
    (hsize : file.length + 2 * Layout.maxRecordSize ≤ Medium.maxObjectSize) : file.HasRoom := by
  have hposition : file.position ≤ file.length + Layout.maxRecordSize := h
  unfold HasRoom
  omega

end LogFile

namespace Session

variable {session failed : Session} {name path : String} {log : Log} {commands : List Command}
  {store : Store} {key value : String} {error : StoreError} {state : Option StoreState}

/-- What a `set` that fails leaves: the same bytes everywhere, and the same store but for where its
handle stands. -/
theorem Follows.failed_set (h : session.Follows name path log)
    (hfailed : session.step (.store name (.set key value)) =
      (.store (.error error) state, failed)) :
    ∃ store position, session.stores.get? name = some store ∧
      failed = { session with
        volume := failed.volume
        stores := session.stores.assign name
          { store with file := { store.file with position } } } ∧
      state = some (storeState store) ∧ session.volume.Alike failed.volume ∧
      (store.file.StandsNear → LogFile.StandsNear { store.file with position }) := by
  cases hstore : session.stores.get? name with
  | none => simp only [step, hstore, Prod.mk.injEq, reduceCtorEq, false_and] at hfailed
  | some store =>
    rcases h.step_set hstore key value with
      ⟨record, moved, volume, hset, -⟩ |
        ⟨_, position, moved, volume, hset, rfl, hwithin, hmoved, hnear⟩
    · cases hset.symm.trans hfailed
    · cases hset.symm.trans hfailed
      have hcontent : volume.content store.file.object =
          session.volume.content store.file.object := by
        rw [(h.holds store hstore).file.content]
        exact hmoved.file.content
      exact ⟨store, position, rfl, rfl, rfl, hwithin.alike hcontent, hnear⟩

/-- **After a `set` that fails the session is like the one before**, if the handle has not moved or
has room where it stands. -/
theorem Alike.of_failed_set {position : Nat} (hstore : session.stores.get? name = some store)
    (hfailed : failed = { session with
      volume := failed.volume
      stores := session.stores.assign name { store with file := { store.file with position } } })
    (hvolume : session.volume.Alike failed.volume)
    (hposition : store.file.position = position ∨
      store.file.HasRoom ∧ LogFile.HasRoom { store.file with position }) :
    session.Alike failed name := by
  rw [hfailed]
  refine ⟨hvolume, rfl, rfl, ?_⟩
  rw [hstore, Handles.get?_assign_self]
  exact .some ⟨⟨_, rfl⟩, ⟨position, rfl⟩, hposition⟩

/-- **A `set` that fails leaves no trace**, be it that the key or the value is not accepted or that
the write is cut off after any number of bytes.  The bytes at every path are those from before, and
the open store is the same, with its index, its keys and its length, but for where its handle
stands; so its state is answered as it was.

Whatever is done later then has the answers that it would have had without the `set`, and leaves the
same bytes.  This takes nothing if the handle has not moved; if it has, the log must not be within
two records of the largest size that an object can have. -/
theorem failed_set_leaves_no_trace (hready : session.Ready name path)
    (hsole : ∀ command ∈ commands, command.Sole name path)
    (hfailed : (session.after commands).step (.store name (.set key value)) =
      (.store (.error error) state, failed)) :
    ∃ store position, (session.after commands).stores.get? name = some store ∧
      failed.stores.get? name = some { store with file := { store.file with position } } ∧
      state = some (storeState store) ∧
      (∀ text, failed.volume.bytesAt? text = (session.after commands).volume.bytesAt? text) ∧
      (position = store.file.position ∨
          store.logSize + 2 * Layout.maxRecordSize ≤ Medium.maxObjectSize →
        ∀ later : List Command, (∀ command ∈ later, command.Sole name path) →
          failed.run later = (session.after commands).run later ∧
          ∀ text, (failed.after later).volume.bytesAt? text =
            ((session.after commands).after later).volume.bytesAt? text) := by
  obtain ⟨first, hfirst⟩ := hready.follows
  obtain ⟨log, hfollows, -⟩ := run_follows hfirst hsole
  have hclosed : session.Standing name := by
    intro store hstore
    rw [hready.closed] at hstore
    cases hstore
  have hstanding := standing_after hclosed hfirst hsole
  obtain ⟨store, position, hstore, heq, hstate, hvolume, hnear⟩ := hfollows.failed_set hfailed
  refine ⟨store, position, hstore, ?_, hstate, fun text => (hvolume.bytesAt? text).symm, ?_⟩
  · rw [heq, Handles.get?_assign_self]
  · intro hcase later hlater
    have hposition : store.file.position = position ∨
        store.file.HasRoom ∧ LogFile.HasRoom { store.file with position } := by
      rcases hcase with hsame | hsize
      · exact .inl hsame.symm
      · have hbefore := hstanding store hstore
        exact .inr ⟨hbefore.hasRoom hsize, (hnear hbefore).hasRoom hsize⟩
    obtain ⟨hanswers, hafter⟩ := (Alike.of_failed_set hstore heq hvolume hposition).run hlater
    exact ⟨hanswers.symm, fun text => (hafter.volume.bytesAt? text).symm⟩

/-! ## A `set` that fails -/

/-- The store has answered with an error. -/
def Answer.isError : Answer → Bool
  | .store (.error _) _ => true
  | _ => false

theorem eq_error_of_isError {answer : Answer} (h : answer.isError = true) :
    ∃ error state, answer = .store (.error error) state := by
  cases answer with
  | store result state =>
    cases result with
    | ok reply => cases h
    | error error => exact ⟨error, state, rfl⟩
  | _ => cases h

/-- Opens the store on its 22 bytes and leaves room for three bytes more. -/
def narrow : List Command := [.openStore "s" { path := "heap" }, .limit (some 25)]

/-- Lifts the limit, sets another key and asks for both. -/
def goOn : List Command :=
  [.limit none, .store "s" (.set "c" "4"), .store "s" (.get "b"), .store "s" (.get "c")]

/-- Three bytes of a record have been stored and taken back, and nobody can tell. -/
theorem failed_set_leaves_no_trace_narrow :
    onTwiceSet.Ready "s" "heap" ∧ (∀ command ∈ narrow, command.Sole "s" "heap") ∧
      ∃ error state failed, (onTwiceSet.after narrow).step (.store "s" (.set "b" "3")) =
          (.store (.error error) state, failed) ∧
        failed.volume.bytesAt? "heap" = some twiceSet.bytes ∧
        failed.run goOn = (onTwiceSet.after narrow).run goOn := by
  have hsole : ∀ command ∈ narrow, command.Sole "s" "heap" := by simp [narrow, Command.Sole]
  have hgoOn : ∀ command ∈ goOn, command.Sole "s" "heap" := by simp [goOn, Command.Sole]
  have herror : ((onTwiceSet.after narrow).step (.store "s" (.set "b" "3"))).1.isError = true := by
    decide +kernel
  obtain ⟨error, state, hanswer⟩ := eq_error_of_isError herror
  have hfailed : (onTwiceSet.after narrow).step (.store "s" (.set "b" "3")) =
      (.store (.error error) state,
        ((onTwiceSet.after narrow).step (.store "s" (.set "b" "3"))).2) := by
    rw [← hanswer]
  obtain ⟨store, position, hstore, -, -, hbytes, hlater⟩ :=
    failed_set_leaves_no_trace ready_onTwiceSet hsole hfailed
  have hsize : ((onTwiceSet.after narrow).stores.get? "s").map Store.logSize = some 22 := by
    decide +kernel
  rw [hstore, Option.map_some, Option.some.injEq] at hsize
  refine ⟨ready_onTwiceSet, hsole, error, state, _, hfailed, ?_, ?_⟩
  · rw [hbytes]
    decide +kernel
  · have hroom : store.logSize + 2 * Layout.maxRecordSize ≤ Medium.maxObjectSize := by
      rw [hsize]
      decide
    exact (hlater (.inr hroom) goOn hgoOn).1

end Session
end KeyLog
