import KeyLog.Proofs.Session.Compaction
import KeyLog.Proofs.Session.Twins

/-!
# A compaction that fails leaves no trace

A compaction can fail in many places: the temporary name cannot be opened, a record cannot be read
back, a write to the draft is cut off, or the draft cannot take the name of the log.  Each time the
file of the temporary name is taken away, and the old handle and index stay in use.

* `Session.Indistinct.of_failed_compaction`: so nobody can tell afterwards that there was a
  compaction.
* `Session.failed_compaction_leaves_no_trace`: this for a store that is open in any session.

## What it takes

The temporary name is the store's own: what it leads to is emptied, and removed in the end.  If
somebody has moved the log itself there, then the log is emptied.

And a compaction reads through the handle, so the handle stands elsewhere afterwards.  That shows
where a record had no place behind the handle before, or has none afterwards
(`Medium.cutAt`): in an object that has been, or that the store takes to be, within one record of the
largest size.

Both are shown on examples (`Session.failed_compaction_leaves_trace`).
-/

namespace KeyLog
namespace Session

open Compaction (temporaryPath)

variable {session failed : Session} {commands : List Command} {name : String} {store : Store}
  {error : StoreError} {state : Option StoreState}

/-- **After a compaction that failed nobody can tell the session from the one before**, if the log
was not at the temporary name and the handle has not moved or has room where it stands. -/
theorem Indistinct.of_failed_compaction {volume : Volume} {position : Nat}
    (hsound : session.volume.Sound) (hstore : session.stores.get? name = some store)
    (hknown : store.Known session.volume)
    (hundone : session.volume.Undone volume (temporaryPath store.settings.path))
    (hfree : ¬ session.volume.Leads (temporaryPath store.settings.path) store.file.object)
    (hposition : store.file.position = position ∨
      store.file.HasRoom ∧ LogFile.HasRoom { store.file with position }) :
    session.Indistinct
      { session with
        volume
        stores := session.stores.assign name { store with file := { store.file with position } } }
      name store.settings.path := by
  rcases hundone with ⟨rfl, -⟩ | ⟨hidden, hdiscarded⟩
  · -- nothing has been drafted
    refine Alike.indistinct ⟨⟨rfl, rfl, fun _ => rfl⟩, rfl, rfl, ?_⟩
    rw [hstore, Handles.get?_assign_self]
    exact .some ⟨⟨_, rfl⟩, ⟨position, rfl⟩, hposition⟩
  · refine Twins.indistinct ⟨hdiscarded.twins hsound (by decide) (by decide), rfl, rfl, ?_⟩
    rw [hstore, Handles.get?_assign_self]
    exact .some ⟨⟨_, rfl⟩, hknown.path, ⟨_, position, rfl⟩, ⟨rfl, hknown.object, hfree⟩, hposition⟩

/-- **A compaction that fails leaves no trace.**  This is for a store that is open in any session,
whatever has been done in it, and for every way to fail: the temporary name cannot be opened, a
record with a live key cannot be read back, the write of the draft is cut off at any byte, or the
draft cannot take the name of the log since a directory has taken it.

The store is the same, with its index and its length, but for where its handle stands; so its state
is answered as it was.  What is found at its path is what was found there, with the same bytes, and
the temporary name leads to no file.

If the temporary name did not lead to the log itself, the log has its bytes.  And then nobody who
goes on with the store, and opens it again when he likes, can tell that there was a compaction.
This takes nothing more if the handle has not moved.  If it has, there must be room for a record
behind the place where it stood and behind the log. -/
theorem failed_compaction_leaves_no_trace
    (hstore : (start.after commands).stores.get? name = some store)
    (hfailed : (start.after commands).step (.store name .compact) =
      (.store (.error error) state, failed)) :
    ∃ position,
      failed = { start.after commands with
        volume := failed.volume
        stores := (start.after commands).stores.assign name
          { store with file := { store.file with position } } } ∧
      state = some (storeState store) ∧
      failed.volume.entryAt store.settings.path =
        (start.after commands).volume.entryAt store.settings.path ∧
      failed.volume.bytesAt? store.settings.path =
        (start.after commands).volume.bytesAt? store.settings.path ∧
      (∀ object, ¬ failed.volume.Leads (temporaryPath store.settings.path) object) ∧
      (¬ (start.after commands).volume.Leads (temporaryPath store.settings.path) store.file.object →
        failed.volume.content store.file.object =
            (start.after commands).volume.content store.file.object ∧
          (position = store.file.position ∨ store.file.HasRoom ∧
              store.logSize + Layout.maxRecordSize ≤ Medium.maxObjectSize →
            (start.after commands).Indistinct failed name store.settings.path)) := by
  have hsound : (start.after commands).volume.Sound := sound_of_start commands
  have hknown := (known_of_start commands).of_get? hstore
  rcases step_compact_cases hstore hknown with
    ⟨stats, new, index, volume, records, hstep, -⟩ |
      ⟨cause, position, volume, hstep, hposition, hundone⟩
  · cases hstep.symm.trans hfailed
  · cases hstep.symm.trans hfailed
    refine ⟨position, rfl, rfl, hundone.entryAt (by decide) (by decide),
      hundone.bytesAt? hsound (by decide) (by decide), hundone.not_leads, fun hfree =>
        ⟨(hundone.keeps hknown.object hfree).content, fun hcase => ?_⟩⟩
    refine .of_failed_compaction hsound hstore hknown hundone hfree ?_
    rcases hcase with hsame | ⟨hroom, hsize⟩
    · exact .inl hsame.symm
    · rcases hposition with hsame | hbefore
      · exact .inl hsame.symm
      · exact .inr ⟨hroom, Nat.le_trans (Nat.add_le_add_right hbefore _) hsize⟩

/-! ## A compaction that fails -/

/-- Sets a key twice, and leaves no room for the record in a draft. -/
def tightly : List Command :=
  [.openStore "s" { path := "heap" }, .store "s" (.set "a" "1"), .store "s" (.set "a" "2"),
    .limit (some 5)]

/-- Five bytes have been drafted and taken away, and nobody can tell. -/
theorem failed_compaction_leaves_no_trace_tightly :
    ∃ store error state failed, (start.after tightly).stores.get? "s" = some store ∧
      (start.after tightly).step (.store "s" .compact) = (.store (.error error) state, failed) ∧
      (∀ object, ¬ (start.after tightly).volume.Leads (temporaryPath store.settings.path) object) ∧
      (∀ object, ¬ failed.volume.Leads (temporaryPath store.settings.path) object) ∧
      failed.run goOn = (start.after tightly).run goOn := by
  have herror : ((start.after tightly).step (.store "s" .compact)).1.isError = true := by
    decide +kernel
  obtain ⟨error, state, hanswer⟩ := eq_error_of_isError herror
  have hopen : ((start.after tightly).stores.get? "s").map
      (fun store => (store.settings.path, store.file.position, store.logSize)) =
        some ("heap", 22, 22) := by
    decide +kernel
  obtain ⟨store, hstore, hopen⟩ := Option.map_eq_some_iff.1 hopen
  obtain ⟨hpath, hposition, hsize⟩ : store.settings.path = "heap" ∧ store.file.position = 22 ∧
      store.logSize = 22 := by
    simpa only [Prod.mk.injEq] using hopen
  have hfree : ∀ object,
      ¬ (start.after tightly).volume.Leads (temporaryPath store.settings.path) object := by
    intro object hleads
    have hbytes := Volume.bytesAt?_eq_some_iff.2 ⟨object, hleads, rfl⟩
    rw [hpath, show (start.after tightly).volume.bytesAt? (temporaryPath "heap") = none by
      decide +kernel] at hbytes
    cases hbytes
  obtain ⟨position, -, -, -, -, hgone, hrest⟩ :=
    failed_compaction_leaves_no_trace hstore (Prod.ext hanswer rfl)
  refine ⟨store, error, state, _, hstore, Prod.ext hanswer rfl, hfree, hgone, ?_⟩
  have hroom : store.file.HasRoom ∧
      store.logSize + Layout.maxRecordSize ≤ Medium.maxObjectSize := by
    rw [LogFile.HasRoom, hposition, hsize]
    decide
  have hgoOn : ∀ command ∈ goOn, command.Sole "s" store.settings.path := by
    simp [goOn, Command.Sole]
  have hverify : ∀ command ∈ goOn, ∀ text, command = .verify text → text = store.settings.path := by
    simp [goOn]
  have hsame := (hrest (hfree _)).2 (.inr hroom) goOn fun command hcommand =>
    ⟨hgoOn command hcommand, hverify command hcommand⟩
  exact hsame.1.symm

/-! ## Two compactions that show -/

/-- Sets a key, and moves the log to the temporary name. -/
def movedAway : List Command :=
  [.openStore "s" { path := "heap" }, .store "s" (.set "a" "1"),
    .disk (.rename "heap" "heap.compact")]

/-- Sets a key behind a log that has been made nearly as large as objects can be, and cuts the log
again, so that the handle stands far behind its end and the bytes of that key are zeros. -/
def farBehind : List Command :=
  [.openStore "s" { path := "heap" }, .store "s" (.set "k" "v"),
    .disk (.resize "heap" (Medium.maxObjectSize - 11)), .store "s" (.set "b" "w"),
    .disk (.resize "heap" 22)]

/-- If the log is at the temporary name, a compaction fails and the value that was there is gone.  And
where the handle stands too far behind to set a key, a compaction fails and then the key can be set. -/
theorem failed_compaction_leaves_trace :
    (((start.after movedAway).step (.store "s" .compact)).1.isError = true ∧
      (start.after movedAway).lookupError "s" "a" = none ∧
      ((start.after movedAway).step (.store "s" .compact)).2.lookupError "s" "a" =
        some (.corruption 0 .shortRead)) ∧
    ((start.after farBehind).step (.store "s" .compact)).1.isError = true ∧
      ((start.after farBehind).step (.store "s" (.set "c" "1"))).1.isError = true ∧
      ((((start.after farBehind).step (.store "s" .compact)).2).step
        (.store "s" (.set "c" "1"))).1.isOk = true := by
  decide +kernel

end Session
end KeyLog
