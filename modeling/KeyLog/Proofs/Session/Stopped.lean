import KeyLog.Proofs.Compaction.Stopped
import KeyLog.Proofs.Session.Canonical
import KeyLog.Proofs.Session.Twins

/-!
# After a compaction that was stopped

The process is gone in the middle of a compaction, and another one goes on with what is left on the
disk.  It finds a whole log at the path (`Compaction.Stopped.whole`), and perhaps a draft under the
temporary name.  The draft is in nobody's way: a compaction empties it before it writes.

* `Session.Indistinct.of_leftover`: nobody can tell whether something was left under the temporary
  name.
* `Session.stopped_compaction_is_recovered`: what is found after a compaction was stopped.
-/

namespace KeyLog
namespace Session

open Compaction (temporaryPath Stopped)

variable {session : Session} {name path : String} {commands : List Command} {store : Store}
  {left : Volume}

/-- **Nobody can tell whether a file was left under the temporary name**, whatever is in it. -/
theorem Indistinct.of_leftover (hsound : session.volume.Sound)
    (hclosed : session.stores.get? name = none) :
    session.Indistinct { session with volume := (session.volume.remove (temporaryPath path)).2 } name
      path := by
  rcases session.volume.undone_remove (temporaryPath path) with ⟨hsame, -⟩ | ⟨hidden, hdiscarded⟩
  · rw [hsame]
    exact fun later _ => ⟨rfl, rfl, rfl⟩
  · refine Twins.indistinct ⟨hdiscarded.twins hsound (by decide) (by decide), rfl, rfl, ?_⟩
    rw [hclosed]
    exact .none

/-- **A compaction that is stopped anywhere is recovered from.**  Somebody has one store at a time at
a path, a compaction of it is stopped, and this is the volume that it leaves.

At the path is the log as it was, or the complete log that a compaction writes, which is the
canonical one of the same contents.  The store can be opened there, with any settings, and then shows
the contents that it showed before the compaction.

And whoever goes on there, under any name, cannot tell that something was left under the temporary
name: so a later compaction has the same answer, and leaves the same bytes and the same index, as if
it had been taken away. -/
theorem stopped_compaction_is_recovered (hready : session.Ready name path)
    (hfits : ∀ bytes, session.volume.bytesAt? path = some bytes →
      bytes.length ≤ Medium.maxObjectSize)
    (hsole : ∀ command ∈ commands, command.Sole name path)
    (hstore : (session.after commands).stores.get? name = some store)
    (hstopped : Stopped (session.after commands).medium store.file
      (session.after commands).volume (.opening store.index.entries) left) :
    ∃ contents, store.Shows (session.after commands).volume contents ∧
      (left.bytesAt? path = (session.after commands).volume.bytesAt? path ∨
        ∃ compacted : Log, compacted.Canonical contents ∧
          left.bytesAt? path = some compacted.bytes) ∧
      (∀ settings : Settings, settings.path = path →
        ∃ reopened, Store.openWith left settings = (.ok reopened, left) ∧
          reopened.Shows left contents) ∧
      ∀ (next : Session) (other : String), next.volume = left → next.stores.get? other = none →
        next.Indistinct { next with volume := (left.remove (temporaryPath path)).2 } other path := by
  obtain ⟨first, hfirst⟩ := hready.follows
  obtain ⟨log, hfollows, -, hlogFits, -⟩ := run_follows hfirst hsole
  have hholds := hfollows.holds store hstore
  have hsize : log.bytes.length ≤ Medium.maxObjectSize := by
    refine hlogFits ?_
    rw [← hfirst.bytes]
    cases hbytes : session.volume.bytesAt? path with
    | none => exact Nat.zero_le _
    | some bytes => exact hfits bytes hbytes
  rw [hholds.index] at hstopped
  obtain ⟨hsound, object, hleads, hcontent⟩ := hstopped.whole ⟨hfollows.sound, hholds.file, rfl⟩
  have hbytes : left.bytesAt? path = some (left.content object) :=
    Volume.bytesAt?_eq_some_iff.2 ⟨object, hleads, rfl⟩
  refine ⟨log.contents, hholds.shows hsize, ?_, ?_, ?_⟩
  · rw [hholds.bytesAt?, hbytes]
    rcases hcontent with hold | hnew
    · exact .inl (congrArg some hold)
    · exact .inr ⟨log.compacted, log.canonical_compacted, congrArg some hnew⟩
  · rintro settings rfl
    rcases hcontent with hold | hnew
    · obtain ⟨reopened, hopen, hreopened⟩ := Store.openWith_of_leads hleads hold
      exact ⟨reopened, hopen, hreopened.shows hsize⟩
    · obtain ⟨reopened, hopen, hreopened⟩ := Store.openWith_of_leads hleads hnew
      have hcompactedSize := Nat.le_trans log.length_bytes_compacted_le hsize
      exact ⟨reopened, hopen, log.contents_compacted ▸ hreopened.shows hcompactedSize⟩
  · rintro next other rfl hclosed
    exact .of_leftover hsound hclosed

/-! ## A compaction that is stopped -/

/-- Opens what is there, compacts it and looks two keys up. -/
def recover : List Command :=
  [.openStore "s" { path := "heap" }, .store "s" .compact, .store "s" (.get "a"),
    .store "s" (.get "b")]

/-- The compaction is stopped when five bytes of its draft are written.  The log is the old one, its
values are found, and the five bytes are in nobody's way. -/
theorem stopped_compaction_is_recovered_setOnce :
    onTwiceSet.Ready "s" "heap" ∧
      (∀ bytes, onTwiceSet.volume.bytesAt? "heap" = some bytes →
        bytes.length ≤ Medium.maxObjectSize) ∧
      (∀ command ∈ setOnce, command.Sole "s" "heap") ∧
      ∃ store left, (onTwiceSet.after setOnce).stores.get? "s" = some store ∧
        Stopped (onTwiceSet.after setOnce).medium store.file (onTwiceSet.after setOnce).volume
          (.opening store.index.entries) left ∧
        (left.bytesAt? "heap.compact").map List.length = some 5 ∧
        (∃ reopened, Store.openWith left { path := "heap" } = (.ok reopened, left) ∧
          (reopened.get left "a").1 = .ok "2" ∧ (reopened.get left "b").1 = .ok "3") ∧
        Session.run { start with volume := left } recover =
          Session.run { start with volume := (left.remove "heap.compact").2 } recover := by
  have hfits : ∀ bytes, onTwiceSet.volume.bytesAt? "heap" = some bytes →
      bytes.length ≤ Medium.maxObjectSize := by
    intro bytes hbytes
    rw [bytesAt?_onTwiceSet] at hbytes
    rw [← Option.some.inj hbytes]
    decide +kernel
  have hsole : ∀ command ∈ setOnce, command.Sole "s" "heap" := history_setOnce.sole
  have hdraft : ((onTwiceSet.after setOnce).stores.get? "s").map (fun store =>
      ((Compaction.stopAfter (onTwiceSet.after setOnce).medium (.limited (some 5)) 3 store.file
          (onTwiceSet.after setOnce).volume (.opening store.index.entries)).bytesAt?
            "heap.compact").map List.length) = some (some 5) := by
    decide +kernel
  have hvalues : ((onTwiceSet.after setOnce).stores.get? "s").map (fun store =>
      ((store.get (onTwiceSet.after setOnce).volume "a").1,
        (store.get (onTwiceSet.after setOnce).volume "b").1)) = some (.ok "2", .ok "3") := by
    decide +kernel
  obtain ⟨store, hstore, hdraft⟩ := Option.map_eq_some_iff.1 hdraft
  rw [hstore, Option.map_some, Option.some.injEq, Prod.mk.injEq] at hvalues
  have hstopped := Compaction.stopped_stopAfter (onTwiceSet.after setOnce).medium
    (.limited (some 5)) 3 store.file (onTwiceSet.after setOnce).volume (.opening store.index.entries)
  obtain ⟨contents, hshows, -, hreopen, hleftover⟩ :=
    stopped_compaction_is_recovered ready_onTwiceSet hfits hsole hstore hstopped
  obtain ⟨reopened, hreopened, hagain⟩ := hreopen { path := "heap" } rfl
  have hrecover : ∀ command ∈ recover, command.Sole "s" "heap" := by
    simp [recover, Command.Sole]
  have hverify : ∀ command ∈ recover, ∀ text, command = .verify text → text = "heap" := by
    simp [recover]
  refine ⟨ready_onTwiceSet, hfits, hsole, store, _, hstore, hstopped, hdraft,
    ⟨reopened, hreopened, ?_, ?_⟩, ?_⟩
  · rw [hagain.get "a" rfl, ← hshows.get "a" rfl, hvalues.1]
  · rw [hagain.get "b" rfl, ← hshows.get "b" rfl, hvalues.2]
  · exact (hleftover { start with volume := _ } "s" rfl rfl recover fun command hcommand =>
      ⟨hrecover command hcommand, hverify command hcommand⟩).1

end Session
end KeyLog
