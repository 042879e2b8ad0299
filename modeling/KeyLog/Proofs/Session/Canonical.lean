import KeyLog.Proofs.Log.Canonical
import KeyLog.Proofs.Session.Refinement

/-!
# What a compaction writes

A compaction that goes through writes the canonical log of the contents (`Log.Canonical`), whatever
has been done before.  So the bytes are known from the contents, and two stores with the same
contents have the same bytes once both are compacted.

* `Session.History`: what has been done with one store, and the contents it came to.
* `Session.Follows.compact`: a compaction that goes through takes the session to the compacted log.
* `Session.Follows.compact_compacted`: a compaction of a compacted log leaves it, even if it fails.
* `Session.compaction_is_canonical`: hence the bytes depend on the contents alone.
-/

namespace KeyLog
namespace Session

/-- Somebody has one store at a time at a path, and its contents are these in the end: they start as
the last value of each key in the file and change with each `set` that goes through. -/
structure History (session : Session) (name path : String) (commands : List Command)
    (contents : Contents) : Prop where
  ready : session.Ready name path
  sole : ∀ command ∈ commands, command.Sole name path
  contents : ∃ log : Log, (session.volume.bytesAt? path).getD [] = log.bytes ∧
    contents = log.contents.after (commands.zip (session.run commands))

/-- The store has answered with success. -/
def Answer.isOk : Answer → Bool
  | .store (.ok _) _ => true
  | _ => false

/-- A compaction of the store goes through, and this is the session afterwards. -/
def Compacts (session : Session) (name : String) (after : Session) : Prop :=
  (session.step (.store name .compact)).1.isOk = true ∧
    (session.step (.store name .compact)).2 = after

variable {session after : Session} {name path : String} {log : Log} {commands : List Command}
  {contents : Contents} {store : Store}

/-- A history ends with a log that says its contents. -/
theorem History.follows (h : session.History name path commands contents) :
    ∃ log, (session.after commands).Follows name path log ∧ log.contents = contents := by
  obtain ⟨first, hfirst, hcontents⟩ := h.contents
  obtain ⟨start, hstart⟩ := h.ready.follows
  have hsame : start = first := Log.bytes_injective (hstart.bytes.symm.trans hfirst)
  obtain ⟨last, hlast, hlastContents, -⟩ := run_follows hstart h.sole
  refine ⟨last, hlast, ?_⟩
  rw [hlastContents, hsame, hcontents]

/-! ## One compaction -/

/-- **A compaction that goes through** takes the session to the compacted log, which an open store
then holds. -/
theorem Follows.compact (h : session.Follows name path log) (hcompact : session.Compacts name after) :
    after.Follows name path log.compacted ∧
      ∃ store, after.stores.get? name = some store ∧ store.Holds after.volume path log.compacted := by
  obtain ⟨hok, rfl⟩ := hcompact
  cases hstore : session.stores.get? name with
  | none =>
    simp only [step, hstore, Answer.isOk, Bool.false_eq_true] at hok
  | some store =>
    rcases h.step_compact hstore with
      ⟨stats, moved, volume, hstep, hmoved⟩ | ⟨error, moved, volume, hstep, -⟩
    · have hfollows := (takes_of_holds h hstep (Handles.get?_assign_self ..) hmoved
        log.contents_compacted (Nat.le_trans log.length_bytes_compacted_le)).follows
      rw [hstep] at hfollows ⊢
      exact ⟨hfollows, moved, Handles.get?_assign_self .., hmoved⟩
    · rw [hstep] at hok
      cases hok

/-- **A compaction of a compacted log leaves it**, whether it goes through or not. -/
theorem Follows.compact_compacted (h : session.Follows name path log.compacted)
    (hstore : session.stores.get? name = some store) :
    ∃ again, (session.step (.store name .compact)).2.stores.get? name = some again ∧
      again.Holds (session.step (.store name .compact)).2.volume path log.compacted := by
  rcases h.step_compact hstore with
    ⟨stats, moved, volume, hstep, hmoved⟩ | ⟨error, moved, volume, hstep, hmoved⟩
  · rw [hstep]
    rw [log.compacted_compacted] at hmoved
    exact ⟨moved, Handles.get?_assign_self .., hmoved⟩
  · rw [hstep]
    exact ⟨moved, Handles.get?_assign_self .., hmoved⟩

/-! ## The bytes and the contents -/

/-- **A compaction that goes through writes the canonical log of the contents.**  The file then has
the encodings of one record for each key that has a value, with that value, in ascending byte order
of the keys, and nothing else.  The index has these keys, and points each of them at its own record.

Hence two stores with the same contents have the same bytes when both are compacted, whatever was
done with them before and wherever they are.  And a second compaction, under any size limit and
whether it goes through or not, leaves the bytes, the index and the answer of every look-up. -/
theorem compaction_is_canonical (h : session.History name path commands contents)
    (hcompact : (session.after commands).Compacts name after) :
    (∃ (store : Store) (written : Log), after.stores.get? name = some store ∧
      after.volume.bytesAt? path = some written.bytes ∧ written.Canonical contents ∧
      store.keys.pending = written.map Record.key ∧
      ∀ (front back : Log) (record : Record), written = front ++ record :: back →
        store.index.find? record.key = some ⟨front.bytes.length, record.encode.length⟩) ∧
    (∀ (other otherAfter : Session) (otherName otherPath : String) (otherCommands : List Command),
      other.History otherName otherPath otherCommands contents →
      (other.after otherCommands).Compacts otherName otherAfter →
        otherAfter.volume.bytesAt? otherPath = after.volume.bytesAt? path) ∧
    ∀ (store : Store) (limit : Option Nat), after.stores.get? name = some store →
      ∃ again,
        (after.after [.limit limit, .store name .compact]).stores.get? name = some again ∧
        (after.after [.limit limit, .store name .compact]).volume.bytesAt? path =
          after.volume.bytesAt? path ∧
        again.index = store.index ∧
        ∀ key, (again.get (after.after [.limit limit, .store name .compact]).volume key).1 =
          (store.get after.volume key).1 := by
  obtain ⟨log, hlog, hcontents⟩ := h.follows
  obtain ⟨hfollows, new, hnew, hholds⟩ := hlog.compact hcompact
  have hcanonical : log.compacted.Canonical contents := hcontents ▸ log.canonical_compacted
  refine ⟨⟨new, log.compacted, hnew, hholds.bytesAt?, hcanonical, ?_, ?_⟩, ?_, ?_⟩
  · show new.index.keys = _
    rw [hholds.index, hcanonical.keys_index]
  · intro front back record hsplit
    rw [hholds.index]
    exact hcanonical.find?_index hsplit
  · intro other otherAfter otherName otherPath otherCommands hother hotherCompact
    obtain ⟨otherLog, hotherLog, hotherContents⟩ := hother.follows
    obtain ⟨-, otherStore, -, hotherHolds⟩ := hotherLog.compact hotherCompact
    have hotherCanonical : otherLog.compacted.Canonical contents :=
      hotherContents ▸ otherLog.canonical_compacted
    rw [hotherHolds.bytesAt?, hholds.bytesAt?, hotherCanonical.unique hcanonical]
  · intro store limit hstore
    cases hnew.symm.trans hstore
    have hlimited : Follows { after with limit } name path log.compacted :=
      ⟨hfollows.sound, hfollows.bytes, hfollows.holds⟩
    obtain ⟨again, hagain, hagainHolds⟩ := hlimited.compact_compacted hnew
    refine ⟨again, hagain, ?_, ?_, hagainHolds.get_congr hholds⟩
    · exact hagainHolds.bytesAt?.trans hholds.bytesAt?.symm
    · rw [hagainHolds.index, hholds.index]

/-! ## Two histories to look at -/

/-- A `set` that went through changes the contents at its key. -/
theorem next_of_isOk {key value : String} {answer : Answer} (h : answer.isOk = true) :
    contents.next (.store name (.set key value), answer) =
      Function.update contents key (some value) := by
  cases answer with
  | store result state =>
    cases result with
    | ok reply => rfl
    | error error => cases h
  | _ => cases h

/-- Opens the store and sets a second key. -/
def setOnce : List Command := [.openStore "s" { path := "heap" }, .store "s" (.set "b" "3")]

/-- Opens the store, sets a second key, compacts the store, sets the key again, closes the store and
opens it once more. -/
def setTwice : List Command :=
  [.openStore "s" { path := "heap" }, .store "s" (.set "b" "9"), .store "s" .compact,
    .store "s" (.set "b" "3"), .store "s" .close, .openStore "s" { path := "heap" }]

theorem history_setOnce : onTwiceSet.History "s" "heap" setOnce
    (Function.update twiceSet.contents "b" (some "3")) where
  ready := ready_onTwiceSet
  sole := by simp [setOnce, Command.Sole]
  contents := by
    have hset : ((onTwiceSet.after (setOnce.take 1)).step (.store "s" (.set "b" "3"))).1.isOk =
        true := by decide +kernel
    refine ⟨twiceSet, by rw [bytesAt?_onTwiceSet, Option.getD_some], ?_⟩
    exact (next_of_isOk hset).symm

theorem history_setTwice : onTwiceSet.History "s" "heap" setTwice
    (Function.update twiceSet.contents "b" (some "3")) where
  ready := ready_onTwiceSet
  sole := by simp [setTwice, Command.Sole]
  contents := by
    have hfirst : ((onTwiceSet.after (setTwice.take 1)).step (.store "s" (.set "b" "9"))).1.isOk =
        true := by decide +kernel
    have hsecond : ((onTwiceSet.after (setTwice.take 3)).step (.store "s" (.set "b" "3"))).1.isOk =
        true := by decide +kernel
    have hafter : twiceSet.contents.after (setTwice.zip (onTwiceSet.run setTwice)) =
        Function.update (twiceSet.contents.next (.store "s" (.set "b" "9"),
          ((onTwiceSet.after (setTwice.take 1)).step (.store "s" (.set "b" "9"))).1)) "b"
          (some "3") := next_of_isOk hsecond
    refine ⟨twiceSet, by rw [bytesAt?_onTwiceSet, Option.getD_some], ?_⟩
    rw [hafter, next_of_isOk hfirst, Function.update_idem]

/-- Both histories end with the same contents, and the compacted files are the same: first the key
that was there, then the one that was set. -/
theorem compaction_is_canonical_setOnce :
    onTwiceSet.History "s" "heap" setOnce (Function.update twiceSet.contents "b" (some "3")) ∧
      ∃ after, (onTwiceSet.after setOnce).Compacts "s" after ∧
        ∃ store, after.stores.get? "s" = some store ∧ store.keys.pending = ["a", "b"] ∧
          ∃ otherAfter, (onTwiceSet.after setTwice).Compacts "s" otherAfter ∧
            otherAfter.volume.bytesAt? "heap" = after.volume.bytesAt? "heap" := by
  have hcompact : (onTwiceSet.after setOnce).Compacts "s" (onTwiceSet.after (setOnce ++
      [.store "s" .compact])) := ⟨by decide +kernel, rfl⟩
  have hotherCompact : (onTwiceSet.after setTwice).Compacts "s" (onTwiceSet.after (setTwice ++
      [.store "s" .compact])) := ⟨by decide +kernel, rfl⟩
  obtain ⟨⟨store, written, hstore, hbytes, -, hkeys, -⟩, hsame, -⟩ :=
    compaction_is_canonical history_setOnce hcompact
  have hwritten : (onTwiceSet.after (setOnce ++ [.store "s" .compact])).volume.bytesAt? "heap" =
      some (Log.bytes (twiceSet.drop 1 ++
        [⟨"b", "3", by decide +kernel, by decide +kernel, by decide +kernel⟩])) := by
    decide +kernel
  have hlog := Log.bytes_injective (Option.some.inj (hbytes.symm.trans hwritten))
  refine ⟨history_setOnce, _, hcompact, store, hstore, ?_, _, hotherCompact,
    hsame _ _ _ _ _ history_setTwice hotherCompact⟩
  rw [hkeys, hlog]
  rfl

end Session
end KeyLog
