import KeyLog.Proofs.Session.Sole

/-!
# A store is a finite map

The two laws of a session in which somebody has one store at a time at a path and nobody else
touches it.  Whatever is done, in any order and as long as it may be, and whatever the size limit
cuts off:

* `Session.run_coherent`: the file and the open store agree, that is, a replay of the bytes at the
  path finds the index that the store has.
* `Session.run_refines_map`: the store answers like the finite map that starts with the last values
  of the file and changes with each `set` that goes through.

Both follow from the log that the session follows (`Session.run_follows`): the first because an open
store holds that log, the second because the log says the values of the map.
-/

namespace KeyLog
namespace Session

variable {session : Session} {name path : String} {commands : List Command}

/-! ## A session to look at -/

/-- Two records of one key. -/
def twiceSet : Log :=
  [⟨"a", "1", by decide +kernel, by decide +kernel, by decide +kernel⟩,
    ⟨"a", "2", by decide +kernel, by decide +kernel, by decide +kernel⟩]

/-- A session on a volume with one file, which holds the two records. -/
def onTwiceSet : Session :=
  { start with volume := ⟨[(["heap"], .file 0)], [(0, .ofBytes twiceSet.bytes)], 1⟩ }

/-- Opens the store and sets a key, lets a `set` and a compaction fail, compacts without a limit,
and closes the store and opens it again. -/
def roundTrip : List Command :=
  [.openStore "s" { path := "heap" }, .store "s" (.set "b" "3"), .limit (some 1),
    .store "s" (.set "c" "4"), .store "s" .compact, .limit none, .store "s" .compact,
    .store "s" .close, .openStore "s" { path := "heap", createIfMissing := false }]

theorem bytesAt?_onTwiceSet : onTwiceSet.volume.bytesAt? "heap" = some twiceSet.bytes := by
  decide +kernel

theorem ready_onTwiceSet : onTwiceSet.Ready "s" "heap" where
  sound := by
    constructor
    · exact List.pairwise_singleton _ _
    · intro entry hentry object hobject
      rw [List.mem_singleton.1 hentry] at hobject
      cases hobject
      exact Nat.zero_lt_one
  closed := rfl
  accepted := by
    intro bytes hbytes
    rw [bytesAt?_onTwiceSet] at hbytes
    exact Replay.accepts_iff.2 ⟨twiceSet, (Option.some.inj hbytes).symm⟩

theorem sole_roundTrip : ∀ command ∈ roundTrip, command.Sole "s" "heap" := by
  simp [roundTrip, Command.Sole]

/-! ## The file and the store -/

/-- **The file and the store agree in every state.**  What is at the path can be replayed.  The
handle of an open store has the object at the path and knows its length, and a replay of the bytes
finds the same keys at the same places as the index of the store, and counts as many keys and
bytes. -/
theorem run_coherent (hready : session.Ready name path)
    (hsole : ∀ command ∈ commands, command.Sole name path) :
    (∀ bytes, (session.after commands).volume.bytesAt? path = some bytes →
      ∃ replay, Replay.ofBytes bytes = .ok replay) ∧
    ∀ store, (session.after commands).stores.get? name = some store →
      ∃ bytes replay, (session.after commands).volume.bytesAt? path = some bytes ∧
        (session.after commands).volume.content store.file.object = bytes ∧
        store.file.length = bytes.length ∧
        Replay.ofBytes bytes = .ok replay ∧ replay.index = store.index ∧
        replay.stats.liveKeys = store.size ∧ replay.stats.bytes = store.logSize := by
  obtain ⟨first, hfirst⟩ := hready.follows
  obtain ⟨log, hfollows, -⟩ := run_follows hfirst hsole
  obtain ⟨superseded, -, hreplay⟩ := Replay.ofBytes_log log
  constructor
  · intro bytes hbytes
    have hlog : bytes = log.bytes := by
      rw [← hfollows.bytes, hbytes, Option.getD_some]
    exact Replay.accepts_iff.2 ⟨log, hlog⟩
  · intro store hstore
    have hholds := hfollows.holds store hstore
    refine ⟨log.bytes, _, hholds.bytesAt?, hholds.file.content, hholds.file.length, hreplay,
      hholds.index.symm, ?_, hholds.file.length.symm⟩
    show log.index.size = store.index.size
    rw [hholds.index]

/-- A `set` and a compaction have failed, and the file and the reopened store agree. -/
theorem run_coherent_roundTrip :
    onTwiceSet.Ready "s" "heap" ∧ (∀ command ∈ roundTrip, command.Sole "s" "heap") ∧
      ∃ store bytes replay, (onTwiceSet.after roundTrip).stores.get? "s" = some store ∧
        (onTwiceSet.after roundTrip).volume.bytesAt? "heap" = some bytes ∧
        store.file.length = bytes.length ∧ Replay.ofBytes bytes = .ok replay ∧
        replay.index = store.index := by
  have hopen : ((onTwiceSet.after roundTrip).stores.get? "s").isSome := by decide +kernel
  obtain ⟨store, hstore⟩ := Option.isSome_iff_exists.1 hopen
  obtain ⟨bytes, replay, hbytes, -, hlength, hreplay, hindex, -⟩ :=
    (run_coherent ready_onTwiceSet sole_roundTrip).2 store hstore
  exact ⟨ready_onTwiceSet, sole_roundTrip, store, bytes, replay, hstore, hbytes, hlength, hreplay,
    hindex⟩

/-! ## The store and the map -/

/-- **A store is a finite map.**  Let the contents start as the last value of each key in the file,
and change with each `set` that was answered with success and with nothing else.  Then in every
state an open store shows these contents: so do all its answers.  And once there is a file, from the
beginning or because a store has been opened, every later opening succeeds, changes nothing, and
gives a store that shows them.

The only thing asked of the size of the file is that an object can have it. -/
theorem run_refines_map (hready : session.Ready name path)
    (hfits : ∀ bytes, session.volume.bytesAt? path = some bytes →
      bytes.length ≤ Medium.maxObjectSize)
    (hsole : ∀ command ∈ commands, command.Sole name path) :
    ∃ log : Log, (session.volume.bytesAt? path).getD [] = log.bytes ∧
      (∀ store, (session.after commands).stores.get? name = some store →
        store.Shows (session.after commands).volume
          (log.contents.after (commands.zip (session.run commands)))) ∧
      ∀ earlier later, commands = earlier ++ later →
        ((session.after earlier).volume.bytesAt? path).isSome ∨
          ((session.after earlier).stores.get? name).isSome →
        ∀ settings : Settings, settings.path = path →
          ∃ store, Store.openWith (session.after commands).volume settings =
              (.ok store, (session.after commands).volume) ∧
            store.Shows (session.after commands).volume
              (log.contents.after (commands.zip (session.run commands))) := by
  obtain ⟨log, hfollows⟩ := hready.follows
  have hsize : log.bytes.length ≤ Medium.maxObjectSize := by
    rw [← hfollows.bytes]
    cases hbytes : session.volume.bytesAt? path with
    | none => exact Nat.zero_le _
    | some bytes => exact hfits bytes hbytes
  obtain ⟨last, hlast, hcontents, hlastFits, -⟩ := run_follows hfollows hsole
  refine ⟨log, hfollows.bytes, ?_⟩
  rw [← hcontents]
  constructor
  · intro store hstore
    exact (hlast.holds store hstore).shows (hlastFits hsize)
  · intro earlier later hcommands hthere settings hpath
    subst hcommands
    -- the file that was there after the earlier commands has stayed
    have hearlier : ∀ command ∈ earlier, Command.Sole name path command := by
      intro command hcommand
      exact hsole command (List.mem_append_left _ hcommand)
    have hlater : ∀ command ∈ later, Command.Sole name path command := by
      intro command hcommand
      exact hsole command (List.mem_append_right _ hcommand)
    obtain ⟨middle, hmiddle, -⟩ := run_follows hfollows hearlier
    have hfile : ((session.after earlier).volume.bytesAt? path).isSome :=
      hthere.elim id hmiddle.isSome_of_store
    obtain ⟨-, -, -, -, hremains⟩ := run_follows hmiddle hlater
    rw [session.after_append] at hlast ⊢
    obtain ⟨store, hopen, hholds⟩ := hlast.openWith (hremains hfile) hpath
    exact ⟨store, hopen, hholds.shows (hlastFits hsize)⟩

/-- The key that was in the file and the key that was set keep their values, and the key whose `set`
failed has none. -/
theorem run_refines_map_roundTrip :
    onTwiceSet.Ready "s" "heap" ∧
      (∀ bytes, onTwiceSet.volume.bytesAt? "heap" = some bytes →
        bytes.length ≤ Medium.maxObjectSize) ∧
      (∀ command ∈ roundTrip, command.Sole "s" "heap") ∧
      ∃ store, (onTwiceSet.after roundTrip).stores.get? "s" = some store ∧
        (store.get (onTwiceSet.after roundTrip).volume "a").1 = .ok "2" ∧
        (store.get (onTwiceSet.after roundTrip).volume "b").1 = .ok "3" ∧
        (store.get (onTwiceSet.after roundTrip).volume "c").1 = .error .notFound := by
  have hfits : ∀ bytes, onTwiceSet.volume.bytesAt? "heap" = some bytes →
      bytes.length ≤ Medium.maxObjectSize := by
    intro bytes hbytes
    rw [bytesAt?_onTwiceSet] at hbytes
    rw [← Option.some.inj hbytes]
    decide +kernel
  have hopen : ((onTwiceSet.after roundTrip).stores.get? "s").isSome := by decide +kernel
  obtain ⟨store, hstore⟩ := Option.isSome_iff_exists.1 hopen
  obtain ⟨log, hlog, hshows, -⟩ := run_refines_map ready_onTwiceSet hfits sole_roundTrip
  rw [bytesAt?_onTwiceSet, Option.getD_some] at hlog
  rw [← Log.bytes_injective hlog] at hshows
  have hget := (hshows store hstore).get
  have ha : twiceSet.contents.after (roundTrip.zip (onTwiceSet.run roundTrip)) "a" = some "2" := by
    decide +kernel
  have hb : twiceSet.contents.after (roundTrip.zip (onTwiceSet.run roundTrip)) "b" = some "3" := by
    decide +kernel
  have hc : twiceSet.contents.after (roundTrip.zip (onTwiceSet.run roundTrip)) "c" = none := by
    decide +kernel
  refine ⟨ready_onTwiceSet, hfits, sole_roundTrip, store, hstore, ?_, ?_, ?_⟩
  · rw [hget "a" rfl, Contents.get, ha]
  · rw [hget "b" rfl, Contents.get, hb]
  · rw [hget "c" rfl, Contents.get, hc]

end Session
end KeyLog
