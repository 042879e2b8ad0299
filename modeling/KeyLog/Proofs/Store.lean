import KeyLog.Proofs.Compaction.Run
import KeyLog.Store.Compaction
import Mathlib.Data.Set.Card

/-!
# A store that holds a log

A store holds a log if its handle does and its index is that of the log.  This file has one law for
each operation of a store, for every medium on which a log can be cut back: what it makes of a store
that holds a log, and what it answers.

* `Store.openWith_of_leads`, `Store.openWith_of_not_leads`: an opened store holds the log that is
  there, and an empty one where none was.
* `Store.openWith_cases`: hence a store that can be opened holds some log.
* `Store.Holds.get_eq`: a look-up answers what the log says.
* `Store.Holds.set`: a `set` adds one record to the log, or fails and leaves the log.
* `Store.Holds.compact`: a compaction compacts the log, or fails and leaves it.
* `Store.Holds.shows`: the store answers like the finite map of the last values.
-/

namespace KeyLog

/-- What a look-up among some contents answers. -/
def Contents.get (contents : Contents) (key : String) : Except StoreError String :=
  match contents key with
  | none => .error .notFound
  | some value => .ok value

/-- A key and a value that are accepted become the record of the two. -/
theorem Admission.texts_of_accept {key value : String} {record : Record}
    (h : accept key value = .ok record) : record.key = key ∧ record.value = value := by
  unfold accept at h
  split at h
  · cases h
  split at h
  · cases h
  · cases h
    exact ⟨rfl, rfl⟩

namespace Store

/-- The store's handle holds the log, and its index is that of the log. -/
structure Holds (volume : Volume) (path : String) (store : Store) (log : Log) : Prop where
  file : store.file.Holds volume path log
  index : store.index = log.index

variable {volume : Volume} {path : String} {store : Store} {log : Log}

/-! ## Opening -/

/-- **A log that is there is opened**, whatever the other settings are, and nothing changes. -/
theorem openWith_of_leads {settings : Settings} {object : Nat}
    (hleads : volume.Leads settings.path object) (hcontent : volume.content object = log.bytes) :
    ∃ store, openWith volume settings = (.ok store, volume) ∧
      store.Holds volume settings.path log := by
  obtain ⟨superseded, -, hreplay⟩ :=
    LogFile.replay_of_content ⟨settings.path, object, volume.size object, 0, settings.sync⟩ hcontent
  have hopen := hleads.openFile settings.createIfMissing
  refine ⟨⟨settings, ⟨settings.path, object, log.bytes.length, log.bytes.length, settings.sync⟩,
    log.index, ⟨log.length, log.index.size, superseded, log.bytes.length⟩⟩, ?_, ?_⟩
  · simp only [openWith, LogFile.openAt, hopen, hreplay]
  · exact ⟨⟨rfl, hleads, hcontent, rfl⟩, rfl⟩

/-- Where no log is, opening fails and changes nothing, or makes an empty log. -/
theorem openWith_of_not_leads {settings : Settings}
    (hnone : ∀ object, ¬ volume.Leads settings.path object) :
    (∃ error, openWith volume settings = (.error error, volume)) ∨
      ∃ store after, openWith volume settings = (.ok store, after) ∧
        store.Holds after settings.path [] := by
  rcases Volume.openFile_cases volume settings.path settings.createIfMissing with
    ⟨object, hleads, -⟩ | ⟨cause, -, hopen⟩ | ⟨name, hcreate, hname, hlook, hopen⟩
  · exact absurd hleads (hnone object)
  · exact .inl ⟨.io cause, by simp only [openWith, LogFile.openAt, hopen]⟩
  · obtain ⟨hleads, hempty, -⟩ := Volume.leads_create hname hlook
    -- the file that was made can be opened like one that is there
    obtain ⟨store, hstore, hholds⟩ : ∃ store,
        openWith (volume.create name).2 settings = (.ok store, (volume.create name).2) ∧
          store.Holds (volume.create name).2 settings.path [] :=
      openWith_of_leads hleads hempty
    refine .inr ⟨store, (volume.create name).2, ?_, hholds⟩
    have hopen' := hleads.openFile settings.createIfMissing
    rw [← hstore]
    simp only [openWith, LogFile.openAt, hopen, hopen']

/-- **What comes of opening a store**: an error, or a store that holds what is there, or an empty log
where none was.  Only the last changes the volume. -/
theorem openWith_cases (volume : Volume) (settings : Settings) :
    (∃ error, openWith volume settings = (.error error, volume)) ∨
    (∃ store log, openWith volume settings = (.ok store, volume) ∧
      store.Holds volume settings.path log) ∨
    ((∀ object, ¬ volume.Leads settings.path object) ∧
      ∃ store after, openWith volume settings = (.ok store, after) ∧
        store.Holds after settings.path []) := by
  by_cases hleads : ∃ object, volume.Leads settings.path object
  · obtain ⟨object, hleads⟩ := hleads
    cases hreplay : Replay.ofBytes (volume.content object) with
    | ok replay =>
      obtain ⟨log, hlog⟩ := Replay.accepts_iff.1 ⟨replay, hreplay⟩
      obtain ⟨store, hopen, hholds⟩ := openWith_of_leads hleads hlog
      exact .inr (.inl ⟨store, log, hopen, hholds⟩)
    | error error =>
      have hopen := hleads.openFile settings.createIfMissing
      exact .inl ⟨error, by
        simp only [openWith, LogFile.openAt, hopen, LogFile.replay, Replay.ofSource_held, hreplay]⟩
  · have hnone : ∀ object, ¬ volume.Leads settings.path object := by
      intro object hobject
      exact hleads ⟨object, hobject⟩
    exact (openWith_of_not_leads hnone).imp id fun hopened => .inr ⟨hnone, hopened⟩

/-- A store that was opened holds a log. -/
theorem holds_of_openWith {settings : Settings} {after : Volume}
    (hopen : openWith volume settings = (.ok store, after)) :
    ∃ log, store.Holds after settings.path log := by
  rcases openWith_cases volume settings with
    ⟨error, herror⟩ | ⟨opened, log, hopened, hholds⟩ | ⟨-, opened, made, hopened, hholds⟩
  · cases herror.symm.trans hopen
  · cases hopened.symm.trans hopen
    exact ⟨log, hholds⟩
  · cases hopened.symm.trans hopen
    exact ⟨[], hholds⟩

/-! ## Looking up -/

/-- **A look-up answers what the log says**, if the log is no larger than objects can be. -/
theorem Holds.get_eq (h : store.Holds volume path log)
    (hsize : log.bytes.length ≤ Medium.maxObjectSize) {key : String}
    (hkey : Admission.checkKey key = .ok ()) :
    (store.get volume key).1 = log.contents.get key := by
  cases hfind : log.index.find? key with
  | none =>
    have hnone : log.contents key = none := by
      have hlast := Log.isSome_find?_index log key
      rw [hfind, Option.isSome_none, ← Log.isSome_contents] at hlast
      exact Option.not_isSome_iff_eq_none.1 (by simp [← hlast])
    simp only [get, hkey, h.index, hfind, Contents.get, hnone]
  | some span =>
    obtain ⟨record, hlast, hrecord⟩ := h.file.recordAt hfind
    have hrecordKey : record.key = key := (Log.last?_eq_some_iff.1 hlast).1
    have hnear : ¬ Medium.maxObjectSize < span.stop :=
      Nat.not_lt.2 (Nat.le_trans (Log.stop_le_of_find?_index hfind).2 hsize)
    rw [if_neg hnear] at hrecord
    have hvalue : log.contents key = some record.value := by
      rw [Log.contents, hlast, Option.map_some]
    simp only [get, hkey, h.index, hfind, LogFile.readAt, hrecord, if_pos hrecordKey, Contents.get,
      hvalue]

/-- Stores that hold one log answer every look-up alike, however large the log is. -/
theorem Holds.get_congr (h : store.Holds volume path log) {other : Store} {otherVolume : Volume}
    {otherPath : String} (h' : other.Holds otherVolume otherPath log) (key : String) :
    (store.get volume key).1 = (other.get otherVolume key).1 := by
  cases hkey : Admission.checkKey key with
  | error error => simp only [Store.get, hkey]
  | ok _ =>
    cases hfind : log.index.find? key with
    | none => simp only [Store.get, hkey, h.index, h'.index, hfind]
    | some span =>
      obtain ⟨record, hlast, hrecord⟩ := h.file.recordAt hfind
      obtain ⟨_, hlast', hrecord'⟩ := h'.file.recordAt hfind
      cases hlast.symm.trans hlast'
      have hsame : store.file.recordAt volume span = other.file.recordAt otherVolume span :=
        hrecord.trans hrecord'.symm
      simp only [Store.get, hkey, h.index, h'.index, hfind, LogFile.readAt, hsame]
      cases other.file.recordAt otherVolume span <;> rfl

/-- A look-up changes nothing but where the handle stands. -/
theorem Holds.get (h : store.Holds volume path log) (key : String) :
    (store.get volume key).2.Holds volume path log := by
  unfold Store.get
  split
  · exact h
  · split
    · exact h
    next span _ =>
      have hmoved := h.file.move (store.file.positionAfter volume span)
      simp only [LogFile.readAt]
      split
      next hread =>
        obtain ⟨-, rfl⟩ := Prod.mk.inj hread
        exact ⟨hmoved, h.index⟩
      next hread =>
        obtain ⟨-, rfl⟩ := Prod.mk.inj hread
        exact ⟨hmoved, h.index⟩

/-! ## Setting -/

/-- **A `set` adds one record to the log, or fails and leaves the log**, and then nothing but where
the handle stands can be different. -/
theorem Holds.set (h : store.Holds volume path log) {medium : Medium} (hshrinks : medium.Shrinks)
    (key value : String) :
    (∃ record next after, store.set medium volume key value = (.ok (), next, after) ∧
      next.Holds after path (log ++ [record]) ∧ record.key = key ∧ record.value = value ∧
        medium.cutOff store.file.position log.bytes.length record.size = none ∧
          (store.file.StandsNear → next.file.StandsNear)) ∨
    (∃ error position after, store.set medium volume key value =
        (.error error, { store with file := { store.file with position } }, after) ∧
      volume.Within after store.file.object ∧
        Holds after path { store with file := { store.file with position } } log ∧
          (store.file.StandsNear → LogFile.StandsNear { store.file with position })) := by
  cases haccept : Admission.accept key value with
  | error error =>
    exact .inr ⟨error, store.file.position, volume, by simp only [Store.set, haccept],
      .refl volume _, h, id⟩
  | ok record =>
    obtain ⟨hkey, hvalue⟩ := Admission.texts_of_accept haccept
    rcases h.file.append hshrinks record with
      ⟨moved, after, happend, -, hholds, hcut, hnear⟩ |
        ⟨cause, position, after, happend, hwithin, hholds, hnear⟩
    · refine .inl ⟨record, { store with
        file := moved, index := store.index.insert key ⟨log.bytes.length, record.size⟩ }, after, ?_,
        ⟨hholds, ?_⟩, hkey, hvalue, hcut, hnear⟩
      · simp only [Store.set, haccept, happend]
      · show store.index.insert key ⟨log.bytes.length, record.size⟩ = _
        rw [Log.index_concat, h.index, hkey]
    · refine .inr ⟨.io cause, position, after, ?_, hwithin, ⟨hholds, h.index⟩, hnear⟩
      simp only [Store.set, haccept, happend]

/-! ## Compacting -/

/-- **A compaction compacts the log, or fails and leaves it.** -/
theorem Holds.compact (h : store.Holds volume path log) (hsound : volume.Sound) (medium : Medium) :
    (∃ stats next after, store.compact medium volume = (.ok stats, next, after) ∧
      next.Holds after path log.compacted) ∨
    (∃ error next after, store.compact medium volume = (.error error, next, after) ∧
      next.Holds after path log) := by
  have hended : Compaction.Ended path log
      (Compaction.run medium store.file volume (.opening log.index.entries)) :=
    Compaction.run_opening hsound h.file
  rw [← h.index] at hended
  cases hrun : Compaction.run medium store.file volume (.opening store.index.entries) with
  | mk outcome rest =>
    obtain ⟨moved, after⟩ := rest
    rw [hrun] at hended
    cases outcome with
    | error error =>
      have hholds : moved.Holds after path log := hended
      refine .inr ⟨error, { store with file := moved }, after, ?_, ⟨hholds, h.index⟩⟩
      simp only [Store.compact, hrun]
    | ok new =>
      obtain ⟨file, index⟩ := new
      obtain ⟨hholds, hindex⟩ := hended
      refine .inl ⟨⟨store.index.size, store.file.length, file.length⟩, { store with file, index },
        after, ?_, ⟨hholds, hindex⟩⟩
      simp only [Store.compact, hrun]

/-! ## Looking at a store -/

/-- What a store answers is what it would answer if it were a finite map with these contents. -/
structure Shows (volume : Volume) (store : Store) (contents : Contents) : Prop where
  /-- A look-up answers the value of each key that may be asked for. -/
  get : ∀ key, Admission.checkKey key = .ok () → (store.get volume key).1 = contents.get key
  contains : ∀ key, store.contains key = (contents key).isSome
  mem_keys : ∀ key, key ∈ store.keys.pending ↔ (contents key).isSome
  /-- The keys come in strictly ascending byte order, so none comes twice. -/
  ascending : store.keys.pending.Pairwise Utf8.Before
  size : store.size = {key | (contents key).isSome}.ncard
  isEmpty : store.isEmpty = true ↔ ∀ key, contents key = none

theorem Holds.contains_eq (h : store.Holds volume path log) (key : String) :
    store.contains key = (log.contents key).isSome := by
  rw [Store.contains, Index.contains, h.index, Log.isSome_find?_index, Log.isSome_contents]

theorem Holds.mem_keys_iff (h : store.Holds volume path log) (key : String) :
    key ∈ store.keys.pending ↔ (log.contents key).isSome := by
  rw [keys, Index.snapshot, Index.mem_keys_iff, h.index, Log.isSome_find?_index,
    Log.isSome_contents]

/-- The size of a store is the number of keys for which the log says a value. -/
theorem Holds.size_eq (h : store.Holds volume path log) :
    store.size = {key | (log.contents key).isSome}.ncard := by
  have hkeys : {key | (log.contents key).isSome} = ↑store.keys.pending.toFinset := by
    ext key
    rw [Set.mem_ofPred_eq, List.coe_toFinset, Set.mem_ofPred_eq, h.mem_keys_iff]
  have hnodup : store.keys.pending.Nodup := store.index.nodup_keys
  rw [hkeys, Set.ncard_coe_finset, List.toFinset_card_of_nodup hnodup]
  show store.index.size = store.index.keys.length
  rw [Index.length_keys]

theorem Holds.isEmpty_iff (h : store.Holds volume path log) :
    store.isEmpty = true ↔ ∀ key, log.contents key = none := by
  have hkeys : store.isEmpty = true ↔ store.keys.pending = [] := by
    show store.index.entries.isEmpty = true ↔ store.index.entries.map Prod.fst = []
    rw [List.isEmpty_iff, List.map_eq_nil_iff]
  rw [hkeys, List.eq_nil_iff_forall_not_mem]
  refine forall_congr' fun key => ?_
  rw [h.mem_keys_iff, Bool.not_eq_true, Option.isSome_eq_false_iff, Option.isNone_iff_eq_none]

/-- **A store that holds a log shows what the log says**, if the log is no larger than objects can
be. -/
theorem Holds.shows (h : store.Holds volume path log)
    (hsize : log.bytes.length ≤ Medium.maxObjectSize) : store.Shows volume log.contents where
  get _ hkey := h.get_eq hsize hkey
  contains := h.contains_eq
  mem_keys := h.mem_keys_iff
  ascending := store.index.pairwise_keys
  size := h.size_eq
  isEmpty := h.isEmpty_iff

end Store
end KeyLog
