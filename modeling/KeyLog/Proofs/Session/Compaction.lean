import KeyLog.Proofs.Session.Canonical
import KeyLog.Proofs.Session.FailedSet
import KeyLog.Proofs.Session.Known
import KeyLog.Proofs.Session.Lookup

/-!
# Compacting a log that was changed behind the store

A compaction reads again what lies at the places of the index, as a look-up does, and so it meets the
damage that a look-up would report: bytes that are missing, or that are no record.  It then fails and
leaves the log.  But it does not look at the keys of what it reads.  Where a sound record of another
key lies, a look-up reports damage and a compaction copies the record.

* `Session.step_compact_cases`: what comes of a compaction in any session.
* `Session.compaction_detects_damage`: what it finds, and what is found when the log is opened again.
* `Session.compaction_launders_swapped`: a record of another key goes through.
-/

namespace KeyLog

/-! ## Stores -/

namespace Store

variable {volume : Volume} {store : Store} {records : Log}

/-- The records that were found lie at the places of the entries. -/
theorem hasAt_of_found (h : Compaction.Found volume store.file store.index.entries records) :
    List.Forall₂ (fun entry record => volume.HasAt store.file.object entry.2 record)
      store.index.entries records :=
  h.imp fun _ _ hrecord => (LogFile.recordAt_eq_ok_iff.1 hrecord).2.2

/-- A record was found for every key that has a value. -/
theorem exists_of_found (h : Compaction.Found volume store.file store.index.entries records)
    {key : String} {span : Span} (hfind : store.index.find? key = some span) :
    ∃ record ∈ records, store.file.recordAt volume span = .ok record := by
  have hmem : (key, span) ∈ store.index.entries := Index.mem_entries_iff.2 hfind
  generalize store.index.entries = entries at h hmem
  induction h with
  | nil => cases hmem
  | @cons entry record _ _ hrecord _ ih =>
    rcases List.mem_cons.1 hmem with rfl | hlater
    · exact ⟨record, List.mem_cons_self, hrecord⟩
    · obtain ⟨other, hother, hfound⟩ := ih hlater
      exact ⟨other, List.mem_cons_of_mem _ hother, hfound⟩

/-- Where a record was found for every key, a look-up can only report a record of another key. -/
theorem wrongKey_of_found (h : Compaction.Found volume store.file store.index.entries records)
    {key : String} (hkey : Admission.checkKey key = .ok ()) {offset : Nat} {reason : Corruption}
    (hget : (store.get volume key).1 = .error (.corruption offset reason)) :
    ∃ record ∈ records, record.key ≠ key ∧ reason = .wrongKey key record.key := by
  cases hfind : store.index.find? key with
  | none => simp only [get, hkey, hfind, Except.error.injEq, reduceCtorEq] at hget
  | some span =>
    obtain ⟨record, hmem, hrecord⟩ := exists_of_found h hfind
    rw [get_of_find? hkey hfind, hrecord] at hget
    dsimp only at hget
    split at hget
    · cases hget
    next hother =>
      cases hget
      exact ⟨record, hmem, hother, rfl⟩

/-- Where every look-up of a key answers a value, the records that were found are of these keys. -/
theorem keys_of_found (h : Compaction.Found volume store.file store.index.entries records)
    (hget : ∀ key ∈ store.keys.pending, ∃ value, (store.get volume key).1 = .ok value) :
    records.map Record.key = store.keys.pending := by
  have hentries : ∀ entry ∈ store.index.entries, store.index.find? entry.1 = some entry.2 ∧
      ∃ value, (store.get volume entry.1).1 = .ok value :=
    fun entry hentry => ⟨Index.mem_entries_iff.1 hentry, hget _ (List.mem_map_of_mem hentry)⟩
  have hsame : List.Forall₂ (fun entry record => entry.1 = record.key) store.index.entries records :=
    ((List.forall₂_and_left _ _).2 ⟨hentries, h⟩).imp fun entry record hboth => by
      obtain ⟨⟨hfind, value, hvalue⟩, hrecord⟩ := hboth
      cases hkey : Admission.checkKey entry.1 with
      | error error => simp only [get, hkey, reduceCtorEq] at hvalue
      | ok _ =>
        rw [get_of_find? hkey hfind, hrecord] at hvalue
        dsimp only at hvalue
        split at hvalue
        next hrecordKey => exact hrecordKey.symm
        · cases hvalue
  have hmap : List.Forall₂ Eq (store.index.entries.map Prod.fst) (records.map Record.key) :=
    List.forall₂_map_left_iff.2 (List.forall₂_map_right_iff.2 hsame)
  rw [List.forall₂_eq_eq_eq] at hmap
  exact hmap.symm

/-- **A log of records is opened** with the keys of the records. -/
theorem openWith_of_records {settings : Settings} {object : Nat}
    (hleads : volume.Leads settings.path object) (hcontent : volume.content object = records.bytes) :
    ∃ opened, openWith volume settings = (.ok opened, volume) ∧
      ∀ key, key ∈ opened.keys.pending ↔ key ∈ records.map Record.key := by
  obtain ⟨opened, hopen, hholds⟩ := openWith_of_leads hleads hcontent
  refine ⟨opened, hopen, fun key => ?_⟩
  rw [hholds.mem_keys_iff, Log.isSome_contents, Log.isSome_last?_iff]

end Store

/-! ## Sessions -/

namespace Session

open Compaction (temporaryPath Found)

variable {session : Session} {commands : List Command} {name : String} {store : Store}

/-- **What comes of a compaction in any session**, whatever has happened to the log: the records that
lie at the places of the index are the new log, or nothing but the file of the temporary name is
different. -/
theorem step_compact_cases (hstore : session.stores.get? name = some store)
    (hknown : store.Known session.volume) :
    (∃ stats new index volume records, session.step (.store name .compact) =
        (.store (.ok (.compacted stats)) (some (storeState { store with file := new, index })),
          { session with
            volume, stores := session.stores.assign name { store with file := new, index } }) ∧
      Found session.volume store.file store.index.entries records ∧
      (∀ key, key ∈ index.keys ↔ key ∈ store.keys.pending) ∧
      volume.Leads store.settings.path new.object ∧ volume.content new.object = records.bytes) ∨
    ∃ error position volume, session.step (.store name .compact) =
        (.store (.error error) (some (storeState store)),
          { session with
            volume
            stores := session.stores.assign name
              { store with file := { store.file with position } } }) ∧
      (position = store.file.position ∨ position ≤ store.logSize) ∧
      session.volume.Undone volume (temporaryPath store.settings.path) := by
  have hstep : session.step (.store name .compact) = session.onStore name store .compact := by
    simp only [step, hstore]
  rw [hstep, ← hknown.path]
  rcases store.compact_cases hknown.object session.medium with
    ⟨stats, new, index, volume, records, hcompact, -, hfound, hkeys, hleads, hcontent⟩ |
      ⟨error, position, volume, hcompact, hposition, hundone⟩
  · refine .inl ⟨stats, new, index, volume, records, ?_, hfound, fun key => ?_, hleads, hcontent⟩
    · simp only [onStore, hcompact]
      rfl
    · rw [Index.mem_keys_iff]
      exact hkeys key
  · refine .inr ⟨error, position, volume, ?_, hposition, hundone⟩
    simp only [onStore, hcompact]
    rfl

/-- **A compaction detects damage, but not a record of another key.**  This is for a store that is
open in any session, whatever has happened to its log since it was opened.

If a look-up of an accepted key reports damage, and not that a sound record of another key lies at
the place, then a compaction fails.  One that fails leaves the index and the bytes at the path.

A compaction goes through only if a sound record lies at the place of every key.  The store then has
the keys it had, and the file has these records and nothing else, so opening it again finds the keys
of the records.  They are the keys of the store if every look-up of one has answered a value. -/
theorem compaction_detects_damage (hstore : (start.after commands).stores.get? name = some store) :
    (∀ key offset reason, Admission.checkKey key = .ok () →
      (store.get (start.after commands).volume key).1 = .error (.corruption offset reason) →
      (∀ found, reason ≠ .wrongKey key found) →
        ∃ error, ((start.after commands).step (.store name .compact)).1 =
          .store (.error error) (some (storeState store))) ∧
    (∀ error state failed, (start.after commands).step (.store name .compact) =
        (.store (.error error) state, failed) →
      (failed.stores.get? name).map Store.index = some store.index ∧
      failed.volume.bytesAt? store.settings.path =
        (start.after commands).volume.bytesAt? store.settings.path) ∧
    ∀ reply state after, (start.after commands).step (.store name .compact) =
        (.store (.ok reply) state, after) →
      ∃ records : Log,
        List.Forall₂ (fun entry record =>
            (start.after commands).volume.HasAt store.file.object entry.2 record)
          store.index.entries records ∧
        after.volume.bytesAt? store.settings.path = some records.bytes ∧
        (∃ next, after.stores.get? name = some next ∧
          ∀ key, key ∈ next.keys.pending ↔ key ∈ store.keys.pending) ∧
        ∀ settings : Settings, settings.path = store.settings.path →
          ∃ reopened, Store.openWith after.volume settings = (.ok reopened, after.volume) ∧
            (∀ key, key ∈ reopened.keys.pending ↔ key ∈ records.map Record.key) ∧
            ((∀ key ∈ store.keys.pending,
                ∃ value, (store.get (start.after commands).volume key).1 = .ok value) →
              ∀ key, key ∈ reopened.keys.pending ↔ key ∈ store.keys.pending) := by
  have hsound : (start.after commands).volume.Sound := sound_of_start commands
  have hknown := (known_of_start commands).of_get? hstore
  rcases step_compact_cases hstore hknown with
    ⟨stats, new, index, volume, records, hstep, hfound, hkeys, hleads, hcontent⟩ |
      ⟨error, position, volume, hstep, -, hundone⟩
  · rw [hstep]
    refine ⟨?_, ?_, ?_⟩
    · intro key offset reason hkey hget hother
      obtain ⟨record, -, -, hwrong⟩ := Store.wrongKey_of_found hfound hkey hget
      exact absurd hwrong (hother record.key)
    · intro error state failed hfailed
      cases hfailed
    · rintro reply state after ⟨⟩
      refine ⟨records, Store.hasAt_of_found hfound,
        Volume.bytesAt?_eq_some_iff.2 ⟨new.object, hleads, hcontent⟩,
        ⟨_, Handles.get?_assign_self .., hkeys⟩, ?_⟩
      intro settings hpath
      rw [← hpath] at hleads
      obtain ⟨reopened, hopen, hreopened⟩ := Store.openWith_of_records hleads hcontent
      refine ⟨reopened, hopen, hreopened, fun hget key => ?_⟩
      rw [hreopened, Store.keys_of_found hfound hget]
  · rw [hstep]
    refine ⟨fun _ _ _ _ _ _ => ⟨error, rfl⟩, ?_, ?_⟩
    · rintro error state failed ⟨⟩
      refine ⟨?_, hundone.bytesAt? hsound (by decide) (by decide)⟩
      rw [Handles.get?_assign_self]
      rfl
    · intro reply state after hdone
      cases hdone

/-! ## Two logs that were changed -/

/-- What a look-up fails with in a session, if the store is open and the look-up fails. -/
def lookupError (session : Session) (name key : String) : Option StoreError :=
  match session.stores.get? name with
  | none => none
  | some store =>
    match (store.get session.volume key).1 with
    | .ok _ => none
    | .error error => some error

/-- A look-up that fails is one in an open store. -/
theorem get_of_lookupError {key : String} {error : StoreError}
    (h : session.lookupError name key = some error) :
    ∃ store, session.stores.get? name = some store ∧
      (store.get session.volume key).1 = .error error := by
  unfold lookupError at h
  split at h
  · cases h
  next store hstore =>
    split at h
    · cases h
    next hget =>
      cases h
      exact ⟨store, hstore, hget⟩

/-- Sets two keys, and then cuts the log within the record of the second one. -/
def cutShort : List Command :=
  [.openStore "s" { path := "heap" }, .store "s" (.set "a" "1"), .store "s" (.set "b" "1"),
    .disk (.resize "heap" 15)]

/-- A look-up of the second key reports that bytes are missing, a compaction fails, and what was left
of the log is left. -/
theorem compaction_detects_damage_cutShort :
    ∃ store error state failed, (start.after cutShort).stores.get? "s" = some store ∧
      (store.get (start.after cutShort).volume "b").1 = .error (.corruption 11 .shortRead) ∧
      (start.after cutShort).step (.store "s" .compact) = (.store (.error error) state, failed) ∧
      (failed.stores.get? "s").map Store.index = some store.index ∧
      (failed.volume.bytesAt? "heap").map List.length = some 15 := by
  have hdamage : (start.after cutShort).lookupError "s" "b" = some (.corruption 11 .shortRead) := by
    decide +kernel
  obtain ⟨store, hstore, hget⟩ := get_of_lookupError hdamage
  obtain ⟨hdetects, hleaves, -⟩ := compaction_detects_damage hstore
  obtain ⟨error, herror⟩ := hdetects "b" 11 .shortRead rfl hget fun _ heq => nomatch heq
  obtain ⟨hindex, hbytes⟩ := hleaves error _ _ (Prod.ext herror rfl)
  refine ⟨store, error, _, _, hstore, hget, Prod.ext herror rfl, hindex, ?_⟩
  have hpath : store.settings.path = "heap" := by
    have hopen : ((start.after cutShort).stores.get? "s").map (fun store => store.settings.path) =
        some "heap" := by decide +kernel
    rw [hstore] at hopen
    exact Option.some.inj hopen
  rw [hpath] at hbytes
  rw [hbytes]
  decide +kernel

/-- Where a sound record of another key lies, a look-up reports damage.  A compaction goes through
all the same, and when the log is opened again the key is gone. -/
theorem compaction_launders_swapped :
    (start.after swapped).lookupError "s" "a" = some (.corruption 0 (.wrongKey "a" "b")) ∧
      ((start.after swapped).stores.get? "s").map (fun store => store.keys.pending) =
        some ["a", "b"] ∧
      ((start.after swapped).step (.store "s" .compact)).1.isOk = true ∧
      ((start.after (swapped ++ [.store "s" .compact, .openStore "s" { path := "heap" }])).stores.get?
        "s").map (fun store => store.keys.pending) = some ["b"] := by
  decide +kernel

end Session
end KeyLog
