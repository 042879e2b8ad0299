import KeyLog.Proofs.Session.Canonical
import KeyLog.Proofs.Session.Compaction

/-!
# What a look-up says of a listed key

A log from elsewhere may hold keys that no `set` would accept.  Opening a store asks of a key only
what the layout asks: that it is a text of 1 to 255 bytes.  A look-up asks in addition that the text
has no NUL byte.  The two agree on every key but those with a NUL byte, and these are listed and
never found.

* `Admission.rejectNul_eq`, `Record.checkKey_key`: what the two ask, as one equation each.
* `Session.listed_keys_are_readable_without_nul`: what a look-up answers for each listed key.
* `Session.listed_key_is_unreadable`: a listed key that no look-up gives the value of.
-/

namespace KeyLog

namespace Admission

/-- A text is refused if it has a NUL byte, at the position of the first one. -/
theorem rejectNul_eq (part : Part) (text : String) :
    rejectNul part text =
      if 0 ∈ Utf8.encode text then
        .error (.invalidEncoding (.nul part ((Utf8.encode text).idxOf 0)))
      else .ok () := by
  unfold rejectNul
  split
  next position hposition =>
    obtain ⟨hlt, hfound, -⟩ := List.findIdx?_eq_some_iff_getElem.1 hposition
    have hmem : 0 ∈ Utf8.encode text := by
      rw [← beq_iff_eq.1 hfound]
      exact List.getElem_mem hlt
    have hfirst : (Utf8.encode text).idxOf 0 = position :=
      (List.findIdx?_eq_some_iff_findIdx_eq.1 hposition).2
    rw [if_pos hmem, hfirst]
  next hnone =>
    have hmem : 0 ∉ Utf8.encode text := by
      intro hmem
      have hzero := List.findIdx?_eq_none_iff.1 hnone 0 hmem
      exact absurd hzero (by decide)
    rw [if_neg hmem]

end Admission

/-- Of the key of a record nothing is left to refuse but its NUL bytes. -/
theorem Record.checkKey_key (record : Record) :
    Admission.checkKey record.key = Admission.rejectNul .key record.key :=
  if_pos ⟨record.key_pos, record.key_le⟩

namespace Log

/-- The keys of the index are those that have a last record. -/
theorem exists_last?_of_mem_keys {log : Log} {key : String} (h : key ∈ log.index.keys) :
    ∃ record, log.last? key = some record ∧ record.key = key := by
  have hsome : (log.last? key).isSome := isSome_last?_iff.2 (mem_keys_index_iff.1 h)
  obtain ⟨record, hlast⟩ := Option.isSome_iff_exists.1 hsome
  exact ⟨record, hlast, (last?_eq_some_iff.1 hlast).1⟩

end Log

/-- **What a look-up of a listed key answers**: the value of the last record if the key has no NUL
byte, and otherwise that it has one. -/
theorem Store.Holds.get_of_last? {volume : Volume} {path : String} {store : Store} {log : Log}
    (h : store.Holds volume path log) (hsize : log.bytes.length ≤ Medium.maxObjectSize)
    {key : String} {record : Record} (hlast : log.last? key = some record) :
    (store.get volume key).1 =
      if 0 ∈ Utf8.encode key then
        .error (.invalidEncoding (.nul .key ((Utf8.encode key).idxOf 0)))
      else .ok record.value := by
  have hcheck : Admission.checkKey key = Admission.rejectNul .key key := by
    rw [← (Log.last?_eq_some_iff.1 hlast).1]
    exact record.checkKey_key
  rw [Admission.rejectNul_eq] at hcheck
  split
  next hnul =>
    rw [if_pos hnul] at hcheck
    simp only [Store.get, hcheck]
  next hnul =>
    rw [if_neg hnul] at hcheck
    rw [h.get_eq hsize hcheck, Contents.get, Log.contents, hlast]
    rfl

namespace Session

variable {session opened : Session} {name : String} {settings : Settings} {reply : StoreReply}
  {state seen : Option StoreState} {commands : List Command} {keys : List String}

/-- The answer to a look-up is what the store makes of it. -/
theorem step_get {store : Store} (hstore : session.stores.get? name = some store) (key : String) :
    (session.step (.store name (.get key))).1 =
      .store ((store.get session.volume key).1.map .value)
        (some (storeState (store.get session.volume key).2)) := by
  simp only [step, hstore, onStore]

/-- A session in which a store was just opened follows the log that was found. -/
theorem follows_of_opened (hsound : session.volume.Sound)
    (hopen : session.step (.openStore name settings) = (.store (.ok reply) state, opened)) :
    ∃ log, opened.Follows name settings.path log := by
  have hopened : opened.volume.Sound := by
    have hstep := sound_step hsound (.openStore name settings)
    rwa [hopen] at hstep
  cases hstore : Store.openWith session.volume settings with
  | mk result volume =>
    cases result with
    | error error =>
      simp only [step, openStore, hstore, Prod.mk.injEq, Answer.store.injEq, reduceCtorEq,
        false_and] at hopen
    | ok store =>
      obtain ⟨log, hholds⟩ := Store.holds_of_openWith hstore
      simp only [step, openStore, hstore, Prod.mk.injEq] at hopen
      obtain ⟨-, rfl⟩ := hopen
      refine ⟨log, hopened, ?_, ?_⟩
      · rw [hholds.bytesAt?, Option.getD_some]
      · intro other hother
        rw [Handles.get?_assign_self] at hother
        cases hother
        exact hholds

/-- **Every listed key without a NUL byte is readable, and no other one is.**  Let a store be opened
on any file, and let the bytes of the file be the same after whatever is done then.  The keys that
are listed are those of the records of the file, each of them once.  A look-up of one answers the
value of its last record if the key has no NUL byte; otherwise it refuses the key, and names the
position of the first NUL byte. -/
theorem listed_keys_are_readable_without_nul (hsound : session.volume.Sound)
    (hopen : session.step (.openStore name settings) = (.store (.ok reply) state, opened))
    (hfits : ∀ bytes, opened.volume.bytesAt? settings.path = some bytes →
      bytes.length ≤ Medium.maxObjectSize)
    (hsole : ∀ command ∈ commands, command.Sole name settings.path)
    (hsame : (opened.after commands).volume.bytesAt? settings.path =
      opened.volume.bytesAt? settings.path)
    (hkeys : ((opened.after commands).step (.store name .keys)).1 =
      .store (.ok (.keys keys)) seen) :
    ∃ log : Log, opened.volume.bytesAt? settings.path = some log.bytes ∧
      keys.Nodup ∧ (∀ key, key ∈ keys ↔ ∃ record ∈ log, record.key = key) ∧
      ∀ key ∈ keys, ∃ record, log.last? key = some record ∧
        (0 ∉ Utf8.encode key → ∃ state,
          ((opened.after commands).step (.store name (.get key))).1 =
            .store (.ok (.value record.value)) state) ∧
        (0 ∈ Utf8.encode key → ∃ state,
          ((opened.after commands).step (.store name (.get key))).1 =
            .store (.error (.invalidEncoding (.nul .key ((Utf8.encode key).idxOf 0)))) state) := by
  obtain ⟨log, hfollows⟩ := follows_of_opened hsound hopen
  obtain ⟨last, hlast, -⟩ := run_follows hfollows hsole
  -- the store that lists its keys holds the log that was there when it was opened
  obtain rfl : last = log := by
    apply Log.bytes_injective
    rw [← hlast.bytes, hsame, hfollows.bytes]
  cases hstore : (opened.after commands).stores.get? name with
  | none => simp only [step, hstore, reduceCtorEq] at hkeys
  | some store =>
    have hholds := hlast.holds store hstore
    have hbytes : opened.volume.bytesAt? settings.path = some last.bytes := by
      rw [← hsame]
      exact hholds.bytesAt?
    obtain rfl : keys = last.index.keys := by
      simp only [step, hstore, onStore, Answer.store.injEq, Except.ok.injEq,
        StoreReply.keys.injEq] at hkeys
      rw [← hkeys.1, ← hholds.index]
      rfl
    refine ⟨last, hbytes, last.index.nodup_keys, ?_, ?_⟩
    · intro key
      rw [Log.mem_keys_index_iff, List.mem_map]
    · intro key hkey
      obtain ⟨record, hrecord, -⟩ := Log.exists_last?_of_mem_keys hkey
      have hget := hholds.get_of_last? (hfits _ hbytes) hrecord
      have hanswer := step_get hstore key
      rw [hget] at hanswer
      refine ⟨record, hrecord, ?_, ?_⟩
      · intro hnul
        rw [if_neg hnul] at hanswer
        exact ⟨_, hanswer⟩
      · intro hnul
        rw [if_pos hnul] at hanswer
        exact ⟨_, hanswer⟩

/-! ## A log from elsewhere -/

/-- Two records, and the key of the first one has a NUL byte. -/
def withNul : Log :=
  [(Record.ofTexts? "a\x00" "1").get (by decide +kernel),
    (Record.ofTexts? "b" "2").get (by decide +kernel)]

/-- Puts the two records where the log is, and opens a store there. -/
def openWithNul : List Command :=
  [.disk (.write "heap" withNul.bytes), .openStore "s" { path := "heap" }]

/-- What is asked of the store in between: both keys. -/
def askBoth : List Command := [.store "s" (.get "b"), .store "s" (.get "a\x00")]

/-- The keys that an answer lists. -/
def Answer.listed? : Answer → Option (List String)
  | .store (.ok (.keys keys)) _ => some keys
  | _ => none

theorem exists_of_listed? {answer : Answer} (h : answer.listed? = some keys) :
    ∃ state, answer = .store (.ok (.keys keys)) state := by
  unfold Answer.listed? at h
  split at h
  · cases h
    exact ⟨_, rfl⟩
  · cases h

/-- A store that answers an opening with success. -/
theorem exists_of_isOk {answer : Answer} (h : answer.isOk = true) :
    ∃ reply state, answer = .store (.ok reply) state := by
  unfold Answer.isOk at h
  split at h
  · exact ⟨_, _, rfl⟩
  · cases h

/-- Both keys are listed, and the one without a NUL byte is answered its value. -/
theorem listed_keys_are_readable_without_nul_foreign :
    (start.after (openWithNul.take 1)).volume.Sound ∧
      (∃ reply state, (start.after (openWithNul.take 1)).step (.openStore "s" { path := "heap" }) =
        (.store (.ok reply) state, start.after openWithNul)) ∧
      (∀ command ∈ askBoth, command.Sole "s" "heap") ∧
      (∃ seen, (((start.after openWithNul).after askBoth).step (.store "s" .keys)).1 =
        .store (.ok (.keys ["a\x00", "b"])) seen) ∧
      (∃ state, (((start.after openWithNul).after askBoth).step (.store "s" (.get "b"))).1 =
        .store (.ok (.value "2")) state) ∧
      ∃ state, (((start.after openWithNul).after askBoth).step (.store "s" (.get "a\x00"))).1 =
        .store (.error (.invalidEncoding (.nul .key 1))) state := by
  have hsound : (start.after (openWithNul.take 1)).volume.Sound := sound_of_start _
  have hsole : ∀ command ∈ askBoth, command.Sole "s" "heap" := by simp [askBoth, Command.Sole]
  have hok : ((start.after (openWithNul.take 1)).step
      (.openStore "s" { path := "heap" })).1.isOk = true := by decide +kernel
  obtain ⟨reply, state, hanswer⟩ := exists_of_isOk hok
  have hopen : (start.after (openWithNul.take 1)).step (.openStore "s" { path := "heap" }) =
      (.store (.ok reply) state, start.after openWithNul) := Prod.ext hanswer rfl
  have hbytes : (start.after openWithNul).volume.bytesAt? "heap" = some withNul.bytes := by
    decide +kernel
  have hsame : ((start.after openWithNul).after askBoth).volume.bytesAt? "heap" =
      (start.after openWithNul).volume.bytesAt? "heap" := by decide +kernel
  have hlisted : (((start.after openWithNul).after askBoth).step (.store "s" .keys)).1.listed? =
      some ["a\x00", "b"] := by decide +kernel
  obtain ⟨seen, hkeys⟩ := exists_of_listed? hlisted
  have hfits : ∀ bytes, (start.after openWithNul).volume.bytesAt? "heap" = some bytes →
      bytes.length ≤ Medium.maxObjectSize := by
    intro bytes hsome
    rw [hbytes] at hsome
    rw [← Option.some.inj hsome]
    decide +kernel
  obtain ⟨log, hlog, -, -, hget⟩ :=
    listed_keys_are_readable_without_nul hsound hopen hfits hsole hsame hkeys
  obtain rfl : withNul = log := Log.bytes_injective (Option.some.inj (hbytes.symm.trans hlog))
  refine ⟨hsound, ⟨reply, state, hopen⟩, hsole, ⟨seen, hkeys⟩, ?_, ?_⟩
  · obtain ⟨record, hlast, hreadable, -⟩ := hget "b" (by decide)
    have hvalue : (withNul.last? "b").map Record.value = some "2" := by decide +kernel
    rw [hlast] at hvalue
    rw [← Option.some.inj hvalue]
    exact hreadable (by decide +kernel)
  · obtain ⟨record, -, -, hrefused⟩ := hget "a\x00" (by decide)
    exact hrefused (by decide +kernel)

/-- The key with a NUL byte is listed, and a look-up refuses it although a record of it is there. -/
theorem listed_key_is_unreadable :
    (start.after openWithNul).volume.bytesAt? "heap" = some withNul.bytes ∧
      (withNul.last? "a\x00").map Record.value = some "1" ∧
      ((start.after openWithNul).stores.get? "s").map (fun store => store.keys.pending) =
        some ["a\x00", "b"] ∧
      (start.after openWithNul).lookupError "s" "a\x00" =
        some (.invalidEncoding (.nul .key 1)) := by
  decide +kernel

end Session
end KeyLog
