import KeyLog.Proofs.LogFile.Custody

/-!
# Counting anew

A handle may have lost count of its object in any way: others have appended to it, cut it or put
something else in its place, so that the handle's own length is too small, too large or the length
of something that is gone.  A replay looks at nothing but the object, and the handle takes over the
count of what it has found there.

* `Volume.hasAt_of_find?_index`: at the places that the index of a log tells, the last records of
  the keys lie.
* `LogFile.replay_eq_ok`: a replay that goes through has found a log, its index and its length.
* `LogFile.replay_repairs_the_count`: hence a handle that has replayed its object is a handle that
  counts right, with all that follows from it.
-/

namespace KeyLog

/-- **Where the index of a log points**, the last record of the key lies in an object that holds the
log. -/
theorem Volume.hasAt_of_find?_index {volume : Volume} {object : Nat} {log : Log}
    (hcontent : volume.content object = log.bytes) {key : String} {span : Span}
    (hfind : log.index.find? key = some span) :
    ∃ record, log.last? key = some record ∧ record.key = key ∧
      volume.HasAt object span record := by
  obtain ⟨before, record, ⟨later, hlog, hlater⟩, hkey, rfl⟩ := Log.find?_index_iff.1 hfind
  refine ⟨record, Log.last?_eq_some_iff.2 ⟨hkey, before, later, hlog, hlater⟩, hkey,
    before.bytes, Log.bytes later, ?_, rfl, record.length_encode⟩
  rw [hcontent, hlog, Log.bytes_append, Log.bytes_cons, List.append_assoc]

namespace LogFile

variable {volume : Volume} {file : LogFile}

/-- What a handle replays are the bytes of its object. -/
theorem replay_fst (volume : Volume) (file : LogFile) :
    (file.replay volume).1 = Replay.ofBytes (volume.content file.object) := by
  rw [replay, Replay.ofSource_held]
  cases Replay.ofBytes (volume.content file.object) <;> rfl

/-- A replay that fails leaves the count of the handle. -/
theorem length_of_replay_eq_error {error : StoreError}
    (h : (file.replay volume).1 = .error error) :
    (file.replay volume).2.length = file.length := by
  unfold replay at h ⊢
  split
  · rfl
  next hreplay =>
    rw [hreplay] at h
    cases h

/-- **A replay that goes through has found a log**: it hands out the index of the log, and the
handle counts its bytes. -/
theorem replay_eq_ok {found : Replay} (h : (file.replay volume).1 = .ok found) :
    ∃ log : Log, volume.content file.object = log.bytes ∧ found.index = log.index ∧
      found.stats.bytes = log.bytes.length ∧
      (file.replay volume).2 =
        { file with length := log.bytes.length, position := log.bytes.length } := by
  obtain ⟨log, hlog⟩ := Replay.accepts_iff.1 ⟨found, (replay_fst volume file).symm.trans h⟩
  obtain ⟨superseded, -, hreplay⟩ := replay_of_content file hlog
  rw [hreplay] at h ⊢
  cases h
  exact ⟨log, hlog, rfl, rfl, rfl⟩

/-- **A replay repairs a handle that has lost count.**  It goes through if and only if the object
holds a log, whatever the handle counted before.  If it does, the handle counts as many bytes as
were replayed, which are all that the object has.  And after any run of calls through the handle,
hence at once, the handle reads the last record of the key at each place that the index tells, and
reads an appended record at the place that the append tells.  If the replay fails, the handle counts
what it counted before.

An object has no more bytes than the largest size of an object, and a write that goes through leaves
none that has more. -/
theorem replay_repairs_the_count (hfits : volume.size file.object ≤ Medium.maxObjectSize) :
    ((∃ found, (file.replay volume).1 = .ok found) ↔
      ∃ log : Log, volume.content file.object = log.bytes) ∧
    (∀ found, (file.replay volume).1 = .ok found →
      (file.replay volume).2.length = found.stats.bytes ∧
      found.stats.bytes = volume.size file.object ∧
      ∃ log : Log, volume.content file.object = log.bytes ∧
        ∀ (calls : List Custody.Call) (later : Custody), (∀ call ∈ calls, call.Bounded) →
          later = (Custody.mk (file.replay volume).2 volume).after calls →
          (∀ key span, found.index.find? key = some span →
            ∃ record, (later.file.readAt later.volume span).1 = .ok record ∧
              record.key = key ∧ log.last? key = some record) ∧
          ∀ medium record span next, medium.Bounded →
            later.step (.append medium record) = (.appended (.ok span), next) →
              (next.file.readAt next.volume span).1 = .ok record) ∧
    ∀ error, (file.replay volume).1 = .error error →
      (file.replay volume).2.length = file.length := by
  refine ⟨?_, ?_, fun error => length_of_replay_eq_error⟩
  · rw [replay_fst]
    exact Replay.accepts_iff
  intro found hfound
  obtain ⟨log, hcontent, hindex, hbytes, hafter⟩ := replay_eq_ok hfound
  have hsize : volume.size file.object = log.bytes.length := by rw [Volume.size_eq, hcontent]
  have hcounts : (Custody.mk (file.replay volume).2 volume).Counts := by
    rw [hafter]
    exact hsize.symm
  refine ⟨by rw [hafter, hbytes], hbytes.trans hsize.symm, log, hcontent, ?_⟩
  rintro calls later hbounded rfl
  constructor
  · intro key span hfind
    rw [hindex] at hfind
    obtain ⟨record, hlast, hkey, hat⟩ := Volume.hasAt_of_find?_index hcontent hfind
    have hkeeps : (Custody.mk (file.replay volume).2 volume).Keeps [(span, record)] := by
      refine ⟨hcounts, List.forall_mem_singleton.2 (Nat.le_trans hat.stop_le hfits),
        List.forall_mem_singleton.2 ?_⟩
      rw [hafter]
      exact hat
    exact ⟨record, (hkeeps.after hbounded).readAt List.mem_cons_self, hkey, hlast⟩
  · intro medium record span next hmedium hstep
    have hkeeps : (Custody.mk (file.replay volume).2 volume).Keeps [] :=
      ⟨hcounts, by simp, by simp⟩
    have hnext := (hkeeps.after hbounded).step
      (show (Custody.Call.append medium record).Bounded from hmedium)
    rw [hstep] at hnext
    exact hnext.readAt
      (show (span, record) ∈ _ from List.mem_append_right _ List.mem_cons_self)

/-! ## A log that was rewritten -/

/-- A later record of the key `x`. -/
def laterRecordOfX : Record := (Record.ofTexts? "x" "3").get (by decide +kernel)

/-- The two records, and the later one of the first key. -/
def rewritten : Log := [recordOfX, recordOfY, laterRecordOfX]

/-- An object that holds the three records. -/
def onRewritten : Volume := Volume.empty.store 0 rewritten.bytes

/-- A handle from the time when the object had five bytes. -/
def astray : LogFile := ⟨"heap", 0, 5, 5, .everyWrite⟩

/-- The append that follows the replay. -/
def afterwards : Custody.Call := .append (.limited none) recordOfY

/-- An append that has stored a record has told its place. -/
theorem answer_of_stored? {call : Custody.Call} {answer : Custody.Answer} {entry : Span × Record}
    (h : Custody.stored? call answer = some entry) : answer = .appended (.ok entry.1) := by
  unfold Custody.stored? at h
  split at h
  · cases h
    rfl
  · cases h

/-- The handle finds the last record of the first key, and then one that it appends. -/
theorem replay_repairs_the_count_astray :
    onRewritten.size astray.object ≤ Medium.maxObjectSize ∧ astray.length = 5 ∧
      (astray.replay onRewritten).2.length = 33 ∧
      ((astray.replay onRewritten).2.readAt onRewritten ⟨22, 11⟩).1 = .ok laterRecordOfX ∧
      ∃ next, (Custody.mk (astray.replay onRewritten).2 onRewritten).step afterwards =
          (.appended (.ok ⟨33, 11⟩), next) ∧
        (next.file.readAt next.volume ⟨33, 11⟩).1 = .ok recordOfY := by
  have hfits : onRewritten.size astray.object ≤ Medium.maxObjectSize := by decide +kernel
  have hcontent : onRewritten.content astray.object = rewritten.bytes := by decide +kernel
  have hsize : onRewritten.size astray.object = 33 := by decide +kernel
  have hindex : (Replay.ofBytes rewritten.bytes).toOption.map (·.index.find? "x") =
      some (some ⟨22, 11⟩) := by decide +kernel
  have hlast : rewritten.last? "x" = some laterRecordOfX := by decide +kernel
  have hstored : Custody.stored? afterwards
      ((Custody.mk (astray.replay onRewritten).2 onRewritten).step afterwards).1 =
        some (⟨33, 11⟩, recordOfY) := by decide +kernel
  obtain ⟨hiff, hrepaired, -⟩ := replay_repairs_the_count hfits
  obtain ⟨found, hfound⟩ := hiff.2 ⟨rewritten, hcontent⟩
  obtain ⟨hlength, hbytes, log, hlog, hlater⟩ := hrepaired found hfound
  obtain rfl : rewritten = log := Log.bytes_injective (hcontent.symm.trans hlog)
  have hfind : found.index.find? "x" = some ⟨22, 11⟩ := by
    rw [← hcontent, ← replay_fst, hfound] at hindex
    exact Option.some.inj hindex
  obtain ⟨hread, happended⟩ := hlater [] _ (by simp) rfl
  obtain ⟨record, hrecord, -, hrecord'⟩ := hread "x" _ hfind
  obtain rfl : record = laterRecordOfX := Option.some.inj (hrecord'.symm.trans hlast)
  have hstep : (Custody.mk (astray.replay onRewritten).2 onRewritten).step afterwards =
      (.appended (.ok ⟨33, 11⟩),
        ((Custody.mk (astray.replay onRewritten).2 onRewritten).step afterwards).2) :=
    Prod.ext (answer_of_stored? hstored) rfl
  exact ⟨hfits, rfl, hlength.trans (hbytes.trans hsize), hrecord, _, hstep,
    happended _ _ _ _ (Medium.bounded_limited none) hstep⟩

end LogFile
end KeyLog
