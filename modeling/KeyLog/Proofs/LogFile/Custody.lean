import KeyLog.Proofs.LogFile.Append
import KeyLog.Proofs.LogFile.Scan
import KeyLog.Volume.Mount

/-!
# A handle through faults

One handle has an object to itself, and the disk lets it down: any append may be cut off after any
number of bytes, and the disk may then refuse to cut the object back, so that part of a record stays
behind as a tail that is nobody's record.  This file says what the handle can be relied on for all
the same, whatever the object held at first.

A `Custody` is such a handle with its volume.  It is asked in `Call`s, and each append brings along
the medium that the disk is at that moment.  An append whose bytes were all stored, but could not be
forced to the disk, is one that was cut off behind the last of them.

* `LogFile.append_of_counts`: an append by a handle that counts right only ever adds bytes: its
  record, or what is left of a failed one.  And the handle counts right again.
* `Custody.Keeps.after`: hence each record that was stored stays where it was stored.
* `Custody.Counts.after`: and where no tail was left, nothing but records was added.
* `Custody.keeps_its_promises`: this for a handle from its opening on.

## Why old places survive

A handle that counts right cuts an object back to where it ended before the append, and if that is
refused it takes over the real length.  Either way the bytes from before stay a beginning of the
object, and places are told from the beginning.
-/

namespace KeyLog

/-- A record that lies in an object still lies there when bytes are added at the end. -/
theorem Volume.HasAt.of_append {volume after : Volume} {object : Nat} {span : Span}
    {record : Record} {more : Bytes} (h : volume.HasAt object span record)
    (hcontent : after.content object = volume.content object ++ more) :
    after.HasAt object span record := by
  obtain ⟨front, back, hfront, hoffset, hlength⟩ := h
  exact ⟨front, back ++ more, by rw [hcontent, hfront, List.append_assoc], hoffset, hlength⟩

namespace LogFile

/-- An append fails, and the disk refuses to cut the object back. -/
def leavesTail (medium : Medium) (volume : Volume) (file : LogFile) (record : Record) : Bool :=
  match volume.append medium file.object file.position record.encode with
  | (none, _) => false
  | (some _, partly) => (partly.resize medium file.object file.length).1.isSome

/-- **An append by a handle that counts right** adds the record, or fails and adds nothing unless a
tail is left.  The handle counts right afterwards. -/
theorem append_of_counts {volume : Volume} {file : LogFile}
    (hcounts : file.length = volume.size file.object) (medium : Medium) (record : Record) :
    (∃ moved after, file.append medium volume record =
        (.ok ⟨file.length, record.size⟩, moved, after) ∧
      moved.object = file.object ∧ moved.length = after.size file.object ∧
      after.content file.object = volume.content file.object ++ record.encode ∧
      medium.cutOff file.position (volume.size file.object) record.size = none) ∨
    (∃ cut moved after more, file.append medium volume record =
        (.error (.io cut.cause), moved, after) ∧
      moved.object = file.object ∧ moved.length = after.size file.object ∧
      after.content file.object = volume.content file.object ++ more ∧
      (file.leavesTail medium volume record = false → more = []) ∧
      medium.cutOff file.position (volume.size file.object) record.size = some cut) := by
  cases hcut : medium.cutOff file.position (volume.size file.object) record.size with
  | none =>
    obtain ⟨position, after, happend, -, hcontent⟩ := append_of_none hcut
    refine .inl ⟨_, after, happend, rfl, ?_, hcontent, rfl⟩
    rw [Volume.size_eq, hcontent, List.length_append, ← Volume.size_eq, ← hcounts,
      Record.length_encode]
  | some cut =>
    obtain ⟨partly, happend, -, hcontent⟩ :=
      Volume.append_of_some (record.length_encode.symm ▸ hcut)
    obtain ⟨position, hwrote, -⟩ := file.wrote_eq volume partly
    have hle : file.length ≤ partly.size file.object := by
      rw [hcounts, Volume.size_eq, Volume.size_eq, hcontent, List.length_append]
      exact Nat.le_add_right _ _
    cases hrefuses : medium.refuses (partly.size file.object) file.length with
    | true =>
      -- the tail stays, and the handle counts it
      have hresize : partly.resize medium file.object file.length =
          (some .fileTooLarge, partly) := if_pos hrefuses
      refine .inr ⟨cut, { file with position, length := partly.size file.object }, partly,
        record.encode.take cut.stored, ?_, rfl, rfl, hcontent, ?_, rfl⟩
      · simp only [append, happend, hwrote, rollBack, hresize]
      · intro htail
        simp [leavesTail, happend, hresize] at htail
    | false =>
      obtain ⟨after, hresize, -, hrestored⟩ := Volume.resize_of_not_refuses hrefuses hle
      have hsame : after.content file.object = volume.content file.object := by
        rw [hrestored, hcontent, hcounts, Volume.size_eq, List.take_left]
      refine .inr ⟨cut, { file with position }, after, [], ?_, rfl, ?_, ?_, fun _ => rfl, rfl⟩
      · simp only [append, happend, hwrote, rollBack, hresize]
      · rw [Volume.size_eq, hsame, ← Volume.size_eq]
        exact hcounts
      · rw [hsame, List.append_nil]

end LogFile

/-- A handle and the volume of an object that nobody else touches. -/
structure Custody where
  file : LogFile
  volume : Volume

namespace Custody

/-- What can be asked of the handle. -/
inductive Call where
  /-- An append, on a disk that allows so much. -/
  | append (medium : Medium) (record : Record)
  | readAt (span : Span)
  /-- Forcing the object to the disk, which may fail. -/
  | sync (fault : Option SystemError)

/-- What the handle answers. -/
inductive Answer where
  | appended (result : Except StoreError Span)
  | read (result : Except StoreError Record)
  | synced (fault : Option SystemError)

/-- A write that goes through leaves no object larger than objects can be. -/
def Call.Bounded : Call → Prop
  | .append medium _ => medium.Bounded
  | _ => True

/-- Answers one call. -/
def step (custody : Custody) : Call → Answer × Custody
  | .append medium record =>
    let (result, file, volume) := custody.file.append medium custody.volume record
    (.appended result, ⟨file, volume⟩)
  | .readAt span =>
    let (result, file) := custody.file.readAt custody.volume span
    (.read result, { custody with file })
  | .sync fault => (.synced fault, custody)

/-- What a run of calls leaves. -/
def after (custody : Custody) : List Call → Custody
  | [] => custody
  | call :: calls => (custody.step call).2.after calls

/-- The bytes of the object. -/
def content (custody : Custody) : Bytes := custody.volume.content custody.file.object

/-- What a call has stored, and where, as far as the answer tells. -/
def stored? : Call → Answer → Option (Span × Record)
  | .append _ record, .appended (.ok span) => some (span, record)
  | _, _ => none

/-- What a run of calls has stored, in order. -/
def stored (custody : Custody) : List Call → List (Span × Record)
  | [] => []
  | call :: calls =>
    (stored? call (custody.step call).1).toList ++ (custody.step call).2.stored calls

/-- The call fails and leaves a tail. -/
def leavesTail (custody : Custody) : Call → Bool
  | .append medium record => custody.file.leavesTail medium custody.volume record
  | _ => false

/-- No call of a run leaves a tail. -/
def tidy (custody : Custody) : List Call → Bool
  | [] => true
  | call :: calls => !custody.leavesTail call && (custody.step call).2.tidy calls

/-! ## What one call does -/

/-- The handle knows how many bytes its object has. -/
def Counts (custody : Custody) : Prop :=
  custody.file.length = custody.volume.size custody.file.object

/-- Bytes were added to the object, and the handle has counted them. -/
structure Grows (custody next : Custody) (more : Bytes) : Prop where
  object : next.file.object = custody.file.object
  counts : next.Counts
  content : next.volume.content custody.file.object = custody.content ++ more

variable {custody next : Custody} {call : Call} {stored : List (Span × Record)}

/-- Nothing was added where only the handle has moved. -/
theorem Counts.rests (h : custody.Counts) (position : Nat) :
    custody.Grows { custody with file := { custody.file with position } } [] :=
  ⟨rfl, h, (List.append_nil _).symm⟩

/-- **A call only ever adds bytes**, and the handle counts them: the record that the call stores at
the end of the object, or a tail. -/
theorem Counts.step (h : custody.Counts) (call : Call) :
    (∃ entry, stored? call (custody.step call).1 = some entry ∧
      entry.1 = ⟨custody.file.length, entry.2.size⟩ ∧
      custody.Grows (custody.step call).2 entry.2.encode ∧
      (call.Bounded → entry.1.stop ≤ Medium.maxObjectSize)) ∨
    (stored? call (custody.step call).1 = none ∧
      ∃ more, custody.Grows (custody.step call).2 more ∧
        (custody.leavesTail call = false → more = [])) := by
  cases call with
  | append medium record =>
    rcases LogFile.append_of_counts h medium record with
      ⟨moved, after, happend, hobject, hlength, hcontent, hcut⟩ |
        ⟨cut, moved, after, more, happend, hobject, hlength, hcontent, htail, -⟩
    · simp only [Custody.step, happend]
      refine .inl ⟨(_, record), rfl, rfl, ⟨hobject, ?_, hcontent⟩, fun hbounded => ?_⟩
      · rw [Counts, hobject]
        exact hlength
      · show custody.file.length + record.size ≤ Medium.maxObjectSize
        rw [show custody.file.length = _ from h]
        exact hbounded _ _ _ hcut record.size_pos
    · simp only [Custody.step, happend]
      refine .inr ⟨rfl, more, ⟨hobject, ?_, hcontent⟩, htail⟩
      rw [Counts, hobject]
      exact hlength
  | readAt span => exact .inr ⟨rfl, [], h.rests _, fun _ => rfl⟩
  | sync fault => exact .inr ⟨rfl, [], h.rests _, fun _ => rfl⟩

/-- **An append goes through if and only if it is not cut off**, and it tells the place at the end
of the object. -/
theorem Counts.append_eq_ok_iff (h : custody.Counts) {medium : Medium} {record : Record}
    {span : Span} :
    (custody.step (.append medium record)).1 = .appended (.ok span) ↔
      span = ⟨custody.file.length, record.encode.length⟩ ∧
        medium.cutOff custody.file.position custody.file.length record.encode.length = none := by
  rw [Record.length_encode, show custody.file.length = _ from h]
  rcases LogFile.append_of_counts h medium record with
    ⟨moved, after, happend, -, -, -, hcut⟩ | ⟨cut, moved, after, more, happend, -, -, -, -, hcut⟩
  · simp only [Custody.step, happend, hcut, and_true, Answer.appended.injEq, Except.ok.injEq]
    rw [show custody.file.length = _ from h]
    exact eq_comm
  · simp only [Custody.step, happend, hcut, reduceCtorEq, and_false, Answer.appended.injEq]

/-- The handle counts right, and so many records lie where they were stored. -/
structure Keeps (custody : Custody) (stored : List (Span × Record)) : Prop where
  counts : custody.Counts
  near : ∀ entry ∈ stored, entry.1.stop ≤ Medium.maxObjectSize
  has : ∀ entry ∈ stored, custody.volume.HasAt custody.file.object entry.1 entry.2

/-- Records stay where they were stored when bytes are added. -/
theorem Keeps.grows (h : custody.Keeps stored) {more : Bytes} (hgrows : custody.Grows next more) :
    next.Keeps stored := by
  refine ⟨hgrows.counts, h.near, ?_⟩
  intro entry hentry
  rw [hgrows.object]
  exact (h.has entry hentry).of_append hgrows.content

/-- A record that is added at the end lies there. -/
theorem Keeps.concat (h : custody.Keeps stored) {record : Record}
    (hgrows : custody.Grows next record.encode)
    (hnear : custody.file.length + record.size ≤ Medium.maxObjectSize) :
    next.Keeps (stored ++ [(⟨custody.file.length, record.size⟩, record)]) := by
  have hnew : next.volume.HasAt custody.file.object ⟨custody.file.length, record.size⟩ record :=
    ⟨custody.content, [], by rw [hgrows.content, List.append_nil],
      (custody.volume.size_eq _).symm.trans h.counts.symm, record.length_encode⟩
  refine ⟨hgrows.counts, List.forall_mem_append.2 ⟨h.near, List.forall_mem_singleton.2 hnear⟩,
    List.forall_mem_append.2 ⟨(h.grows hgrows).has, List.forall_mem_singleton.2 ?_⟩⟩
  rw [hgrows.object]
  exact hnew

/-- **Records stay where they were stored**, and one that a call stores lies there as well. -/
theorem Keeps.step (h : custody.Keeps stored) (hbounded : call.Bounded) :
    (custody.step call).2.Keeps (stored ++ (stored? call (custody.step call).1).toList) := by
  rcases h.counts.step call with
    ⟨⟨span, record⟩, hstored, hspan, hgrows, hnear⟩ | ⟨hstored, more, hgrows, -⟩
  · dsimp only at hspan
    subst hspan
    rw [hstored, Option.toList_some]
    exact h.concat hgrows (hnear hbounded)
  · rw [hstored, Option.toList_none, List.append_nil]
    exact h.grows hgrows

/-- A record that lies where it was stored is read there. -/
theorem Keeps.readAt (h : custody.Keeps stored) {entry : Span × Record} (hentry : entry ∈ stored) :
    (custody.file.readAt custody.volume entry.1).1 = .ok entry.2 := by
  have hat := h.has entry hentry
  refine LogFile.recordAt_eq_ok_iff.2 ⟨?_, h.near entry hentry, hat⟩
  rw [show custody.file.length = _ from h.counts]
  exact hat.stop_le

/-! ## What a run of calls does -/

/-- **Through a run of calls** records stay where they were stored, and those of the run lie there
as well. -/
theorem Keeps.after (h : custody.Keeps stored) {calls : List Call}
    (hbounded : ∀ call ∈ calls, call.Bounded) :
    (custody.after calls).Keeps (stored ++ custody.stored calls) := by
  induction calls generalizing custody stored with
  | nil => rwa [Custody.stored, List.append_nil]
  | cons call calls ih =>
    rw [Custody.after, Custody.stored, ← List.append_assoc]
    exact ih (h.step (hbounded call List.mem_cons_self))
      fun other hother => hbounded other (List.mem_cons_of_mem _ hother)

/-- **A run of calls** stays with its object and adds bytes to it; where no tail was left, those are
the records that the run has stored, and nothing else. -/
theorem Counts.after (h : custody.Counts) (calls : List Call) :
    ∃ more, custody.Grows (custody.after calls) more ∧
      (custody.tidy calls = true →
        more = Log.bytes ((custody.stored calls).map Prod.snd)) := by
  induction calls generalizing custody with
  | nil => exact ⟨[], ⟨rfl, h, (List.append_nil _).symm⟩, fun _ => rfl⟩
  | cons call calls ih =>
    have hfirst : ∃ more, custody.Grows (custody.step call).2 more ∧
        (custody.leavesTail call = false →
          more = Log.bytes ((stored? call (custody.step call).1).toList.map Prod.snd)) := by
      rcases h.step call with ⟨entry, hstored, -, hgrows, -⟩ | ⟨hstored, more, hgrows, htail⟩
      · exact ⟨_, hgrows, fun _ => by rw [hstored]; exact (Log.bytes_singleton _).symm⟩
      · exact ⟨more, hgrows, fun hnone => by rw [hstored]; exact htail hnone⟩
    obtain ⟨first, hgrows, htail⟩ := hfirst
    obtain ⟨later, hgrows', hlater⟩ := ih hgrows.counts
    refine ⟨first ++ later, ⟨hgrows'.object.trans hgrows.object, hgrows'.counts, ?_⟩, ?_⟩
    · have hcontent := hgrows'.content
      rw [content, hgrows.object, hgrows.content, List.append_assoc] at hcontent
      exact hcontent
    · intro htidy
      rw [tidy, Bool.and_eq_true, Bool.not_eq_true'] at htidy
      rw [htail htidy.1, hlater htidy.2, Custody.stored, List.map_append, Log.bytes_append]

/-! ## From the opening on -/

/-- A handle that was just opened counts right, and nothing was stored through it. -/
theorem keeps_of_openAt {volume : Volume} {path : String} {create : Bool} {sync : SyncPolicy}
    (hopen : LogFile.openAt volume path create sync = (.ok custody.file, custody.volume)) :
    custody.Keeps [] := by
  refine ⟨?_, by simp, by simp⟩
  unfold LogFile.openAt at hopen
  split at hopen
  · cases hopen
  · obtain ⟨hfile, hvolume⟩ := Prod.mk.inj hopen
    rw [Counts, ← Except.ok.inj hfile, ← hvolume]

/-- **A handle keeps its promises through any faults.**  Let a handle be opened on any object, and
let it alone append, read and force, where any append may be cut off after any number of bytes and
the disk may refuse to cut the object back.  After any run of calls:

* the handle's own length is that of the object, which still begins with all that it held at first;
* an append goes through if and only if it is not cut off, and then it tells the place that begins
  at this length and is as long as the record;
* at each place that was ever told, the handle reads the record that was stored there;
* if no cutting back was refused so far, the object holds what it held at first and then the records
  that were stored, in order.

A write that goes through must not leave an object larger than objects can be. -/
theorem keeps_its_promises {volume : Volume} {path : String} {create : Bool} {sync : SyncPolicy}
    (hopen : LogFile.openAt volume path create sync = (.ok custody.file, custody.volume))
    {calls : List Call} (hbounded : ∀ call ∈ calls, call.Bounded) :
    (custody.after calls).file.object = custody.file.object ∧
    (custody.after calls).file.length = (custody.after calls).volume.size custody.file.object ∧
    custody.content <+: (custody.after calls).content ∧
    (∀ medium record span,
      ((custody.after calls).step (.append medium record)).1 = .appended (.ok span) ↔
        span = ⟨(custody.after calls).file.length, record.encode.length⟩ ∧
          medium.cutOff (custody.after calls).file.position (custody.after calls).file.length
            record.encode.length = none) ∧
    (∀ entry ∈ custody.stored calls,
      ((custody.after calls).file.readAt (custody.after calls).volume entry.1).1 =
        .ok entry.2) ∧
    (custody.tidy calls = true →
      (custody.after calls).content =
        custody.content ++ Log.bytes ((custody.stored calls).map Prod.snd)) := by
  have hkeeps := keeps_of_openAt hopen
  obtain ⟨more, ⟨hobject, hcounts, hcontent⟩, htidy⟩ := hkeeps.counts.after calls
  rw [← hobject] at hcontent
  refine ⟨hobject, ?_, ⟨more, hcontent.symm⟩, ?_, ?_, ?_⟩
  · rw [← hobject]
    exact hcounts
  · intro medium record span
    exact hcounts.append_eq_ok_iff
  · intro entry hentry
    exact (hkeeps.after hbounded).readAt hentry
  · intro hclean
    rw [← htidy hclean]
    exact hcontent

/-! ## A tail in between -/

/-- A handle that was opened on an object with one byte, which is no record. -/
def onByte : Custody := ⟨⟨"heap", 0, 1, 0, .everyWrite⟩, Volume.empty.mount "heap" (some [7])⟩

/-- A disk that stores three bytes of a write and refuses to cut anything back. -/
def failing : Medium :=
  ⟨fun _ _ _ => some ⟨3, .other "out of order"⟩, fun _ _ => true⟩

/-- Two appends that go through, and one in between that leaves a tail. -/
def roughTimes : List Call :=
  [.append (.limited none) LogFile.recordOfX, .append failing LogFile.recordOfY,
    .sync (some (.other "out of order")), .append (.limited none) LogFile.recordOfY,
    .readAt ⟨1, 11⟩]

/-- The second record lies behind the tail, and both are read. -/
theorem keeps_its_promises_roughTimes :
    LogFile.openAt onByte.volume "heap" false .everyWrite = (.ok onByte.file, onByte.volume) ∧
      (∀ call ∈ roughTimes, call.Bounded) ∧ onByte.tidy roughTimes = false ∧
      (onByte.after roughTimes).file.length = 26 ∧
      onByte.stored roughTimes = [(⟨1, 11⟩, LogFile.recordOfX), (⟨15, 11⟩, LogFile.recordOfY)] ∧
      ((onByte.after roughTimes).file.readAt (onByte.after roughTimes).volume ⟨1, 11⟩).1 =
        .ok LogFile.recordOfX ∧
      ((onByte.after roughTimes).file.readAt (onByte.after roughTimes).volume ⟨15, 11⟩).1 =
        .ok LogFile.recordOfY := by
  have hopen : LogFile.openAt onByte.volume "heap" false .everyWrite =
      (.ok onByte.file, onByte.volume) := rfl
  have hfailing : failing.Bounded := fun _ _ _ hcut => by cases hcut
  have hbounded : ∀ call ∈ roughTimes, call.Bounded := by
    simp [roughTimes, Call.Bounded, hfailing, Medium.bounded_limited]
  have htidy : onByte.tidy roughTimes = false := by decide +kernel
  have hsize : (onByte.after roughTimes).volume.size onByte.file.object = 26 := by decide +kernel
  have hstored : onByte.stored roughTimes =
      [(⟨1, 11⟩, LogFile.recordOfX), (⟨15, 11⟩, LogFile.recordOfY)] := by decide +kernel
  obtain ⟨-, hlength, -, -, hread, -⟩ := keeps_its_promises hopen hbounded
  rw [hstored] at hread
  have hfirst := hread _ List.mem_cons_self
  have hsecond := hread _ (List.mem_cons_of_mem _ List.mem_cons_self)
  exact ⟨hopen, hbounded, htidy, hlength.trans hsize, hstored, hfirst, hsecond⟩

end Custody
end KeyLog
