import KeyLog.Proofs.Store.Alike
import KeyLog.Proofs.Volume.Paired

/-!
# Stores that are twins

Two handles are *twins* if their objects are a pair and they differ in nothing else but where they
stand; if they stand at different places, both have room for a record there (`LogFile.HasRoom`).  On
volumes that match (`Volume.Matching`) such handles have the same answers and stay twins, and so have
two stores with such handles and the same index.

A compaction makes its draft of a different object in each volume, and the new log is that object.
So the pairs change from step to step (`Compaction.Phase.Twin`), and the handles that a compaction
leaves are twins by other pairs than before.

* `LogFile.Twin.readAt`, `append`, `LogFile.openAt_twins`: reading, appending, opening.
* `Compaction.run_twins`: compacting.
* `Store.Twin.get`, `set`, `compact`, `Store.openWith_twins`: asking two stores, and opening them.
-/

namespace KeyLog

variable {path temporary : String} {pairs more : Nat → Nat → Prop} {draft : Option (Nat × Nat)}
  {R : (Nat → Nat → Prop) → Option (Nat × Nat) → Volume → Volume → Prop} {a b : Volume}

/-! ## Log files -/

namespace LogFile

/-- The handles were opened at this path, on a pair of objects, and are the same but for where they
stand; if they do not stand at the same place then both have room. -/
structure Twin (path : String) (pairs : Nat → Nat → Prop) (s t : LogFile) : Prop where
  path : s.path = path
  eq_move : ∃ object position, t = { s with object, position }
  pair : pairs s.object t.object
  position : s.position = t.position ∨ s.HasRoom ∧ t.HasRoom

variable {s t : LogFile}

theorem Twin.mono (h : s.Twin path pairs t) (hmore : ∀ x y, pairs x y → more x y) :
    s.Twin path more t :=
  ⟨h.path, h.eq_move, hmore _ _ h.pair, h.position⟩

/-- Handles that stand at the same place from now on are twins. -/
theorem Twin.stand (h : s.Twin path pairs t) (length position : Nat) :
    Twin path pairs { s with length, position } { t with length, position } := by
  obtain ⟨object, _, rfl⟩ := h.eq_move
  exact ⟨h.path, ⟨object, position, rfl⟩, h.pair, .inl rfl⟩

/-- Handles that count on alike are twins. -/
theorem Twin.count (h : s.Twin path pairs t) (length : Nat) :
    Twin path pairs { s with length } { t with length } := by
  obtain ⟨object, position, rfl⟩ := h.eq_move
  exact ⟨h.path, ⟨object, position, rfl⟩, h.pair, h.position⟩

/-- **Both handles read the same** and stand alike behind it. -/
theorem Twin.readAt (hfile : s.Twin path pairs t) (h : Volume.Paired pairs a b) (span : Span) :
    ∃ result moved moved', s.readAt a span = (result, moved) ∧ t.readAt b span = (result, moved') ∧
      moved.Twin path pairs moved' := by
  have hsize := h.size hfile.pair
  have hread := h.read hfile.pair
  have hstand := hfile.stand s.length
  obtain ⟨object, position, rfl⟩ := hfile.eq_move
  have hrecord : s.recordAt a span = recordAt b { s with object, position } span := by
    simp only [recordAt, hsize, hread]
  refine ⟨_, _, _, rfl, by rw [LogFile.readAt, ← hrecord], ?_⟩
  simp only [positionAfter, hsize]
  split
  · exact hfile
  · exact hstand _

/-- A write moves both handles alike. -/
theorem Twin.wrote (hfile : s.Twin path pairs t) (h : Volume.Paired pairs a b)
    {after after' : Volume} (hafter : Volume.Paired pairs after after') :
    (s.wrote a after).Twin path pairs (t.wrote b after') := by
  have hsize := h.size hfile.pair
  have hsizeAfter := hafter.size hfile.pair
  have hstand := hfile.stand s.length
  obtain ⟨object, position, rfl⟩ := hfile.eq_move
  simp only [LogFile.wrote, hsize, hsizeAfter]
  split
  · exact hfile
  · exact hstand _

theorem Twin.rollBack (hfile : s.Twin path pairs t)
    (hR : Volume.Matching path temporary R) (h : R pairs draft a b) (medium : Medium) :
    ∃ moved moved' after after', s.rollBack medium a = (moved, after) ∧
      t.rollBack medium b = (moved', after') ∧ moved.Twin path pairs moved' ∧
        R pairs draft after after' := by
  have hlength : t.length = s.length := by
    obtain ⟨object, position, rfl⟩ := hfile.eq_move
    rfl
  obtain ⟨result, after, after', ha, hb, hafter⟩ := hR.resize h hfile.pair medium s.length
  simp only [LogFile.rollBack, hlength, ha, hb]
  cases result with
  | none => exact ⟨_, _, _, _, rfl, rfl, hfile, hafter⟩
  | some cause =>
    dsimp only
    rw [(hR.paired hafter).size hfile.pair]
    exact ⟨_, _, _, _, rfl, rfl, hfile.count _, hafter⟩

/-- **Both handles append the same**, or fail alike and take back what was stored. -/
theorem Twin.append (hfile : s.Twin path pairs t)
    (hR : Volume.Matching path temporary R) (h : R pairs draft a b) (limit : Option Nat)
    (record : Record) :
    ∃ result moved moved' after after',
      s.append (.limited limit) a record = (result, moved, after) ∧
      t.append (.limited limit) b record = (result, moved', after') ∧
      moved.Twin path pairs moved' ∧
        R pairs draft after after' := by
  have hlength : t.length = s.length := by
    obtain ⟨object, position, rfl⟩ := hfile.eq_move
    rfl
  have hcut := cutOff_congr hfile.position limit (b.size t.object) record
  obtain ⟨result, after, after', ha, hb, hafter⟩ :=
    hR.append h hfile.pair (.limited limit) record.encode hcut
  have hwrote := hfile.wrote (hR.paired h) (hR.paired hafter)
  simp only [LogFile.append, ha, hb, hlength]
  cases result with
  | none => exact ⟨_, _, _, _, _, rfl, rfl, hwrote.count _, hafter⟩
  | some cause =>
    obtain ⟨moved, moved', later, later', hroll, hroll', hmoved, hlater⟩ :=
      hwrote.rollBack hR hafter (.limited limit)
    dsimp only
    rw [hroll, hroll']
    exact ⟨_, _, _, _, _, rfl, rfl, hmoved, hlater⟩

/-- Handles that are opened on a pair of objects are twins. -/
theorem twin_opened (h : Volume.Paired pairs a b) {x y : Nat} (hpair : pairs x y) (path : String)
    (sync : SyncPolicy) :
    Twin path pairs ⟨path, x, a.size x, 0, sync⟩ ⟨path, y, b.size y, 0, sync⟩ := by
  rw [h.size hpair]
  exact ⟨rfl, ⟨y, 0, rfl⟩, hpair, .inl rfl⟩

/-- **The log at the path is opened alike.** -/
theorem openAt_twins (hR : Volume.Matching path temporary R) (h : R pairs none a b) (create : Bool)
    (sync : SyncPolicy) :
    (∃ error, openAt a path create sync = (.error error, a) ∧
        openAt b path create sync = (.error error, b)) ∨
      ∃ more s t after after', openAt a path create sync = (.ok s, after) ∧
        openAt b path create sync = (.ok t, after') ∧ (∀ x y, pairs x y → more x y) ∧
          s.Twin path more t ∧ R more none after after' := by
  rcases hR.openFile create h with
    ⟨cause, ha, hb⟩ | ⟨more, x, y, after, after', ha, hb, hmore, hpair, hafter, -⟩
  · exact .inl ⟨.io cause, by rw [openAt, ha], by rw [openAt, hb]⟩
  · exact .inr ⟨more, _, _, after, after', by rw [openAt, ha], by rw [openAt, hb], hmore,
      twin_opened (hR.paired hafter) hpair path sync, hafter⟩

end LogFile

/-- The log at the path is verified alike. -/
theorem Replay.verify_twins (hR : Volume.Matching path temporary R) (h : R pairs none a b) :
    verify a path = verify b path := by
  rcases hR.openFile false h with
    ⟨cause, ha, hb⟩ | ⟨more, x, y, after, after', ha, hb, -, hpair, hafter, hsame⟩
  · simp only [verify, ha, hb]
  · obtain ⟨rfl, rfl⟩ := hsame rfl
    simp only [verify, ha, hb, ofSource_held_congr ((hR.paired hafter).content x y hpair)]

/-! ## Compactions -/

namespace Compaction

variable {s t : LogFile}

/-- The phases of two compactions are the same, but for the objects of the drafts and where their
handles stand. -/
inductive Phase.Twin (path : String) (pairs : Nat → Nat → Prop) :
    Option (Nat × Nat) → Phase → Phase → Prop
  | opening (todo : List (String × Span)) : Twin path pairs none (.opening todo) (.opening todo)
  | copying {d e : Nat} {pending : Bytes} {index : Index} {offset : Nat}
      (todo : List (String × Span)) :
      Twin path pairs (some (d, e)) (.copying ⟨d, pending, index, offset⟩ todo)
        (.copying ⟨e, pending, index, offset⟩ todo)
  | reopening {d e : Nat} (index : Index) :
      Twin path pairs (some (d, e)) (.reopening index) (.reopening index)
  | replacing {d e : Nat} {s t : LogFile} (h : s.Twin (temporaryPath path) pairs t) (index : Index) :
      Twin path pairs (some (d, e)) (.replacing s index) (.replacing t index)
  | discarding {d e : Nat} {pending : Bytes} {index : Index} {offset : Nat} (error : StoreError) :
      Twin path pairs (some (d, e)) (.discarding ⟨d, pending, index, offset⟩ error)
        (.discarding ⟨e, pending, index, offset⟩ error)
  | removing {draft : Option (Nat × Nat)} (error : StoreError) :
      Twin path pairs draft (.removing error) (.removing error)

/-- Two compactions have ended alike: the new handles are twins, or the old ones still are. -/
inductive TwinEnd (path : String)
    (R : (Nat → Nat → Prop) → Option (Nat × Nat) → Volume → Volume → Prop) :
    Outcome × LogFile × Volume → Outcome × LogFile × Volume → Prop
  | ok {pairs : Nat → Nat → Prop} {new new' s t : LogFile} {index : Index} {a b : Volume}
      (h : R pairs none a b)
      (hnew : new.Twin path pairs new') : TwinEnd path R (.ok (new, index), s, a)
        (.ok (new', index), t, b)
  | error {pairs : Nat → Nat → Prop} {s t : LogFile} {error : StoreError} {a b : Volume}
      (h : R pairs none a b)
      (hfile : s.Twin path pairs t) : TwinEnd path R (.error error, s, a) (.error error, t, b)

/-- Two steps have led on alike, or to ends that are alike. -/
inductive TwinStep (path : String)
    (R : (Nat → Nat → Prop) → Option (Nat × Nat) → Volume → Volume → Prop) :
    Progress × LogFile × Volume → Progress × LogFile × Volume → Prop
  | led {pairs : Nat → Nat → Prop} {draft : Option (Nat × Nat)} {p q : Phase} {s t : LogFile}
      {a b : Volume} (h : R pairs draft a b) (hfile : s.Twin path pairs t)
      (hphase : p.Twin path pairs draft q) :
      TwinStep path R (.to p, s, a) (.to q, t, b)
  | finished {outcome outcome' : Outcome} {s t : LogFile} {a b : Volume}
      (h : TwinEnd path R (outcome, s, a) (outcome', t, b)) :
      TwinStep path R (.finished outcome, s, a) (.finished outcome', t, b)

/-- The same bytes are written to both drafts, or both writes are cut off. -/
theorem write_twins (hR : Volume.Matching path temporary R) (h : R pairs draft a b)
    {d e : Nat} (hpair : pairs d e) (medium : Medium) (bytes : Bytes) :
    ∃ result after after', write medium a d bytes = (result, after) ∧
      write medium b e bytes = (result, after') ∧
        R pairs draft after after' := by
  simp only [write, (hR.paired h).size hpair]
  split
  · exact ⟨_, _, _, rfl, rfl, h⟩
  · exact hR.append h hpair medium bytes rfl

/-- **A step through both handles** leads to the same phase or the same end. -/
theorem step_twins (hR : Volume.Matching path (temporaryPath path) R) (h : R pairs draft a b)
    (hfile : s.Twin path pairs t) (medium : Medium) {p q : Phase}
    (hphase : p.Twin path pairs draft q) :
    TwinStep path R (step medium s a p) (step medium t b q) := by
  have hpath : s.path = path := hfile.path
  have hpath' : t.path = path := by
    obtain ⟨object, position, rfl⟩ := hfile.eq_move
    exact hpath
  cases hphase with
  | opening todo =>
    rcases hR.openEmpty h with ⟨cause, ha, hb⟩ | ⟨more, d, e, after, after', ha, hb, hmore, hafter⟩
    · simp only [step, hpath, hpath', ha, hb]
      exact .led h hfile (.removing _)
    · simp only [step, hpath, hpath', ha, hb]
      exact .led hafter (hfile.mono hmore) (.copying todo)
  | @copying d e pending index offset todo =>
    have hpair : pairs d e := (hR.drafted h).1
    cases todo with
    | nil =>
      obtain ⟨result, after, after', ha, hb, hafter⟩ := write_twins hR h hpair medium pending
      simp only [step, ha, hb]
      cases result with
      | none => exact .led hafter hfile (.reopening index)
      | some cause => exact .led hafter hfile (.removing _)
    | cons entry todo =>
      obtain ⟨key, span⟩ := entry
      obtain ⟨result, moved, moved', hread, hread', hmoved⟩ := hfile.readAt (hR.paired h) span
      simp only [step, hread, hread']
      cases result with
      | error error => exact .led h hmoved (.discarding error)
      | ok record =>
        obtain ⟨result, after, after', ha, hb, hafter⟩ :=
          write_twins hR h hpair medium (collect pending record.encode).1
        simp only [Draft.add, ha, hb]
        cases result with
        | none => exact .led hafter hmoved (.copying todo)
        | some cause => exact .led hafter hmoved (.removing _)
  | @reopening d e index =>
    obtain ⟨hpair, hleads, hleads'⟩ := hR.drafted h
    have hsync : t.sync = s.sync := by
      obtain ⟨object, position, rfl⟩ := hfile.eq_move
      rfl
    simp only [step, LogFile.openAt, hpath, hpath', hleads.openFile, hleads'.openFile, hsync]
    exact .led h hfile (.replacing (LogFile.twin_opened (hR.paired h) hpair _ _) index)
  | @replacing d e new new' hnew index =>
    rcases hR.rename h with ⟨cause, ha, hb⟩ | ⟨after, after', ha, hb, hafter⟩
    · simp only [step, hpath, hpath', ha, hb]
      exact .led h hfile (.removing _)
    · simp only [step, hpath, hpath', ha, hb]
      obtain ⟨object, position, rfl⟩ := hnew.eq_move
      exact .finished (.ok hafter ⟨rfl, ⟨object, position, rfl⟩, hnew.pair, hnew.position⟩)
  | @discarding d e pending index offset error =>
    obtain ⟨result, after, after', ha, hb, hafter⟩ :=
      write_twins hR h (hR.drafted h).1 medium pending
    simp only [step, ha, hb]
    exact .led hafter hfile (.removing error)
  | removing error =>
    simp only [step, hpath, hpath']
    exact .finished (.error (hR.remove h) hfile)

/-- **A compaction through both handles** comes to the same end. -/
theorem run_twins (hR : Volume.Matching path (temporaryPath path) R) (h : R pairs draft a b)
    (hfile : s.Twin path pairs t) (medium : Medium) {p q : Phase}
    (hphase : p.Twin path pairs draft q) :
    TwinEnd path R (run medium s a p) (run medium t b q) := by
  fun_induction run medium s a p generalizing pairs draft t b q with
  | case1 file volume phase outcome moved after hstep =>
    have htwin := step_twins hR h hfile medium hphase
    rw [hstep] at htwin
    rw [run_eq medium t]
    generalize step medium t b q = result at htwin
    cases htwin with
    | finished hend => exact hend
  | case2 file volume phase next moved after hstep ih =>
    have htwin := step_twins hR h hfile medium hphase
    rw [hstep] at htwin
    rw [run_eq medium t]
    generalize step medium t b q = result at htwin
    cases htwin with
    | led hafter hmoved hnext => exact ih hafter hmoved hnext

end Compaction

/-! ## Stores -/

namespace Store

/-- The stores have twins for handles, and are the same otherwise. -/
structure Twin (path : String) (pairs : Nat → Nat → Prop) (s t : Store) : Prop where
  eq_file : ∃ file, t = { s with file }
  file : s.file.Twin path pairs t.file

variable {s t : Store}

/-- **Both stores answer a look-up alike.** -/
theorem Twin.get (hstore : s.Twin path pairs t) (h : Volume.Paired pairs a b) (key : String) :
    (s.get a key).1 = (t.get b key).1 ∧ (s.get a key).2.Twin path pairs (t.get b key).2 := by
  obtain ⟨file, rfl⟩ := hstore.eq_file
  simp only [Store.get]
  split
  · exact ⟨rfl, hstore⟩
  split
  · exact ⟨rfl, hstore⟩
  next span _ =>
    obtain ⟨result, moved, moved', hread, hread', hmoved⟩ := hstore.file.readAt h span
    simp only [hread, hread']
    cases result <;> exact ⟨rfl, ⟨moved', rfl⟩, hmoved⟩

/-- **Both stores take a `set` alike.** -/
theorem Twin.set (hstore : s.Twin path pairs t)
    (hR : Volume.Matching path temporary R) (h : R pairs draft a b) (limit : Option Nat)
    (key value : String) :
    ∃ result moved moved' after after',
      s.set (.limited limit) a key value = (result, moved, after) ∧
      t.set (.limited limit) b key value = (result, moved', after') ∧
      moved.Twin path pairs moved' ∧
        R pairs draft after after' := by
  obtain ⟨file, rfl⟩ := hstore.eq_file
  simp only [Store.set]
  split
  · exact ⟨_, _, _, _, _, rfl, rfl, hstore, h⟩
  next record _ =>
    obtain ⟨result, moved, moved', after, after', ha, hb, hmoved, hafter⟩ :=
      hstore.file.append hR h limit record
    simp only [ha, hb]
    cases result <;> exact ⟨_, _, _, _, _, rfl, rfl, ⟨⟨moved', rfl⟩, hmoved⟩, hafter⟩

/-- **Both stores are compacted alike.** -/
theorem Twin.compact (hstore : s.Twin path pairs t)
    (hR : Volume.Matching path (Compaction.temporaryPath path) R) (h : R pairs none a b)
    (medium : Medium) :
    ∃ more result moved moved' after after', s.compact medium a = (result, moved, after) ∧
      t.compact medium b = (result, moved', after') ∧ moved.Twin path more moved' ∧
        R more none after after' := by
  have hend := Compaction.run_twins hR h hstore.file medium (.opening s.index.entries)
  obtain ⟨file, rfl⟩ := hstore.eq_file
  have hlength : file.length = s.file.length := by
    obtain ⟨object, position, hfile⟩ := hstore.file.eq_move
    exact (congrArg LogFile.length hfile).trans rfl
  simp only [Store.compact, hlength]
  generalize Compaction.run medium s.file a (.opening s.index.entries) = left at hend
  generalize Compaction.run medium file b (.opening s.index.entries) = right at hend
  cases hend with
  | @error more moved moved' error after after' hafter hmoved =>
    exact ⟨more, _, _, _, after, after', rfl, rfl, ⟨⟨moved', rfl⟩, hmoved⟩, hafter⟩
  | @ok more new new' _ _ index after after' hafter hnew =>
    have hnewLength : new'.length = new.length := by
      obtain ⟨object, position, rfl⟩ := hnew.eq_move
      rfl
    dsimp only
    rw [hnewLength]
    exact ⟨more, _, _, _, after, after', rfl, rfl, ⟨⟨new', rfl⟩, hnew⟩, hafter⟩

/-- **The store at the path is opened alike.** -/
theorem openWith_twins {settings : Settings} (hpath : settings.path = path)
    (hR : Volume.Matching path temporary R) (h : R pairs none a b) :
    ∃ more after after', (∀ x y, pairs x y → more x y) ∧
      R more none after after' ∧
        ((∃ error, openWith a settings = (.error error, after) ∧
            openWith b settings = (.error error, after')) ∨
          ∃ s t, openWith a settings = (.ok s, after) ∧ openWith b settings = (.ok t, after') ∧
            s.Twin path more t) := by
  subst hpath
  rcases LogFile.openAt_twins hR h settings.createIfMissing settings.sync with
    ⟨error, ha, hb⟩ | ⟨more, file, file', after, after', ha, hb, hmore, hfile, hafter⟩
  · exact ⟨pairs, a, b, fun _ _ => id, h, .inl ⟨error, by simp only [openWith, ha],
      by simp only [openWith, hb]⟩⟩
  · refine ⟨more, after, after', hmore, hafter, ?_⟩
    have hreplay := Replay.ofSource_held_congr ((hR.paired hafter).content _ _ hfile.pair)
    simp only [openWith, ha, hb, LogFile.replay, hreplay]
    cases Replay.ofSource (.ofSparse (after'.held file'.object)) with
    | error error => exact .inl ⟨error, rfl, rfl⟩
    | ok replay =>
      obtain ⟨object, position, rfl⟩ := hfile.eq_move
      exact .inr ⟨_, _, rfl, rfl, ⟨_, rfl⟩, hfile.stand _ _⟩

end Store
end KeyLog
