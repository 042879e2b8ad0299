import KeyLog.Proofs.LogFile
import KeyLog.Proofs.Volume.Alike
import KeyLog.Store.Compaction

/-!
# Stores that are alike

Two handles are *alike* if they differ at most in where they stand.  What a handle answers depends on
that in one case only: where an append finds no place behind the handle (`Medium.cutAt`).  So handles
that stand at different places must both have room for a record there.

On volumes that are alike, handles that are alike have the same answers and stay alike.  The same
then holds of stores, and of every phase of a compaction.

* `LogFile.Alike.readAt`, `LogFile.Alike.append`: reading and appending through two handles.
* `Compaction.run_alike`: compacting through two handles.
* `Store.Alike.get`, `set`, `compact`: asking two stores; `Store.openWith_alike`: opening one on
  either volume.
-/

namespace KeyLog

namespace Medium

/-- Where a writer stands does not matter where there is a place behind it for what is written. -/
theorem cutAt_congr {reach position other size length : Nat}
    (h : position + length ≤ maxObjectSize) (hother : other + length ≤ maxObjectSize) :
    cutAt reach position size length = cutAt reach other size length := by
  simp only [cutAt, if_neg (Nat.not_lt.2 h), if_neg (Nat.not_lt.2 hother)]

end Medium

namespace Volume

/-- Two results are the same, and come with things that are related and volumes that are alike. -/
def AgreeWith {α β : Type} (related : β → β → Prop) (x y : α × β × Volume) : Prop :=
  x.1 = y.1 ∧ related x.2.1 y.2.1 ∧ x.2.2.Alike y.2.2

/-- What two results that agree are made of. -/
theorem AgreeWith.triples {α β : Type} {related : β → β → Prop} {x y : α × β × Volume}
    (h : AgreeWith related x y) :
    ∃ value s t a b, x = (value, s, a) ∧ y = (value, t, b) ∧ related s t ∧ a.Alike b := by
  obtain ⟨value, s, a⟩ := x
  obtain ⟨other, t, b⟩ := y
  obtain ⟨rfl, hrelated, hafter⟩ := h
  exact ⟨value, s, t, a, b, rfl, rfl, hrelated, hafter⟩

end Volume

variable {a b : Volume}

/-! ## Log files -/

namespace LogFile

/-- There is room for a record behind the place where the handle stands. -/
def HasRoom (file : LogFile) : Prop :=
  file.position + Layout.maxRecordSize ≤ Medium.maxObjectSize

/-- The handles are the same but for where they stand, and if they do not stand at the same place
then both have room. -/
structure Alike (s t : LogFile) : Prop where
  eq_move : ∃ position, t = { s with position }
  position : s.position = t.position ∨ s.HasRoom ∧ t.HasRoom

variable {s t : LogFile}

theorem Alike.refl (file : LogFile) : file.Alike file := ⟨⟨file.position, rfl⟩, .inl rfl⟩

/-- Handles that count on alike are alike. -/
theorem Alike.count (h : s.Alike t) (length : Nat) :
    Alike { s with length } { t with length } := by
  obtain ⟨position, rfl⟩ := h.eq_move
  exact ⟨⟨position, rfl⟩, h.position⟩

/-- **Both handles read the same** and stand alike behind it. -/
theorem Alike.readAt (hfile : s.Alike t) (h : a.Alike b) (span : Span) :
    ∃ result moved moved', s.readAt a span = (result, moved) ∧ t.readAt b span = (result, moved') ∧
      moved.Alike moved' := by
  obtain ⟨position, rfl⟩ := hfile.eq_move
  have hrecord : s.recordAt a span = recordAt b { s with position } span := by
    simp only [recordAt, h.size, h.read]
  refine ⟨_, _, _, rfl, by rw [LogFile.readAt, ← hrecord], ?_⟩
  simp only [positionAfter, h.size]
  split
  · exact hfile
  · exact .refl _

/-- A write moves both handles alike. -/
theorem Alike.wrote (hfile : s.Alike t) (h : a.Alike b) {after after' : Volume}
    (hafter : after.Alike after') : (s.wrote a after).Alike (t.wrote b after') := by
  obtain ⟨position, rfl⟩ := hfile.eq_move
  simp only [LogFile.wrote, h.size, hafter.size]
  split
  · exact hfile
  · exact .refl _

theorem Alike.rollBack (hfile : s.Alike t) (h : a.Alike b) (medium : Medium) :
    (s.rollBack medium a).1.Alike (t.rollBack medium b).1 ∧
      (s.rollBack medium a).2.Alike (t.rollBack medium b).2 := by
  obtain ⟨position, rfl⟩ := hfile.eq_move
  obtain ⟨result, after, after', ha, hb, hafter⟩ := (h.resize medium s.object s.length).pairs
  simp only [LogFile.rollBack, ha, hb]
  cases result with
  | none => exact ⟨hfile, hafter⟩
  | some cause =>
    simp only [hafter.size]
    exact ⟨hfile.count _, hafter⟩

/-- Handles that stand at one place, or that both have room, are cut off alike. -/
theorem cutOff_congr (hposition : s.position = t.position ∨ s.HasRoom ∧ t.HasRoom)
    (limit : Option Nat) (size : Nat) (record : Record) :
    (Medium.limited limit).cutOff s.position size record.encode.length =
      (Medium.limited limit).cutOff t.position size record.encode.length := by
  have hrecord : record.encode.length ≤ Layout.maxRecordSize := by
    rw [Record.length_encode]
    exact (Layout.recordSize_bounds record.key_pos record.key_le record.value_le).2
  rcases hposition with hsame | ⟨hroom, hroom'⟩
  · rw [hsame]
  · exact Medium.cutAt_congr (Nat.le_trans (Nat.add_le_add_left hrecord _) hroom)
      (Nat.le_trans (Nat.add_le_add_left hrecord _) hroom')

/-- **Both handles append the same**, or fail alike and take back what was stored. -/
theorem Alike.append (hfile : s.Alike t) (h : a.Alike b) (limit : Option Nat) (record : Record) :
    Volume.AgreeWith Alike (s.append (.limited limit) a record)
      (t.append (.limited limit) b record) := by
  have hcut := cutOff_congr hfile.position limit (b.size t.object) record
  obtain ⟨position, rfl⟩ := hfile.eq_move
  obtain ⟨result, after, after', ha, hb, hafter⟩ :=
    (h.append (.limited limit) s.object record.encode hcut).pairs
  simp only [LogFile.append, ha, hb]
  cases result with
  | none => exact ⟨rfl, (hfile.wrote h hafter).count _, hafter⟩
  | some cause => exact ⟨rfl, (hfile.wrote h hafter).rollBack hafter _⟩

/-- The same log is opened on both volumes. -/
theorem openAt_alike (h : a.Alike b) (path : String) (create : Bool) (sync : SyncPolicy) :
    Volume.Agree (openAt a path create sync) (openAt b path create sync) := by
  obtain ⟨result, after, after', ha, hb, hafter⟩ := (h.openFile path create).pairs
  simp only [openAt, ha, hb]
  cases result with
  | error cause => exact hafter.agree _
  | ok object =>
    simp only [hafter.size]
    exact hafter.agree _

end LogFile

/-- Objects that hold the same bytes are replayed alike. -/
theorem Replay.ofSource_held_congr {x y : Nat} (h : a.content x = b.content y) :
    ofSource (.ofSparse (a.held x)) = ofSource (.ofSparse (b.held y)) := by
  rw [ofSource_held, ofSource_held, h]

theorem Replay.verify_alike (h : a.Alike b) (path : String) : verify a path = verify b path := by
  obtain ⟨result, after, after', ha, hb, -⟩ := (h.openFile path false).pairs
  simp only [verify, ha, hb]
  cases result with
  | error cause => rfl
  | ok object => simp only [ofSource_held_congr (h.content object)]

/-! ## Compactions -/

namespace Compaction

variable {s t : LogFile}

theorem write_alike (h : a.Alike b) (medium : Medium) (object : Nat) (bytes : Bytes) :
    Volume.Agree (write medium a object bytes) (write medium b object bytes) := by
  simp only [write, h.size]
  split
  · exact h.agree _
  · exact h.append medium object bytes rfl

/-- **A step through both handles** leads to the same phase or the same end. -/
theorem step_alike (hfile : s.Alike t) (h : a.Alike b) (medium : Medium) (phase : Phase) :
    Volume.AgreeWith LogFile.Alike (step medium s a phase) (step medium t b phase) := by
  obtain ⟨position, rfl⟩ := hfile.eq_move
  cases phase with
  | opening todo =>
    obtain ⟨result, after, after', ha, hb, hafter⟩ := (h.openEmpty (temporaryPath s.path)).pairs
    simp only [step, ha, hb]
    cases result <;> exact ⟨rfl, hfile, hafter⟩
  | copying draft todo =>
    cases todo with
    | nil =>
      obtain ⟨result, after, after', ha, hb, hafter⟩ :=
        (write_alike h medium draft.object draft.pending).pairs
      simp only [step, ha, hb]
      cases result <;> exact ⟨rfl, hfile, hafter⟩
    | cons entry todo =>
      obtain ⟨key, span⟩ := entry
      obtain ⟨result, moved, moved', hread, hread', hmoved⟩ := hfile.readAt h span
      simp only [step, hread, hread']
      cases result with
      | error error => exact ⟨rfl, hmoved, h⟩
      | ok record =>
        obtain ⟨result, after, after', ha, hb, hafter⟩ :=
          (write_alike h medium (draft.add key record).2.object (draft.add key record).1).pairs
        simp only [ha, hb]
        cases result <;> exact ⟨rfl, hmoved, hafter⟩
  | reopening index =>
    obtain ⟨result, after, after', ha, hb, hafter⟩ :=
      (LogFile.openAt_alike h (temporaryPath s.path) false s.sync).pairs
    simp only [step, ha, hb]
    cases result <;> exact ⟨rfl, hfile, hafter⟩
  | replacing draft index =>
    obtain ⟨result, after, after', ha, hb, hafter⟩ :=
      (h.rename (temporaryPath s.path) s.path).pairs
    simp only [step, ha, hb]
    cases result <;> exact ⟨rfl, hfile, hafter⟩
  | discarding draft error =>
    exact ⟨rfl, hfile, (write_alike h medium draft.object draft.pending).2⟩
  | removing error =>
    exact ⟨rfl, hfile, (h.remove _).2⟩

/-- A run is a step and, unless that was the last one, a run from where it led. -/
theorem run_eq (medium : Medium) (file : LogFile) (volume : Volume) (phase : Phase) :
    run medium file volume phase =
      match step medium file volume phase with
      | (.finished outcome, file, volume) => (outcome, file, volume)
      | (.to next, file, volume) => run medium file volume next := by
  rw [run]
  split
  next hstep => rw [hstep]
  next hstep => rw [hstep]

/-- **A compaction through both handles** comes to the same end. -/
theorem run_alike (hfile : s.Alike t) (h : a.Alike b) (medium : Medium) (phase : Phase) :
    Volume.AgreeWith LogFile.Alike (run medium s a phase) (run medium t b phase) := by
  fun_induction run medium s a phase generalizing t b with
  | case1 file volume phase outcome moved after hstep =>
    obtain ⟨_, _, moved', _, after', ha, hb, hmoved, hafter⟩ :=
      (step_alike hfile h medium phase).triples
    cases hstep.symm.trans ha
    rw [run_eq medium t, hb]
    exact ⟨rfl, hmoved, hafter⟩
  | case2 file volume phase next moved after hstep ih =>
    obtain ⟨_, _, moved', _, after', ha, hb, hmoved, hafter⟩ :=
      (step_alike hfile h medium phase).triples
    cases hstep.symm.trans ha
    rw [run_eq medium t, hb]
    exact ih hmoved hafter

end Compaction

/-! ## Stores -/

namespace Store

/-- The stores are the same but for where their handles stand. -/
structure Alike (s t : Store) : Prop where
  eq_file : ∃ file, t = { s with file }
  file : s.file.Alike t.file

variable {s t : Store}

theorem Alike.refl (store : Store) : store.Alike store := ⟨⟨store.file, rfl⟩, .refl _⟩

/-- The same store is opened on both volumes. -/
theorem openWith_alike (h : a.Alike b) (settings : Settings) :
    Volume.Agree (openWith a settings) (openWith b settings) := by
  obtain ⟨result, after, after', ha, hb, hafter⟩ :=
    (LogFile.openAt_alike h settings.path settings.createIfMissing settings.sync).pairs
  simp only [openWith, ha, hb]
  cases result with
  | error error => exact hafter.agree _
  | ok file =>
    simp only [LogFile.replay, Replay.ofSource_held_congr (hafter.content file.object)]
    split <;> exact hafter.agree _

/-- **Both stores answer a look-up alike.** -/
theorem Alike.get (hstore : s.Alike t) (h : a.Alike b) (key : String) :
    (s.get a key).1 = (t.get b key).1 ∧ (s.get a key).2.Alike (t.get b key).2 := by
  obtain ⟨file, rfl⟩ := hstore.eq_file
  simp only [Store.get]
  split
  · exact ⟨rfl, hstore⟩
  split
  · exact ⟨rfl, hstore⟩
  next span _ =>
    obtain ⟨result, moved, moved', hread, hread', hmoved⟩ := hstore.file.readAt h span
    simp only [hread, hread']
    cases result <;> exact ⟨rfl, ⟨moved', rfl⟩, hmoved⟩

/-- **Both stores take a `set` alike.** -/
theorem Alike.set (hstore : s.Alike t) (h : a.Alike b) (limit : Option Nat) (key value : String) :
    Volume.AgreeWith Alike (s.set (.limited limit) a key value)
      (t.set (.limited limit) b key value) := by
  obtain ⟨file, rfl⟩ := hstore.eq_file
  simp only [Store.set]
  split
  · exact ⟨rfl, hstore, h⟩
  next record _ =>
    obtain ⟨result, moved, moved', after, after', ha, hb, hmoved, hafter⟩ :=
      (hstore.file.append h limit record).triples
    simp only [ha, hb]
    cases result <;> exact ⟨rfl, ⟨⟨moved', rfl⟩, hmoved⟩, hafter⟩

/-- **Both stores are compacted alike.** -/
theorem Alike.compact (hstore : s.Alike t) (h : a.Alike b) (medium : Medium) :
    Volume.AgreeWith Alike (s.compact medium a) (t.compact medium b) := by
  obtain ⟨file, rfl⟩ := hstore.eq_file
  obtain ⟨outcome, moved, moved', after, after', ha, hb, hmoved, hafter⟩ :=
    (Compaction.run_alike hstore.file h medium (.opening s.index.entries)).triples
  obtain ⟨position, hfile⟩ : ∃ position, file = { s.file with position } := hstore.file.eq_move
  have hlength : file.length = s.file.length := by rw [hfile]
  simp only [Store.compact, ha, hb, hlength]
  cases outcome with
  | error error => exact ⟨rfl, ⟨⟨moved', rfl⟩, hmoved⟩, hafter⟩
  | ok new => exact ⟨rfl, .refl _, hafter⟩

end Store
end KeyLog
