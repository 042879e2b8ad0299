import KeyLog.Proofs.Compaction.Run
import KeyLog.Proofs.Index
import KeyLog.Proofs.Log.Basic
import KeyLog.Proofs.Store.Lookup
import KeyLog.Proofs.Volume.Draft

/-!
# What a compaction does with any file

A compaction copies whatever records its handle finds at the places of its entries.  Nothing is
assumed here about the bytes of the file, which may have been changed behind the handle, about the
names on the volume, or about who else has files open.

Until the renaming, the draft is the only thing that is different from the volume at the beginning
(`Volume.Drafted`), and so a compaction that fails is undone (`Volume.Undone`).  One that goes
through has found a record at every place, and the new file has these records and nothing else.

* `Compaction.copies_step`: a step keeps this, or ends the compaction.
* `Compaction.copies_run`: hence so does a run.
* `Store.compact_cases`: what comes of compacting a store.
-/

namespace KeyLog

/-! ## Reading -/

namespace LogFile

variable {volume other : Volume} {file : LogFile} {span : Span}

/-- What is found at a place depends on the bytes of the object only. -/
theorem recordAt_congr (h : other.content file.object = volume.content file.object) :
    file.recordAt other span = file.recordAt volume span := by
  have hsize : other.size file.object = volume.size file.object := by
    rw [Volume.size_eq, Volume.size_eq, h]
  simp only [recordAt, hsize, Volume.read_eq, h]

/-- No record is found in an object without bytes. -/
theorem recordAt_ne_ok_of_empty (h : volume.content file.object = []) (record : Record) :
    file.recordAt volume span ≠ .ok record := by
  intro hrecord
  obtain ⟨-, -, front, back, hcontent, -⟩ := recordAt_eq_ok_iff.1 hrecord
  rw [h] at hcontent
  have hlength := congrArg List.length hcontent
  have hpos := record.size_pos
  simp only [List.length_nil, List.length_append, Record.length_encode] at hlength
  omega

/-- The handle has at most moved, and then not past the end of its log. -/
def Moved (file moved : LogFile) : Prop :=
  ∃ position, moved = { file with position } ∧
    (position = file.position ∨ position ≤ file.length)

theorem Moved.refl (file : LogFile) : file.Moved file := ⟨file.position, rfl, .inl rfl⟩

/-- Reading moves a handle, and not past the end of its log. -/
theorem Moved.readAt {moved : LogFile} (h : file.Moved moved) (volume : Volume) (span : Span) :
    file.Moved (moved.readAt volume span).2 := by
  obtain ⟨position, rfl, hposition⟩ := h
  refine ⟨_, rfl, ?_⟩
  simp only [positionAfter]
  split
  · exact hposition
  next hinside =>
    rw [not_or, Nat.not_lt] at hinside
    have hstop : span.offset + span.length ≤ file.length := hinside.1
    split
    · exact .inr (by omega)
    · exact .inr (by omega)

end LogFile

namespace Compaction

variable {medium : Medium} {origin volume : Volume} {file moved : LogFile}
  {entries : List (String × Span)}

/-- At the place of each entry the handle finds a record, and these are the records. -/
def Found (volume : Volume) (file : LogFile) (entries : List (String × Span)) (records : Log) :
    Prop :=
  List.Forall₂ (fun entry record => file.recordAt volume entry.2 = .ok record) entries records

/-- The keys of an index are those of some entries. -/
def KeysOf (index : Index) (entries : List (String × Span)) : Prop :=
  ∀ key, (index.find? key).isSome ↔ key ∈ entries.map Prod.fst

/-! ## The invariant -/

/-- What a phase of a compaction has come to, from the volume where it began. -/
def Phase.Copies (origin volume : Volume) (file : LogFile) (entries : List (String × Span)) :
    Phase → Prop
  | .opening todo => todo = entries ∧ volume = origin
  | .copying draft todo =>
    ∃ hidden done records, entries = done ++ todo ∧
      origin.Drafted volume (temporaryPath file.path) hidden draft.object ∧
      Found origin file done records ∧ KeysOf draft.index done ∧
      volume.content draft.object ++ draft.pending = records.bytes ∧
      -- the file may be the very one that the draft was made of, but then nothing can be read
      (file.object ≠ draft.object ∧ volume.content file.object = origin.content file.object ∨
        volume.content file.object = [])
  | .reopening index =>
    ∃ hidden draft records, origin.Drafted volume (temporaryPath file.path) hidden draft ∧
      Found origin file entries records ∧ KeysOf index entries ∧
      volume.content draft = records.bytes
  | .replacing draft index =>
    ∃ hidden records, origin.Drafted volume (temporaryPath file.path) hidden draft.object ∧
      Found origin file entries records ∧ KeysOf index entries ∧
      volume.content draft.object = records.bytes
  | .discarding draft _ =>
    ∃ hidden, origin.Drafted volume (temporaryPath file.path) hidden draft.object
  | .removing _ =>
    volume = origin ∧ (∀ object, ¬ origin.Leads (temporaryPath file.path) object) ∨
      ∃ hidden draft, origin.Drafted volume (temporaryPath file.path) hidden draft

/-- What a compaction has come to in the end. -/
def Copied (origin : Volume) (file : LogFile) (entries : List (String × Span)) :
    Outcome × LogFile × Volume → Prop
  | (.ok (new, index), moved, volume) =>
    file.Moved moved ∧ new.path = file.path ∧ ∃ records, Found origin file entries records ∧
      KeysOf index entries ∧ volume.Leads file.path new.object ∧
      volume.content new.object = records.bytes
  | (.error _, moved, volume) =>
    file.Moved moved ∧ origin.Undone volume (temporaryPath file.path)

/-- A step has led on, or to an end. -/
def CopiedStep (origin : Volume) (file : LogFile) (entries : List (String × Span)) :
    Progress × LogFile × Volume → Prop
  | (.to phase, moved, volume) => file.Moved moved ∧ phase.Copies origin volume file entries
  | (.finished outcome, moved, volume) => Copied origin file entries (outcome, moved, volume)

/-! ## One step -/

theorem copies_opening {todo : List (String × Span)} (hknown : file.object < origin.fresh)
    (hmoved : file.Moved moved) (h : (Phase.opening todo).Copies origin volume file entries) :
    CopiedStep origin file entries (step medium moved volume (.opening todo)) := by
  obtain ⟨rfl, rfl⟩ := h
  obtain ⟨position, rfl, hposition⟩ := hmoved
  simp only [step]
  rcases Volume.openEmpty_drafted volume (temporaryPath file.path) with
    ⟨cause, hopen, hnone⟩ | ⟨draft, after, hidden, hopen, hdrafted, hcontent⟩
  · rw [hopen]
    exact ⟨⟨position, rfl, hposition⟩, .inl ⟨rfl, hnone⟩⟩
  · rw [hopen]
    refine ⟨⟨position, rfl, hposition⟩, hidden, [], [], rfl, hdrafted, .nil, ?_, ?_, ?_⟩
    · intro key
      rw [Index.find?_empty]
      simp
    · rw [hcontent]
      rfl
    · by_cases hsame : file.object = draft
      · exact .inr (hsame ▸ hcontent)
      · refine .inl ⟨hsame, hdrafted.content _ hknown fun hleads => ?_⟩
        exact hsame (hdrafted.reused _ hleads)

/-- A record that was found goes to the end of those that were copied. -/
theorem Found.concat {done : List (String × Span)} {records : Log} {entry : String × Span}
    {record : Record} (h : Found origin file done records)
    (hrecord : file.recordAt origin entry.2 = .ok record) :
    Found origin file (done ++ [entry]) (records ++ [record]) :=
  List.rel_append h (.cons hrecord .nil)

/-- A key that is added to an index is added to its keys. -/
theorem KeysOf.insert {index : Index} {done : List (String × Span)} (h : KeysOf index done)
    (entry : String × Span) (span : Span) :
    KeysOf (index.insert entry.1 span) (done ++ [entry]) := by
  intro key
  rw [Index.find?_insert, List.map_append, List.mem_append, ← h key]
  by_cases hkey : key = entry.1
  · simp [hkey]
  · simp [hkey]

theorem copies_copying_cons {draft : Draft} {entry : String × Span} {todo : List (String × Span)}
    (hmoved : file.Moved moved)
    (h : (Phase.copying draft (entry :: todo)).Copies origin volume file entries) :
    CopiedStep origin file entries (step medium moved volume (.copying draft (entry :: todo))) := by
  obtain ⟨hidden, done, records, hentries, hdrafted, hfound, hkeys, hcontent, hheld⟩ := h
  have hread : file.Moved (moved.readAt volume entry.2).2 := hmoved.readAt volume entry.2
  have hsame : moved.recordAt volume entry.2 = file.recordAt volume entry.2 := by
    obtain ⟨position, rfl, -⟩ := hmoved
    rfl
  simp only [step, LogFile.readAt, hsame] at hread ⊢
  cases hrecord : file.recordAt volume entry.2 with
  | error error => exact ⟨hread, hidden, hdrafted⟩
  | ok record =>
    rcases hheld with ⟨hother, hheld⟩ | hempty
    · have horigin : file.recordAt origin entry.2 = .ok record :=
        (LogFile.recordAt_congr hheld).symm.trans hrecord
      dsimp only
      rcases write_cases medium volume draft.object (draft.add entry.1 record).1 with
        ⟨after, hwrite, hwithin, hwritten⟩ | ⟨cause, after, hwrite, hwithin⟩
      · have hwrite' : write medium volume (draft.add entry.1 record).2.object
            (draft.add entry.1 record).1 = (none, after) := hwrite
        rw [hwrite']
        refine ⟨hread, hidden, done ++ [entry], records ++ [record], ?_, hdrafted.within hwithin,
          hfound.concat horigin, hkeys.insert entry _, ?_, ?_⟩
        · rw [hentries, List.append_assoc, List.singleton_append]
        · have hcollect := collect_append draft.pending record.encode
          simp only [Draft.add] at hwritten ⊢
          rw [hwritten, List.append_assoc, hcollect, ← List.append_assoc, hcontent,
            Log.bytes_append, Log.bytes_singleton]
        · exact .inl ⟨hother, (hwithin.content _ hother).trans hheld⟩
      · have hwrite' : write medium volume (draft.add entry.1 record).2.object
            (draft.add entry.1 record).1 = (some cause, after) := hwrite
        rw [hwrite']
        exact ⟨hread, .inr ⟨hidden, draft.object, hdrafted.within hwithin⟩⟩
    · exact absurd hrecord (LogFile.recordAt_ne_ok_of_empty hempty record)

theorem copies_copying_nil {draft : Draft} (hmoved : file.Moved moved)
    (h : (Phase.copying draft []).Copies origin volume file entries) :
    CopiedStep origin file entries (step medium moved volume (.copying draft [])) := by
  obtain ⟨hidden, done, records, hentries, hdrafted, hfound, hkeys, hcontent, -⟩ := h
  rw [List.append_nil] at hentries
  simp only [step]
  rcases write_cases medium volume draft.object draft.pending with
    ⟨after, hwrite, hwithin, hwritten⟩ | ⟨cause, after, hwrite, hwithin⟩
  · rw [hwrite]
    exact ⟨hmoved, hidden, draft.object, records, hdrafted.within hwithin, hentries ▸ hfound,
      hentries ▸ hkeys, hwritten.trans hcontent⟩
  · rw [hwrite]
    exact ⟨hmoved, .inr ⟨hidden, draft.object, hdrafted.within hwithin⟩⟩

theorem copies_reopening {index : Index} (hmoved : file.Moved moved)
    (h : (Phase.reopening index).Copies origin volume file entries) :
    CopiedStep origin file entries (step medium moved volume (.reopening index)) := by
  obtain ⟨hidden, draft, records, hdrafted, hfound, hkeys, hcontent⟩ := h
  obtain ⟨position, rfl, hposition⟩ := hmoved
  simp only [step, LogFile.openAt]
  rw [hdrafted.leads.openFile]
  exact ⟨⟨position, rfl, hposition⟩, hidden, records, hdrafted, hfound, hkeys, hcontent⟩

theorem copies_replacing {draft : LogFile} {index : Index} (hmoved : file.Moved moved)
    (h : (Phase.replacing draft index).Copies origin volume file entries) :
    CopiedStep origin file entries (step medium moved volume (.replacing draft index)) := by
  obtain ⟨hidden, records, hdrafted, hfound, hkeys, hcontent⟩ := h
  obtain ⟨position, rfl, hposition⟩ := hmoved
  have hmoved : file.Moved { file with position } := ⟨position, rfl, hposition⟩
  simp only [step]
  rcases hdrafted.rename (by decide) (by decide) with
    ⟨cause, hrename, -⟩ | ⟨after, hrename, hleads, hsame⟩
  · rw [temporaryPath, hrename]
    exact ⟨hmoved, .inr ⟨hidden, draft.object, hdrafted⟩⟩
  · rw [temporaryPath, hrename]
    exact ⟨hmoved, rfl, records, hfound, hkeys, hleads, (hsame _).trans hcontent⟩

theorem copies_discarding {draft : Draft} {error : StoreError} (hmoved : file.Moved moved)
    (h : (Phase.discarding draft error).Copies origin volume file entries) :
    CopiedStep origin file entries (step medium moved volume (.discarding draft error)) := by
  obtain ⟨hidden, hdrafted⟩ := h
  simp only [step]
  rcases write_cases medium volume draft.object draft.pending with
    ⟨after, hwrite, hwithin, -⟩ | ⟨cause, after, hwrite, hwithin⟩
  · rw [hwrite]
    exact ⟨hmoved, .inr ⟨hidden, draft.object, hdrafted.within hwithin⟩⟩
  · rw [hwrite]
    exact ⟨hmoved, .inr ⟨hidden, draft.object, hdrafted.within hwithin⟩⟩

theorem copies_removing {error : StoreError} (hmoved : file.Moved moved)
    (h : (Phase.removing error).Copies origin volume file entries) :
    CopiedStep origin file entries (step medium moved volume (.removing error)) := by
  obtain ⟨position, rfl, hposition⟩ := hmoved
  refine ⟨⟨position, rfl, hposition⟩, ?_⟩
  rcases h with ⟨rfl, hnone⟩ | ⟨hidden, draft, hdrafted⟩
  · exact .inl ⟨Volume.remove_of_not_leads hnone, hnone⟩
  · exact .inr ⟨hidden, hdrafted.remove⟩

/-- **A step copies one more record, or ends the compaction.** -/
theorem copies_step (hknown : file.object < origin.fresh) (hmoved : file.Moved moved)
    {phase : Phase} (h : phase.Copies origin volume file entries) :
    CopiedStep origin file entries (step medium moved volume phase) := by
  cases phase with
  | opening todo => exact copies_opening hknown hmoved h
  | copying draft todo =>
    cases todo with
    | nil => exact copies_copying_nil hmoved h
    | cons entry todo => exact copies_copying_cons hmoved h
  | reopening index => exact copies_reopening hmoved h
  | replacing draft index => exact copies_replacing hmoved h
  | discarding draft error => exact copies_discarding hmoved h
  | removing error => exact copies_removing hmoved h

/-! ## Runs -/

/-- **A compaction copies all records, or is undone.** -/
theorem copies_run (hknown : file.object < origin.fresh) (hmoved : file.Moved moved)
    {phase : Phase} (h : phase.Copies origin volume file entries) :
    Copied origin file entries (run medium moved volume phase) := by
  fun_induction run medium moved volume phase with
  | case1 moved volume phase outcome later after hstep =>
    have hstepped : CopiedStep origin file entries (step medium moved volume phase) :=
      copies_step hknown hmoved h
    rw [hstep] at hstepped
    exact hstepped
  | case2 moved volume phase next later after hstep ih =>
    have hstepped : CopiedStep origin file entries (step medium moved volume phase) :=
      copies_step hknown hmoved h
    rw [hstep] at hstepped
    exact ih hstepped.1 hstepped.2

end Compaction

/-! ## Stores -/

namespace Store

variable {volume : Volume} {store : Store}

/-- **What comes of a compaction**, whatever lies at the places of the index: the records that were
found there are the new log, or nothing but the file of the temporary name is different. -/
theorem compact_cases (hknown : store.file.object < volume.fresh) (medium : Medium) :
    (∃ stats new index after records,
        store.compact medium volume = (.ok stats, { store with file := new, index }, after) ∧
      new.path = store.file.path ∧ Compaction.Found volume store.file store.index.entries records ∧
      Compaction.KeysOf index store.index.entries ∧ after.Leads store.file.path new.object ∧
      after.content new.object = records.bytes) ∨
    ∃ error position after, store.compact medium volume =
        (.error error, { store with file := { store.file with position } }, after) ∧
      (position = store.file.position ∨ position ≤ store.file.length) ∧
      volume.Undone after (Compaction.temporaryPath store.file.path) := by
  have hcopied : Compaction.Copied volume store.file store.index.entries
      (Compaction.run medium store.file volume (.opening store.index.entries)) :=
    Compaction.copies_run hknown (.refl _) ⟨rfl, rfl⟩
  cases hrun : Compaction.run medium store.file volume (.opening store.index.entries) with
  | mk outcome rest =>
    obtain ⟨moved, after⟩ := rest
    rw [hrun] at hcopied
    cases outcome with
    | error error =>
      obtain ⟨⟨position, rfl, hposition⟩, hundone⟩ := hcopied
      refine .inr ⟨error, position, after, ?_, hposition, hundone⟩
      simp only [compact, hrun]
    | ok result =>
      obtain ⟨new, index⟩ := result
      obtain ⟨-, hpath, records, hfound, hkeys, hleads, hcontent⟩ := hcopied
      refine .inl ⟨⟨store.index.size, store.file.length, new.length⟩, new, index, after, records, ?_,
        hpath, hfound, hkeys, hleads, hcontent⟩
      simp only [compact, hrun]

end Store
end KeyLog
