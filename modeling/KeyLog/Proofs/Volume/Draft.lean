import KeyLog.Proofs.Volume.Leads

/-!
# A draft that comes and goes

Somebody drafts a file under a text and takes it away again.  This file says what is different while
the draft is there and afterwards: one name, and the object behind it.

* `Volume.SameBut`: nothing is different but the file of a text; so the text without the addition
  leads to the same bytes (`SameBut.bytesAt?`).
* `Volume.Drafted`, `Volume.Discarded`: there is a draft, or it is gone.
* `Volume.openEmpty_drafted`, `Drafted.within`, `Drafted.remove`, `Drafted.rename`: a draft is made,
  written, taken away, or given the name of the text without the addition.
* `Volume.Undone`: a draft is gone, or there never was one.  This is what removing a text comes to
  (`Volume.undone_remove`).

All this leaves an object that the text does not lead to (`SameBut.keeps`), so a draft may come and
go beside a log, and take its name.
-/

namespace KeyLog
namespace Volume

variable {volume after : Volume}

/-! ## Removing and renaming -/

/-- Removing a text that leads to no file does nothing. -/
theorem remove_of_not_leads {text : String} (h : ∀ object, ¬ volume.Leads text object) :
    (volume.remove text).2 = volume := by
  unfold remove
  split
  · rfl
  · rfl
  next path asDirectory hpath =>
    split
    · rfl
    · rfl
    · rfl
    next object hlook =>
      split
      · rfl
      next hfile =>
        rw [Bool.not_eq_true] at hfile
        exact absurd ⟨path, hfile ▸ hpath, hlook⟩ (h object)

/-- Removing a text that leads to a file takes its name away. -/
theorem remove_of_lookUp {text : String} {hidden : Path} {object : Nat}
    (hpath : volume.locate text = .ok (.name hidden false))
    (hlook : volume.lookUp hidden = .ok (some (.file object))) :
    volume.remove text = (none, volume.unlink hidden) := by
  simp [remove, hpath, hlook]

/-- Renaming a file: it takes the name that the other text leads to, unless a directory has it. -/
theorem rename_of_lookUp {source target : String} {hidden : Path} {object : Nat}
    (hpath : volume.locate source = .ok (.name hidden false))
    (hlook : volume.lookUp hidden = .ok (some (.file object))) :
    volume.rename source target =
      match volume.locate target with
      | .error cause => (some cause, volume)
      | .ok .directory => (some .isDirectory, volume)
      | .ok (.name place asDirectory) =>
        match volume.lookUp place with
        | .error cause => (some cause, volume)
        | .ok there =>
          if asDirectory then (some .notDirectory, volume)
          else if hidden = place then (none, volume)
          else if there = some .directory then (some .isDirectory, volume)
          else (none, (volume.unlink hidden).link place (.file object)) := by
  simp only [rename, hpath]
  rcases volume.locate target with cause | ⟨⟩ | ⟨place, asDirectory⟩
  · rfl
  · rfl
  · simp only [hlook]
    rcases volume.lookUp place with cause | _ | ⟨other⟩ | _
    · rfl
    · simp
    · simp
    · simp

/-! ## Volumes that are the same but for one file -/

/-- Nothing is different but the file of a text: no other name, and no object that had been made
before but the one that the text led to. -/
structure SameBut (volume after : Volume) (text : String) (hidden : Path) : Prop where
  located : volume.locate text = .ok (.name hidden false)
  looked : volume.lookUp hidden = .ok (volume.node? hidden)
  vacant : volume.node? hidden ≠ some .directory
  nodes : ∀ path, path ≠ hidden → after.node? path = volume.node? path
  content : ∀ object, object < volume.fresh → ¬ volume.Leads text object →
    after.content object = volume.content object
  fresh : volume.fresh ≤ after.fresh

variable {text path : String} {hidden : Path} {draft : Nat}

theorem SameBut.keepsDirectories (h : volume.SameBut after text hidden) :
    volume.KeepsDirectories after :=
  keepsDirectories_of_ne h.vacant h.nodes

/-- An object that the text did not lead to is kept. -/
theorem SameBut.keeps (h : volume.SameBut after text hidden) {object : Nat}
    (hknown : object < volume.fresh) (hnot : ¬ volume.Leads text object) :
    volume.Keeps after object := by
  refine keeps_of_ne h.vacant ?_ h.nodes (h.content object hknown hnot)
  intro hnode
  exact hnot ⟨hidden, h.located, by rw [h.looked, hnode]⟩

theorem SameBut.locate (h : volume.SameBut after text hidden) :
    after.locate text = .ok (.name hidden false) :=
  settled_of_locate h.located after h.keepsDirectories

/-- An object of another name is not the one that the text leads to. -/
theorem SameBut.not_leads (h : volume.SameBut after text hidden) (hsound : volume.Sound)
    {place : Path} {object : Nat} (hplace : place ≠ hidden)
    (hnode : volume.node? place = some (.file object)) : ¬ volume.Leads text object := by
  rintro ⟨found, hfound, hlook⟩
  cases h.located.symm.trans hfound
  exact hplace (hsound.path_eq hnode (node?_of_lookUp hlook))

/-- A text without the addition leads to the same place, and what is looked up there is the same. -/
theorem SameBut.target {added : String} (h : volume.SameBut after (path ++ added) hidden)
    (hslash : '/' ∉ added.toList) (hadded : 2 < added.toList.length) :
    ∃ result, volume.locate path = result ∧ after.locate path = result ∧
      ∀ place asDirectory, result = .ok (.name place asDirectory) →
        place ≠ hidden ∧ after.lookUp place = volume.lookUp place := by
  obtain ⟨result, hsettled, hother⟩ := settled_of_append hslash hadded h.located
  refine ⟨result, hsettled.locate, hsettled after h.keepsDirectories, ?_⟩
  rintro place asDirectory rfl
  have hplace : place ≠ hidden := by
    rintro rfl
    exact hother asDirectory rfl
  refine ⟨hplace, ?_⟩
  rw [lookUp, lookUp, h.nodes place hplace]

/-- What is found at a text. -/
def entryAt (volume : Volume) (text : String) : Except SystemError (Option Node) :=
  match volume.locate text with
  | .error cause => .error cause
  | .ok .directory => .ok (some .directory)
  | .ok (.name place _) => volume.lookUp place

/-- At a text without the addition the same is found. -/
theorem SameBut.entryAt {added : String} (h : volume.SameBut after (path ++ added) hidden)
    (hslash : '/' ∉ added.toList) (hadded : 2 < added.toList.length) :
    after.entryAt path = volume.entryAt path := by
  obtain ⟨result, hlocate, hlocate', hlook⟩ := h.target hslash hadded
  rw [Volume.entryAt, Volume.entryAt, hlocate, hlocate']
  rcases result with cause | ⟨⟩ | ⟨place, asDirectory⟩
  · rfl
  · rfl
  · exact (hlook place asDirectory rfl).2

/-- **A text without the addition leads to the same bytes.** -/
theorem SameBut.bytesAt? {added : String} (h : volume.SameBut after (path ++ added) hidden)
    (hsound : volume.Sound) (hslash : '/' ∉ added.toList) (hadded : 2 < added.toList.length) :
    after.bytesAt? path = volume.bytesAt? path := by
  obtain ⟨result, hlocate, hlocate', hlook⟩ := h.target hslash hadded
  simp only [Volume.bytesAt?, Volume.openFile, hlocate, hlocate', Bool.false_and,
    Bool.false_eq_true, if_false]
  rcases result with cause | ⟨⟩ | ⟨place, asDirectory⟩
  · rfl
  · rfl
  · obtain ⟨hplace, hsame⟩ := hlook place asDirectory rfl
    simp only [hsame]
    cases hfound : volume.lookUp place with
    | error cause => rfl
    | ok node =>
      rcases node with _ | ⟨object⟩ | _
      · rfl
      · have hnode := node?_of_lookUp hfound
        cases asDirectory with
        | true => rfl
        | false =>
          exact congrArg some
            (h.content object (hsound.lt_fresh hnode) (h.not_leads hsound hplace hnode))
      · rfl

/-! ## Drafts -/

/-- A draft stands under a text, in the object that the text led to if there was one, and nothing
else is different. -/
structure Drafted (volume after : Volume) (text : String) (hidden : Path) (draft : Nat) : Prop
    extends volume.SameBut after text hidden where
  node : after.node? hidden = some (.file draft)
  reused : ∀ object, volume.Leads text object → object = draft
  apart : ∀ object, object < volume.fresh → ¬ volume.Leads text object → object ≠ draft

/-- The file of a text is gone, and nothing else is different. -/
structure Discarded (volume after : Volume) (text : String) (hidden : Path) : Prop
    extends volume.SameBut after text hidden where
  gone : after.node? hidden = none

theorem Drafted.lookUp (h : volume.Drafted after text hidden draft) :
    after.lookUp hidden = .ok (some (.file draft)) := by
  rw [lookUp_of_lookUp h.looked, h.node]

theorem Drafted.leads (h : volume.Drafted after text hidden draft) : after.Leads text draft :=
  ⟨hidden, h.locate, h.lookUp⟩

/-- A text leads to no file that was discarded. -/
theorem Discarded.not_leads_after (h : volume.Discarded after text hidden) (object : Nat) :
    ¬ after.Leads text object := by
  rintro ⟨path, hpath, hlook⟩
  cases h.locate.symm.trans hpath
  cases h.gone.symm.trans (node?_of_lookUp hlook)

/-- A file that a text leads to may be taken for a draft. -/
theorem Leads.drafted (h : volume.Leads text draft) :
    ∃ hidden, volume.Drafted volume text hidden draft := by
  obtain ⟨hidden, hpath, hlook⟩ := id h
  have hnode : volume.node? hidden = some (.file draft) := node?_of_lookUp hlook
  refine ⟨hidden, ⟨hpath, ?_, ?_, fun _ _ => rfl, fun _ _ _ => rfl, Nat.le_refl _⟩, hnode,
    fun _ hother => hother.unique h, ?_⟩
  · rw [hlook, hnode]
  · rw [hnode]
    exact fun heq => nomatch heq
  · rintro object - hnot rfl
    exact hnot h

/-- Whatever is written to a draft, it stays the only difference. -/
theorem Drafted.within {later : Volume} (h : volume.Drafted after text hidden draft)
    (hwithin : after.Within later draft) : volume.Drafted later text hidden draft where
  located := h.located
  looked := h.looked
  vacant := h.vacant
  nodes := fun path hpath => (hwithin.node? path).trans (h.nodes path hpath)
  content := fun object hobject hnot =>
    (hwithin.content object (h.apart object hobject hnot)).trans (h.content object hobject hnot)
  fresh := hwithin.fresh ▸ h.fresh
  node := (hwithin.node? hidden).trans h.node
  reused := h.reused
  apart := h.apart

/-- A draft that is removed is gone. -/
theorem Drafted.remove (h : volume.Drafted after text hidden draft) :
    volume.Discarded (after.remove text).2 text hidden := by
  have hnil : hidden ≠ [] := locate_ne_nil h.located
  rw [remove_of_lookUp h.locate h.lookUp]
  refine ⟨⟨h.located, h.looked, h.vacant, ?_, h.content, h.fresh⟩, ?_⟩
  · intro path hpath
    rw [node?_unlink after hnil, if_neg hpath, h.nodes path hpath]
  · rw [node?_unlink after hnil, if_pos rfl]

/-- **Opening a text for writing from scratch** makes an empty draft where the text leads to a name
that is no directory's. -/
theorem openEmpty_of_locate (hpath : volume.locate text = .ok (.name hidden false))
    (hlook : volume.lookUp hidden = .ok (volume.node? hidden))
    (hvacant : volume.node? hidden ≠ some .directory) :
    ∃ draft after, volume.openEmpty text = (.ok draft, after) ∧
      volume.Drafted after text hidden draft ∧ after.content draft = [] ∧
        (volume.Leads text draft ∨ draft < after.fresh) := by
  have hempty : ∀ (volume : Volume) (draft : Nat), (volume.store draft []).content draft = [] := by
    intro volume draft
    rw [content_store, if_pos rfl]
  cases hnode : volume.node? hidden with
  | none =>
    -- the file is new
    have hnil : hidden ≠ [] := locate_ne_nil hpath
    have hopen : volume.openFile text true = (.ok volume.fresh, (volume.create hidden).2) := by
      simp [Volume.openFile, hpath, hlook, hnode, Volume.create]
    have hdrafted : volume.Drafted (volume.create hidden).2 text hidden volume.fresh := by
      refine ⟨⟨hpath, hlook, hvacant, ?_, ?_, Nat.le_succ _⟩, ?_, ?_, ?_⟩
      · intro path hne
        rw [node?_create volume hnil, if_neg hne]
      · intro object hobject _
        rw [content_create, if_neg (Nat.ne_of_lt hobject)]
      · rw [node?_create volume hnil, if_pos rfl]
      · rintro object ⟨found, hfound, hfoundLook⟩
        cases hpath.symm.trans hfound
        cases hnode.symm.trans (node?_of_lookUp hfoundLook)
      · exact fun object hobject _ => Nat.ne_of_lt hobject
    exact ⟨volume.fresh, (volume.create hidden).2.store volume.fresh [],
      by simp only [Volume.openEmpty, hopen], hdrafted.within (within_put _ _ _), hempty _ _,
      .inr (Nat.lt_succ_self _)⟩
  | some node =>
    cases node with
    | directory => exact absurd hnode hvacant
    | file object =>
      -- the file is there already, and is emptied
      have hleads : volume.Leads text object := ⟨hidden, hpath, by rw [hlook, hnode]⟩
      obtain ⟨found, hdrafted⟩ := hleads.drafted
      cases hpath.symm.trans hdrafted.located
      exact ⟨object, volume.store object [], by simp only [Volume.openEmpty, hleads.openFile],
        hdrafted.within (within_put _ _ _), hempty _ _, .inl hleads⟩

/-- Opening any text for writing from scratch makes an empty draft, or fails where the text leads to
no file, and changes nothing. -/
theorem openEmpty_drafted (volume : Volume) (text : String) :
    (∃ cause, volume.openEmpty text = (.error cause, volume) ∧
        ∀ object, ¬ volume.Leads text object) ∨
      ∃ draft after hidden, volume.openEmpty text = (.ok draft, after) ∧
        volume.Drafted after text hidden draft ∧ after.content draft = [] := by
  have hdraft : ∀ hidden, volume.locate text = .ok (.name hidden false) →
      volume.lookUp hidden = .ok (volume.node? hidden) → volume.node? hidden ≠ some .directory →
      ∃ draft after hidden, volume.openEmpty text = (.ok draft, after) ∧
        volume.Drafted after text hidden draft ∧ after.content draft = [] := by
    intro hidden hpath hlook hvacant
    obtain ⟨draft, after, hopen, hdrafted, hempty, -⟩ := openEmpty_of_locate hpath hlook hvacant
    exact ⟨draft, after, hidden, hopen, hdrafted, hempty⟩
  rcases openFile_cases volume text true with
    ⟨draft, hleads, -⟩ | ⟨cause, hnone, hopen⟩ | ⟨hidden, -, hpath, hlook, -⟩
  · obtain ⟨hidden, hdrafted⟩ := hleads.drafted
    exact .inr (hdraft hidden hdrafted.located hdrafted.looked hdrafted.vacant)
  · exact .inl ⟨cause, by simp only [Volume.openEmpty, hopen], hnone⟩
  · have hnode : volume.node? hidden = none := node?_of_lookUp hlook
    exact .inr (hdraft hidden hpath (by rw [hlook, hnode]) (by simp [hnode]))

/-- **A draft takes the name of a text without the addition**, and no bytes change; or that fails
where this text leads to no file, and nothing changes. -/
theorem Drafted.rename {added : String} (h : volume.Drafted after (path ++ added) hidden draft)
    (hslash : '/' ∉ added.toList) (hadded : 2 < added.toList.length) :
    (∃ cause, after.rename (path ++ added) path = (some cause, after) ∧
        ∀ object, ¬ after.Leads path object) ∨
      ∃ later, after.rename (path ++ added) path = (none, later) ∧ later.Leads path draft ∧
        ∀ object, later.content object = after.content object := by
  obtain ⟨result, hsettled, hother⟩ := settled_of_append hslash hadded h.locate
  have hnil : hidden ≠ [] := locate_ne_nil h.located
  have hleads : ∀ object, after.Leads path object → ∃ place, result = .ok (.name place false) ∧
      after.lookUp place = .ok (some (.file object)) := by
    rintro object ⟨place, hplace, hlook⟩
    exact ⟨place, hsettled.locate.symm.trans hplace, hlook⟩
  rw [rename_of_lookUp h.locate h.lookUp, hsettled.locate]
  rcases result with cause | ⟨⟩ | ⟨place, asDirectory⟩
  · exact .inl ⟨cause, rfl, fun object hobject => nomatch hleads object hobject⟩
  · exact .inl ⟨.isDirectory, rfl, fun object hobject => nomatch hleads object hobject⟩
  · have hplace : hidden ≠ place := by
      rintro rfl
      exact hother asDirectory rfl
    have hplaceNil : place ≠ [] := locate_ne_nil hsettled.locate
    -- the text leads to a file only if one is looked up at this place
    have hfound : ∀ object, after.Leads path object → asDirectory = false ∧
        after.lookUp place = .ok (some (.file object)) := by
      intro object hobject
      obtain ⟨found, hresult, hlook⟩ := hleads object hobject
      cases hresult
      exact ⟨rfl, hlook⟩
    dsimp only
    cases hlook : after.lookUp place with
    | error cause =>
      exact .inl ⟨cause, rfl, fun object hobject => nomatch hlook.symm.trans (hfound object hobject).2⟩
    | ok there =>
      have hnode : after.node? place = there := node?_of_lookUp hlook
      dsimp only
      cases asDirectory with
      | true => exact .inl ⟨.notDirectory, rfl, fun object hobject => nomatch (hfound object hobject).1⟩
      | false =>
        rw [if_neg Bool.false_ne_true, if_neg hplace]
        split
        next hdirectory =>
          subst hdirectory
          exact .inl ⟨.isDirectory, rfl, fun object hobject =>
            nomatch hlook.symm.trans (hfound object hobject).2⟩
        next hdirectory =>
          have hfree : (after.unlink hidden).node? place ≠ some .directory := by
            rw [node?_unlink after hnil, if_neg hplace.symm, hnode]
            exact hdirectory
          have hkeeps := (keepsDirectories_unlink hnil (by rw [h.node]; simp)).trans
            (keepsDirectories_link hplaceNil hfree (.file draft))
          refine .inr ⟨_, rfl, ⟨place, hsettled _ hkeeps, ?_⟩, fun _ => rfl⟩
          rw [lookUp_of_lookUp hlook, node?_link _ hplaceNil, if_pos rfl]

/-! ## Work that was undone -/

/-- The file of a text is gone, or there was none, and nothing else is different. -/
def Undone (volume after : Volume) (text : String) : Prop :=
  after = volume ∧ (∀ object, ¬ volume.Leads text object) ∨
    ∃ hidden, volume.Discarded after text hidden

/-- **Removing a text** takes its file away, or does nothing where it leads to no file. -/
theorem undone_remove (volume : Volume) (text : String) :
    volume.Undone (volume.remove text).2 text := by
  by_cases hleads : ∃ draft, volume.Leads text draft
  · obtain ⟨draft, hleads⟩ := hleads
    obtain ⟨hidden, hdrafted⟩ := hleads.drafted
    exact .inr ⟨hidden, hdrafted.remove⟩
  · have hnone : ∀ draft, ¬ volume.Leads text draft := fun draft hdraft => hleads ⟨draft, hdraft⟩
    exact .inl ⟨remove_of_not_leads hnone, hnone⟩

/-- The text leads to no file. -/
theorem Undone.not_leads (h : volume.Undone after text) (object : Nat) : ¬ after.Leads text object := by
  rcases h with ⟨rfl, hnone⟩ | ⟨hidden, hdiscarded⟩
  · exact hnone object
  · exact hdiscarded.not_leads_after object

/-- An object that the text did not lead to is kept. -/
theorem Undone.keeps (h : volume.Undone after text) {object : Nat} (hknown : object < volume.fresh)
    (hnot : ¬ volume.Leads text object) : volume.Keeps after object := by
  rcases h with ⟨rfl, -⟩ | ⟨hidden, hdiscarded⟩
  · exact .refl _ object
  · exact hdiscarded.keeps hknown hnot

/-- At a text without the addition the same is found. -/
theorem Undone.entryAt {added : String} (h : volume.Undone after (path ++ added))
    (hslash : '/' ∉ added.toList) (hadded : 2 < added.toList.length) :
    after.entryAt path = volume.entryAt path := by
  rcases h with ⟨rfl, -⟩ | ⟨hidden, hdiscarded⟩
  · rfl
  · exact hdiscarded.entryAt hslash hadded

/-- A text without the addition leads to the same bytes. -/
theorem Undone.bytesAt? {added : String} (h : volume.Undone after (path ++ added))
    (hsound : volume.Sound) (hslash : '/' ∉ added.toList) (hadded : 2 < added.toList.length) :
    after.bytesAt? path = volume.bytesAt? path := by
  rcases h with ⟨rfl, -⟩ | ⟨hidden, hdiscarded⟩
  · rfl
  · exact hdiscarded.bytesAt? hsound hslash hadded

end Volume
end KeyLog
