import KeyLog.Proofs.Volume.Mirrored
import Mathlib.Data.Option.Basic

/-!
# Volumes that are twins

Somebody works with one path and drafts files under a second text, its temporary name.  Under that
name something may have been left behind, in one volume and not in another one, and then a new draft
gets another object there.  Nobody who works with the path can tell: the two volumes are *twins*.

* `Volume.Twins`: the names of two volumes lead to pairs, except for the temporary name.  There each
  volume may have something that has no twin, or both have the draft.
* `Volume.Discarded.twins`: a volume and the one where the file of the temporary name is gone.
* `Twins.put`, `openFile`, `openEmpty`, `rename`, `remove`: the operations, each done to both, and
  `twins_matching`, which says the same as one fact.
-/

namespace KeyLog
namespace Volume

variable {pairs more : Nat → Nat → Prop} {a b after after' : Volume} {x y d e : Nat}

/-! ## Twins -/

/-- At a name is nothing, or an object that was made before and has no twin. -/
structure Spare (volume : Volume) (hidden : Path) (paired : Nat → Prop) : Prop where
  vacant : volume.node? hidden ≠ some .directory
  known : ∀ object, volume.node? hidden = some (.file object) →
    object < volume.fresh ∧ ¬ paired object

/-- A name stays spare where nothing happens to it, if no object that was made before is paired
newly. -/
theorem Spare.keep {volume later : Volume} {hidden : Path} {paired paired' : Nat → Prop}
    (h : volume.Spare hidden paired) (hnode : later.node? hidden = volume.node? hidden)
    (hfresh : volume.fresh ≤ later.fresh)
    (hpaired : ∀ object, object < volume.fresh → paired' object → paired object) :
    later.Spare hidden paired' := by
  refine ⟨hnode ▸ h.vacant, ?_⟩
  intro object hobject
  obtain ⟨hknown, hloose⟩ := h.known object (hnode.symm.trans hobject)
  exact ⟨Nat.lt_of_lt_of_le hknown hfresh, fun hpair => hloose (hpaired object hknown hpair)⟩

/-- What is at the temporary name in both volumes: the draft, or nothing that has a twin. -/
def Corner (pairs : Nat → Nat → Prop) (hidden : Path) (a b : Volume) : Option (Nat × Nat) → Prop
  | none => a.Spare hidden (fun x => ∃ y, pairs x y) ∧ b.Spare hidden (fun y => ∃ x, pairs x y)
  | some (d, e) =>
    a.node? hidden = some (.file d) ∧ b.node? hidden = some (.file e) ∧ pairs d e

/-- To somebody who works with a path and its temporary name the two volumes are the same, but for
the numbers of objects. -/
structure Twins (path temporary : String) (hidden : Path) (pairs : Nat → Nat → Prop)
    (draft : Option (Nat × Nat)) (a b : Volume) : Prop extends Paired pairs a b where
  located : a.Settled temporary (.ok (.name hidden false))
  looked : a.lookUp hidden = .ok (a.node? hidden)
  target : ∃ result, a.Settled path result ∧
    ∀ asDirectory, result ≠ .ok (.name hidden asDirectory)
  nodes : ∀ place, place ≠ hidden → Node.Twin pairs (a.node? place) (b.node? place)
  corner : Corner pairs hidden a b draft

variable {path temporary : String} {hidden place : Path} {draft next : Option (Nat × Nat)}

/-- No directory is at the temporary name. -/
theorem Twins.vacant (h : Twins path temporary hidden pairs draft a b) :
    a.node? hidden ≠ some .directory ∧ b.node? hidden ≠ some .directory := by
  have hcorner := h.corner
  cases draft with
  | none => exact ⟨hcorner.1.vacant, hcorner.2.vacant⟩
  | some pair =>
    have hnode : a.node? hidden = some (.file pair.1) := hcorner.1
    have hnode' : b.node? hidden = some (.file pair.2) := hcorner.2.1
    rw [hnode, hnode']
    exact ⟨fun heq => (nomatch heq), fun heq => (nomatch heq)⟩

/-- At all names but the temporary one stand pairs. -/
theorem Twins.mirrored (h : Twins path temporary hidden pairs draft a b) :
    Mirrored (· ≠ hidden) pairs a b where
  toPaired := h.toPaired
  directories place := by
    by_cases hplace : place = hidden
    · rw [hplace]
      exact iff_of_false h.vacant.1 h.vacant.2
    · exact (h.nodes place hplace).directory_iff
  nodes := h.nodes

/-- Both volumes have the same directories. -/
theorem Twins.keepsDirectories (h : Twins path temporary hidden pairs draft a b) :
    a.KeepsDirectories b :=
  fun place => (h.mirrored.directories place).1

/-- The temporary name leads to one place in both volumes. -/
theorem Twins.locate (h : Twins path temporary hidden pairs draft a b) :
    a.locate temporary = .ok (.name hidden false) ∧
      b.locate temporary = .ok (.name hidden false) :=
  ⟨h.located.locate, h.located b h.keepsDirectories⟩

theorem Twins.lookUp_hidden (h : Twins path temporary hidden pairs draft a b) :
    a.lookUp hidden = .ok (a.node? hidden) ∧ b.lookUp hidden = .ok (b.node? hidden) :=
  ⟨h.looked, lookUp_of_lookUp h.looked⟩

/-- Volumes stay twins where no directory is taken away, if their names and pairs still match. -/
theorem Twins.change (h : Twins path temporary hidden pairs draft a b)
    (hpaired : Paired more after after') (hkeeps : a.KeepsDirectories after)
    (hnodes : ∀ place, place ≠ hidden → Node.Twin more (after.node? place) (after'.node? place))
    (hcorner : Corner more hidden after after' next) :
    Twins path temporary hidden more next after after' where
  toPaired := hpaired
  located := h.located.mono hkeeps
  looked := lookUp_of_lookUp h.looked
  target := by
    obtain ⟨result, hsettled, hother⟩ := h.target
    exact ⟨result, hsettled.mono hkeeps, hother⟩
  nodes := hnodes
  corner := hcorner

/-! ## Writing -/

/-- The same bytes may be put into the objects of a pair. -/
theorem Twins.put (h : Twins path temporary hidden pairs draft a b) (hpair : pairs x y)
    {p q : SparseBytes} (hbytes : p.toBytes = q.toBytes) :
    Twins path temporary hidden pairs draft (a.put x p) (b.put y q) := by
  refine h.change (h.toPaired.put hpair hbytes) (fun _ hnode => hnode) h.nodes ?_
  have hcorner := h.corner
  cases draft with
  | none =>
    exact ⟨hcorner.1.keep rfl (Nat.le_refl _) fun _ _ => id,
      hcorner.2.keep rfl (Nat.le_refl _) fun _ _ => id⟩
  | some pair => exact hcorner

/-- A pair of objects may be given a name where no directory is. -/
theorem Twins.link (h : Twins path temporary hidden pairs none a b) (hplace : place ≠ hidden)
    (hnil : place ≠ []) (ha : a.node? place ≠ some .directory) (hpair : pairs x y) :
    Twins path temporary hidden pairs none (a.link place (.file x)) (b.link place (.file y)) := by
  have hlink := h.mirrored.link hnil hpair
  refine h.change hlink.toPaired (keepsDirectories_link hnil ha _) hlink.nodes ?_
  have hsame : ∀ (volume : Volume) (node : Node),
      (volume.link place node).node? hidden = volume.node? hidden := by
    intro volume node
    rw [node?_link volume hnil, if_neg hplace.symm]
  exact ⟨h.corner.1.keep (hsame a _) (Nat.le_refl _) fun _ _ => id,
    h.corner.2.keep (hsame b _) (Nat.le_refl _) fun _ _ => id⟩

/-! ## Opening the path -/

/-- A new object may be given a name that leads nowhere in both volumes. -/
theorem Twins.create (h : Twins path temporary hidden pairs none a b) (hplace : place ≠ hidden)
    (hnil : place ≠ []) (ha : a.node? place = none) :
    Twins path temporary hidden (withPair pairs a.fresh b.fresh) none (a.create place).2
      (b.create place).2 := by
  have hcreate := h.mirrored.create hnil
  refine h.change hcreate.toPaired ?_ hcreate.nodes ?_
  · have hfree : a.node? place ≠ some .directory := by simp [ha]
    refine keepsDirectories_of_ne hfree fun other hother => ?_
    rw [node?_create a hnil, if_neg hother]
  · -- the name of the draft is another one, and its object is not new
    have hsame : ∀ volume : Volume, (volume.create place).2.node? hidden = volume.node? hidden := by
      intro volume
      rw [node?_create volume hnil, if_neg hplace.symm]
    refine ⟨h.corner.1.keep (hsame a) (Nat.le_succ _) ?_,
      h.corner.2.keep (hsame b) (Nat.le_succ _) ?_⟩
    · rintro object hknown ⟨y, hpair | ⟨rfl, -⟩⟩
      · exact ⟨y, hpair⟩
      · exact absurd hknown (Nat.lt_irrefl _)
    · rintro object hknown ⟨x, hpair | ⟨-, rfl⟩⟩
      · exact ⟨x, hpair⟩
      · exact absurd hknown (Nat.lt_irrefl _)

/-- The path leads to one of these names. -/
theorem Twins.owns (h : Twins path temporary hidden pairs draft a b) :
    a.Owns (· ≠ hidden) path := by
  obtain ⟨result, hsettled, hother⟩ := h.target
  refine ⟨result, hsettled, ?_⟩
  rintro place asDirectory rfl rfl
  exact hother asDirectory rfl

/-- **The path is opened alike**: in both volumes it cannot be, or a pair is opened. -/
theorem Twins.openFile (h : Twins path temporary hidden pairs none a b) (create : Bool) :
    (∃ cause, a.openFile path create = (.error cause, a) ∧
        b.openFile path create = (.error cause, b)) ∨
      ∃ more x y after after', a.openFile path create = (.ok x, after) ∧
        b.openFile path create = (.ok y, after') ∧ (∀ x y, pairs x y → more x y) ∧ more x y ∧
          Twins path temporary hidden more none after after' ∧
            (create = false → after = a ∧ after' = b) := by
  rcases h.mirrored.openFile h.owns create with
    hfails | ⟨x, y, ha, hb, hpair, -⟩ | ⟨place, hcreate, hplace, hnil, hnone, -, ha, hb, -⟩
  · exact .inl hfails
  · exact .inr ⟨pairs, x, y, a, b, ha, hb, fun _ _ => id, hpair, h, fun _ => ⟨rfl, rfl⟩⟩
  · refine .inr ⟨withPair pairs a.fresh b.fresh, a.fresh, b.fresh, _, _, ha, hb, fun _ _ => .inl,
      .inr ⟨rfl, rfl⟩, h.create hplace hnil hnone, fun hfalse => ?_⟩
    cases hcreate.symm.trans hfalse

/-! ## The draft -/

/-- Opening the temporary name for writing from scratch gives an empty object that had no twin. -/
theorem Spare.openEmpty {volume : Volume} {paired : Nat → Prop} {text : String}
    (h : volume.Spare hidden paired) (hpath : volume.locate text = .ok (.name hidden false))
    (hlook : volume.lookUp hidden = .ok (volume.node? hidden))
    (hknown : ∀ object, paired object → object < volume.fresh) :
    ∃ d after, volume.openEmpty text = (.ok d, after) ∧ volume.Drafted after text hidden d ∧
      after.content d = [] ∧ ¬ paired d ∧ d < after.fresh ∧
        ∀ object, paired object → after.content object = volume.content object := by
  obtain ⟨d, after, hopen, hdrafted, hempty, hold⟩ := openEmpty_of_locate hpath hlook h.vacant
  have hloose : ∀ object, volume.Leads text object → object < volume.fresh ∧ ¬ paired object := by
    rintro object ⟨place, hplace, hfile⟩
    cases hpath.symm.trans hplace
    exact h.known object (node?_of_lookUp hfile)
  have hnot : ∀ object, paired object → ¬ volume.Leads text object :=
    fun object hpaired hleads => (hloose object hleads).2 hpaired
  refine ⟨d, after, hopen, hdrafted, hempty, ?_, ?_, ?_⟩
  · exact fun hpaired => hdrafted.apart d (hknown d hpaired) (hnot d hpaired) rfl
  · rcases hold with hleads | hnew
    · exact Nat.lt_of_lt_of_le (hloose d hleads).1 hdrafted.fresh
    · exact hnew
  · exact fun object hpaired => hdrafted.content object (hknown object hpaired) (hnot object hpaired)

/-- **In both volumes the draft is made**, of an object that had no twin. -/
theorem Twins.openEmpty (h : Twins path temporary hidden pairs none a b) :
    ∃ more d e after after', a.openEmpty temporary = (.ok d, after) ∧
      b.openEmpty temporary = (.ok e, after') ∧ (∀ x y, pairs x y → more x y) ∧
        Twins path temporary hidden more (some (d, e)) after after' := by
  obtain ⟨hspare, hspare'⟩ := h.corner
  obtain ⟨d, after, hopen, hdrafted, hempty, hd, hknown, hcontent⟩ :=
    hspare.openEmpty h.locate.1 h.lookUp_hidden.1 fun x ⟨y, hpair⟩ => (h.known x y hpair).1
  obtain ⟨e, after', hopen', hdrafted', hempty', he, hknown', hcontent'⟩ :=
    hspare'.openEmpty h.locate.2 h.lookUp_hidden.2 fun y ⟨x, hpair⟩ => (h.known x y hpair).2
  have hpaired : Paired (withPair pairs d e) after after' :=
    h.toPaired.withPair (hempty.trans hempty'.symm) (fun y hpair => hd ⟨y, hpair⟩)
      (fun x hpair => he ⟨x, hpair⟩)
      (fun x y hpair => ⟨hcontent x ⟨y, hpair⟩, hcontent' y ⟨x, hpair⟩⟩)
      ⟨hdrafted.fresh, hdrafted'.fresh⟩ ⟨hknown, hknown'⟩
  refine ⟨withPair pairs d e, d, e, after, after', hopen, hopen', fun _ _ => .inl,
    h.change hpaired hdrafted.keepsDirectories ?_
      ⟨hdrafted.node, hdrafted'.node, .inr ⟨rfl, rfl⟩⟩⟩
  intro place hplace
  rw [hdrafted.nodes place hplace, hdrafted'.nodes place hplace]
  exact (h.nodes place hplace).mono fun _ _ => .inl

/-- Where nothing is there is nothing that has a twin. -/
theorem spare_of_none {volume : Volume} (hnode : volume.node? hidden = none) (paired : Nat → Prop) :
    volume.Spare hidden paired := by
  refine ⟨?_, ?_⟩
  · rw [hnode]
    exact fun heq => nomatch heq
  · intro object hobject
    cases hnode.symm.trans hobject

/-- The name of the draft may be taken away. -/
theorem Twins.unlink (h : Twins path temporary hidden pairs draft a b) :
    Twins path temporary hidden pairs none (a.unlink hidden) (b.unlink hidden) := by
  have hnil : hidden ≠ [] := locate_ne_nil h.locate.1
  have hgone : ∀ volume : Volume, (volume.unlink hidden).node? hidden = none := by
    intro volume
    rw [node?_unlink volume hnil, if_pos rfl]
  have hunlink := h.mirrored.unlink hnil
  exact h.change hunlink.toPaired (keepsDirectories_unlink hnil h.vacant.1) hunlink.nodes
    ⟨spare_of_none (hgone a) _, spare_of_none (hgone b) _⟩

/-- In both volumes the draft is found at the temporary name. -/
theorem Twins.lookUp_draft (h : Twins path temporary hidden pairs (some (d, e)) a b) :
    a.lookUp hidden = .ok (some (.file d)) ∧ b.lookUp hidden = .ok (some (.file e)) := by
  obtain ⟨hnode, hnode', -⟩ := h.corner
  rw [h.lookUp_hidden.1, h.lookUp_hidden.2, hnode, hnode']
  exact ⟨rfl, rfl⟩

/-- In both volumes the temporary name leads to the draft. -/
theorem Twins.leads (h : Twins path temporary hidden pairs (some (d, e)) a b) :
    a.Leads temporary d ∧ b.Leads temporary e :=
  ⟨⟨hidden, h.locate.1, h.lookUp_draft.1⟩, ⟨hidden, h.locate.2, h.lookUp_draft.2⟩⟩

/-- Removing a text leaves nothing at its name, and everything else as it was, if no directory is
there. -/
theorem remove_of_vacant {volume : Volume} {text : String}
    (hpath : volume.locate text = .ok (.name hidden false))
    (hlook : volume.lookUp hidden = .ok (volume.node? hidden))
    (hvacant : volume.node? hidden ≠ some .directory) :
    ∃ after, (volume.remove text).2 = after ∧ after.node? hidden = none ∧
      (∀ place, place ≠ hidden → after.node? place = volume.node? place) ∧
        (∀ object, after.content object = volume.content object) ∧ after.fresh = volume.fresh := by
  have hnil : hidden ≠ [] := locate_ne_nil hpath
  cases hnode : volume.node? hidden with
  | none =>
    refine ⟨volume, ?_, hnode, fun _ _ => rfl, fun _ => rfl, rfl⟩
    simp only [Volume.remove, hpath, hlook, hnode]
  | some node =>
    cases node with
    | directory => exact absurd hnode hvacant
    | file object =>
      refine ⟨volume.unlink hidden, ?_, ?_, ?_, fun _ => rfl, rfl⟩
      · rw [remove_of_lookUp hpath (hlook.trans (by rw [hnode]))]
      · rw [node?_unlink volume hnil, if_pos rfl]
      · intro place hplace
        rw [node?_unlink volume hnil, if_neg hplace]

/-- **In both volumes the temporary name is taken away**, if there is anything. -/
theorem Twins.remove (h : Twins path temporary hidden pairs draft a b) :
    Twins path temporary hidden pairs none (a.remove temporary).2 (b.remove temporary).2 := by
  obtain ⟨after, ha, hgone, hnodes, hcontent, hfresh⟩ :=
    remove_of_vacant h.locate.1 h.lookUp_hidden.1 h.vacant.1
  obtain ⟨after', hb, hgone', hnodes', hcontent', hfresh'⟩ :=
    remove_of_vacant h.locate.2 h.lookUp_hidden.2 h.vacant.2
  rw [ha, hb]
  have hpaired : Paired pairs after after' := by
    refine ⟨?_, h.left, h.right, ?_⟩
    · intro x y hpair
      rw [hcontent, hcontent', h.content x y hpair]
    · intro x y hpair
      rw [hfresh, hfresh']
      exact h.known x y hpair
  refine h.change hpaired (keepsDirectories_of_ne h.vacant.1 hnodes) ?_
    ⟨spare_of_none hgone _, spare_of_none hgone' _⟩
  intro place hplace
  rw [hnodes place hplace, hnodes' place hplace]
  exact h.nodes place hplace

/-- **In both volumes the draft takes the name of the path**, or cannot for the same reason. -/
theorem Twins.rename (h : Twins path temporary hidden pairs (some (d, e)) a b) :
    (∃ cause, a.rename temporary path = (some cause, a) ∧
        b.rename temporary path = (some cause, b)) ∨
      ∃ after after', a.rename temporary path = (none, after) ∧
        b.rename temporary path = (none, after') ∧
          Twins path temporary hidden pairs none after after' := by
  rcases h.mirrored.rename h.owns ⟨h.locate.1, h.lookUp_draft.1⟩ ⟨h.locate.2, h.lookUp_draft.2⟩ with
    hfails | ⟨hself, -⟩ | ⟨place, hplace, -, hnil, hfree, ha, hb⟩
  · exact .inl hfails
  · exact absurd rfl hself
  · have hfree' : (a.unlink hidden).node? place ≠ some .directory := by
      rw [node?_unlink a (locate_ne_nil h.locate.1), if_neg hplace]
      exact hfree
    exact .inr ⟨_, _, ha, hb, h.unlink.link hplace hnil hfree' h.corner.2.2⟩

/-- **Nobody who works with the path can tell twins apart.** -/
theorem twins_matching : Matching path temporary (Twins path temporary hidden) where
  paired h := h.toPaired
  put h hpair hbytes := h.put hpair hbytes
  openFile create h := h.openFile create
  openEmpty h := .inr h.openEmpty
  drafted h := ⟨h.corner.2.2, h.leads⟩
  rename h := h.rename
  remove h := h.remove

/-! ## What was left behind -/

/-- The objects that a text does not lead to. -/
def besides (volume : Volume) (text : String) (x y : Nat) : Prop :=
  x = y ∧ x < volume.fresh ∧ ¬ volume.Leads text x

/-- **A volume and the one where the file of a text is gone are twins**, to somebody who works with
the text without the addition. -/
theorem Discarded.twins {added : String} (h : a.Discarded b (path ++ added) hidden)
    (hsound : a.Sound) (hslash : '/' ∉ added.toList) (hadded : 2 < added.toList.length) :
    Twins path (path ++ added) hidden (a.besides (path ++ added)) none a b where
  content := by
    rintro x y ⟨rfl, hknown, hnot⟩
    exact (h.content x hknown hnot).symm
  left := by
    rintro x y y' ⟨rfl, -⟩ ⟨rfl, -⟩
    rfl
  right := by
    rintro x x' y ⟨rfl, -⟩ ⟨rfl, -⟩
    rfl
  known := by
    rintro x y ⟨rfl, hknown, -⟩
    exact ⟨hknown, Nat.lt_of_lt_of_le hknown h.fresh⟩
  located := settled_of_locate h.located
  looked := h.looked
  target := settled_of_append hslash hadded h.located
  nodes := by
    intro place hplace
    rw [h.nodes place hplace]
    cases hnode : a.node? place with
    | none => exact .nothing
    | some node =>
      cases node with
      | directory => exact .directory
      | file object =>
        exact .file ⟨rfl, hsound.lt_fresh hnode, h.not_leads hsound hplace hnode⟩
  corner := by
    constructor
    · refine ⟨h.vacant, fun object hobject => ⟨hsound.lt_fresh hobject, ?_⟩⟩
      rintro ⟨y, -, -, hnot⟩
      exact hnot ⟨hidden, h.located, by rw [h.looked, hobject]⟩
    · refine ⟨?_, fun object hobject => ?_⟩
      · rw [h.gone]
        exact fun heq => nomatch heq
      · cases h.gone.symm.trans hobject

end Volume
end KeyLog
