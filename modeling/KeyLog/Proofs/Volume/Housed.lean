import KeyLog.Proofs.Volume.Mirrored

/-!
# One volume for several

Somebody works with a path and its temporary name and looks at no other place.  He may have a volume
for himself or share it with others, and what he finds is the same: the two volumes *house* him
alike, as long as nobody else touches his places.

* `Volume.Confined`: what has been done to a volume was done at some places, and to objects that
  stood there or are new.
* `Volume.Housed`: two volumes mirror each other at the places of a path and its temporary name.
* `Volume.busy_matching`: whoever works with the path in both of them cannot tell them apart, and
  all that he does is confined to these places.
* `Housed.confined`: two volumes go on to house him alike, if only one of them is changed and that
  is confined to other places.
-/

namespace KeyLog
namespace Volume

variable {own other : Path → Prop} {pairs more first : Nat → Nat → Prop}
  {a b origin after after' : Volume} {x y d e : Nat} {place : Path}

/-! ## What is confined to some places -/

/-- What has been done to a volume since `origin` was done at some places, and to objects that were
paired at first or are new.  What is paired now was so at first, or is new. -/
structure Confined (own : Path → Prop) (first : Nat → Nat → Prop) (origin : Volume)
    (pairs : Nat → Nat → Prop) (after : Volume) : Prop where
  directories : ∀ place, origin.node? place = some .directory ↔ after.node? place = some .directory
  nodes : ∀ place, ¬ own place → after.node? place = origin.node? place
  content : ∀ object, object < origin.fresh → (∀ y, ¬ first object y) →
    after.content object = origin.content object
  fresh : origin.fresh ≤ after.fresh
  pairs : ∀ x y, pairs x y → first x y ∨ origin.fresh ≤ x

theorem Confined.refl (own : Path → Prop) (pairs : Nat → Nat → Prop) (volume : Volume) :
    Confined own pairs volume pairs volume :=
  ⟨fun _ => Iff.rfl, fun _ _ => rfl, fun _ _ _ => rfl, Nat.le_refl _, fun _ _ => .inl⟩

theorem Confined.keepsDirectories (h : Confined own first origin pairs a)
    (h' : Confined own first origin more after) : a.KeepsDirectories after :=
  fun place hplace => (h'.directories place).1 ((h.directories place).2 hplace)

/-- Writing to a paired object is confined. -/
theorem Confined.put (h : Confined own first origin pairs a) (hpair : pairs x y)
    (held : SparseBytes) : Confined own first origin pairs (a.put x held) where
  directories := h.directories
  nodes := h.nodes
  content object hknown hnot := by
    have hne : object ≠ x := by
      rintro rfl
      rcases h.pairs object y hpair with hfirst | hnew
      · exact hnot y hfirst
      · exact absurd hknown (Nat.not_lt.2 hnew)
    rw [content_put, if_neg hne, h.content object hknown hnot]
  fresh := h.fresh
  pairs := h.pairs

/-- What happens at one of the places is confined, if no directory is there before or after. -/
theorem Confined.change (h : Confined own first origin pairs a) (hplace : own place)
    (hfree : a.node? place ≠ some .directory) (hfree' : after.node? place ≠ some .directory)
    (helse : ∀ other, other ≠ place → after.node? other = a.node? other)
    (hcontent : ∀ object, object < origin.fresh → after.content object = a.content object)
    (hfresh : a.fresh ≤ after.fresh) (hpairs : ∀ x y, more x y → pairs x y ∨ origin.fresh ≤ x) :
    Confined own first origin more after where
  directories := by
    intro other
    rw [h.directories other]
    by_cases hother : other = place
    · subst hother
      exact iff_of_false hfree hfree'
    · rw [helse other hother]
  nodes := by
    intro other hother
    have hne : other ≠ place := by
      rintro rfl
      exact hother hplace
    rw [helse other hne, h.nodes other hother]
  content object hknown hnot := (hcontent object hknown).trans (h.content object hknown hnot)
  fresh := Nat.le_trans h.fresh hfresh
  pairs := by
    intro x y hmore
    rcases hpairs x y hmore with hpair | hnew
    · exact h.pairs x y hpair
    · exact .inr hnew

/-- Giving one of the places to a file is confined. -/
theorem Confined.link (h : Confined own first origin pairs a) (hplace : own place)
    (hnil : place ≠ []) (hfree : a.node? place ≠ some .directory) (object : Nat) :
    Confined own first origin pairs (a.link place (.file object)) := by
  refine h.change hplace hfree ?_ ?_ (fun _ _ => rfl) (Nat.le_refl _) fun _ _ => .inl
  · rw [node?_link a hnil, if_pos rfl]
    exact fun heq => nomatch heq
  · intro other hother
    rw [node?_link a hnil, if_neg hother]

/-- Taking a file away from one of the places is confined. -/
theorem Confined.unlink (h : Confined own first origin pairs a) (hplace : own place)
    (hnil : place ≠ []) (hfree : a.node? place ≠ some .directory) :
    Confined own first origin pairs (a.unlink place) := by
  refine h.change hplace hfree ?_ ?_ (fun _ _ => rfl) (Nat.le_refl _) fun _ _ => .inl
  · rw [node?_unlink a hnil, if_pos rfl]
    exact fun heq => nomatch heq
  · intro other hother
    rw [node?_unlink a hnil, if_neg hother]

/-- Making a new file at one of the places is confined. -/
theorem Confined.create (h : Confined own first origin pairs a) (hplace : own place)
    (hnil : place ≠ []) (hfree : a.node? place ≠ some .directory) (e : Nat) :
    Confined own first origin (withPair pairs a.fresh e) (a.create place).2 := by
  refine h.change hplace hfree ?_ ?_ ?_ (Nat.le_succ _) ?_
  · rw [node?_create a hnil, if_pos rfl]
    exact fun heq => nomatch heq
  · intro other hother
    rw [node?_create a hnil, if_neg hother]
  · intro object hknown
    rw [content_create, if_neg (Nat.ne_of_lt (Nat.lt_of_lt_of_le hknown h.fresh))]
  · rintro x y (hpair | ⟨rfl, -⟩)
    · exact .inl hpair
    · exact .inr h.fresh

/-! ## Two volumes that house somebody alike -/

/-- Two volumes mirror each other at some places, and a path and its temporary name lead there. -/
structure Housed (path temporary : String) (own : Path → Prop) (pairs : Nat → Nat → Prop)
    (a b : Volume) : Prop extends Mirrored own pairs a b where
  target : a.Owns own path
  beside : a.Owns own temporary

variable {path temporary text : String} {draft : Option (Nat × Nat)}

/-- **What is confined to other places** and done to one of the volumes only, nobody notices who has
no object there. -/
theorem Housed.confined (h : Housed path temporary own pairs a b)
    (hconfined : Confined other first a more after) (hplaces : ∀ place, own place → ¬ other place)
    (hpairs : ∀ x y y', pairs x y → ¬ first x y') : Housed path temporary own pairs after b where
  content x y hpair := by
    rw [hconfined.content x (h.known x y hpair).1 fun y' => hpairs x y y' hpair]
    exact h.content x y hpair
  left := h.left
  right := h.right
  known x y hpair :=
    ⟨Nat.lt_of_lt_of_le (h.known x y hpair).1 hconfined.fresh, (h.known x y hpair).2⟩
  directories place := (hconfined.directories place).symm.trans (h.directories place)
  nodes place hplace := hconfined.nodes place (hplaces place hplace) ▸ h.nodes place hplace
  target := h.target.mono fun place => (hconfined.directories place).1
  beside := h.beside.mono fun place => (hconfined.directories place).1

/-- Two volumes house somebody alike, he is at work in both of them, and all that he has done since
`origin` is confined to his places. -/
structure Busy (path temporary : String) (own : Path → Prop) (first : Nat → Nat → Prop)
    (origin : Volume) (pairs : Nat → Nat → Prop) (draft : Option (Nat × Nat)) (a b : Volume) : Prop
    extends Housed path temporary own pairs a b where
  confined : Confined own first origin pairs a
  drafted : ∀ d e, draft = some (d, e) →
    pairs d e ∧ a.Leads temporary d ∧ b.Leads temporary e

theorem Housed.busy (h : Housed path temporary own pairs a b) :
    Busy path temporary own pairs a pairs none a b :=
  ⟨h, .refl own pairs a, fun _ _ heq => nomatch heq⟩

/-- Two volumes go on to house somebody alike who is at work, if they mirror each other afterwards
and what was done is confined. -/
theorem Busy.change (h : Busy path temporary own first origin pairs draft a b)
    (hmirrored : Mirrored own more after after')
    (hconfined : Confined own first origin more after) :
    Busy path temporary own first origin more none after after' :=
  ⟨⟨hmirrored, h.target.mono (h.confined.keepsDirectories hconfined),
    h.beside.mono (h.confined.keepsDirectories hconfined)⟩, hconfined, fun _ _ heq => nomatch heq⟩

/-- The draft is there as soon as the temporary name leads to it. -/
theorem Busy.drafting (h : Busy path temporary own first origin pairs none a b) (hpair : pairs d e)
    (hleads : a.Leads temporary d) (hleads' : b.Leads temporary e) :
    Busy path temporary own first origin pairs (some (d, e)) a b := by
  refine ⟨h.toHoused, h.confined, ?_⟩
  rintro _ _ ⟨⟩
  exact ⟨hpair, hleads, hleads'⟩

theorem Busy.put (h : Busy path temporary own first origin pairs draft a b) (hpair : pairs x y)
    {p q : SparseBytes} (hbytes : p.toBytes = q.toBytes) :
    Busy path temporary own first origin pairs draft (a.put x p) (b.put y q) := by
  have hchange := h.change (h.toMirrored.put hpair hbytes) (h.confined.put hpair p)
  refine ⟨hchange.toHoused, hchange.confined, ?_⟩
  intro d e heq
  obtain ⟨hdraft, hleads, hleads'⟩ := h.drafted d e heq
  exact ⟨hdraft, hleads.within (within_put a x p), hleads'.within (within_put b y q)⟩

/-- A text that leads to one of the places is opened alike, or cannot be. -/
theorem Busy.openFile (h : Busy path temporary own first origin pairs none a b)
    (htext : a.Owns own text) (create : Bool) :
    (∃ cause, a.openFile text create = (.error cause, a) ∧
        b.openFile text create = (.error cause, b)) ∨
      ∃ more x y after after', a.openFile text create = (.ok x, after) ∧
        b.openFile text create = (.ok y, after') ∧ (∀ x y, pairs x y → more x y) ∧ more x y ∧
          Busy path temporary own first origin more none after after' ∧
            (create = false → after = a ∧ after' = b) ∧ after.Leads text x ∧
              after'.Leads text y := by
  rcases h.toMirrored.openFile htext create with
    hfails | ⟨x, y, ha, hb, hpair, hleads, hleads'⟩ |
      ⟨place, hcreate, hplace, hnil, hnone, -, ha, hb, hleads, hleads'⟩
  · exact .inl hfails
  · exact .inr ⟨pairs, x, y, a, b, ha, hb, fun _ _ => id, hpair, h, fun _ => ⟨rfl, rfl⟩, hleads,
      hleads'⟩
  · have hfree : a.node? place ≠ some .directory := by simp [hnone]
    refine .inr ⟨withPair pairs a.fresh b.fresh, a.fresh, b.fresh, _, _, ha, hb, fun _ _ => .inl,
      .inr ⟨rfl, rfl⟩, h.change (h.toMirrored.create hnil) (h.confined.create hplace hnil hfree _),
      fun hfalse => ?_, hleads, hleads'⟩
    cases hcreate.symm.trans hfalse

/-- **In both volumes the draft is made**, or it cannot be. -/
theorem Busy.openEmpty (h : Busy path temporary own first origin pairs none a b) :
    (∃ cause, a.openEmpty temporary = (.error cause, a) ∧
        b.openEmpty temporary = (.error cause, b)) ∨
      ∃ more d e after after', a.openEmpty temporary = (.ok d, after) ∧
        b.openEmpty temporary = (.ok e, after') ∧ (∀ x y, pairs x y → more x y) ∧
          Busy path temporary own first origin more (some (d, e)) after after' := by
  rcases h.openFile h.beside true with
    ⟨cause, ha, hb⟩ | ⟨more, d, e, after, after', ha, hb, hmore, hpair, hafter, -, hleads, hleads'⟩
  · exact .inl ⟨cause, by simp only [Volume.openEmpty, ha], by simp only [Volume.openEmpty, hb]⟩
  · have hdraft := hafter.drafting hpair hleads hleads'
    exact .inr ⟨more, d, e, after.store d [], after'.store e [],
      by simp only [Volume.openEmpty, ha], by simp only [Volume.openEmpty, hb], hmore,
      hdraft.put hpair rfl⟩

/-- A file may be taken away from one of the places. -/
theorem Busy.unlink (h : Busy path temporary own first origin pairs draft a b) (hplace : own place)
    (hnil : place ≠ []) (hfree : a.node? place ≠ some .directory) :
    Busy path temporary own first origin pairs none (a.unlink place) (b.unlink place) :=
  h.change (h.toMirrored.unlink hnil) (h.confined.unlink hplace hnil hfree)

/-- **In both volumes the draft takes the name of the path**, or cannot for the same reason. -/
theorem Busy.rename (h : Busy path temporary own first origin pairs (some (d, e)) a b) :
    (∃ cause, a.rename temporary path = (some cause, a) ∧
        b.rename temporary path = (some cause, b)) ∨
      ∃ after after', a.rename temporary path = (none, after) ∧
        b.rename temporary path = (none, after') ∧
          Busy path temporary own first origin pairs none after after' := by
  obtain ⟨hpair, ⟨hidden, hlocate, hlook⟩, ⟨hidden', hlocate', hlook'⟩⟩ := h.drafted d e rfl
  obtain ⟨result, hresult, hresult', hown⟩ := h.toMirrored.locate h.beside
  cases hresult.symm.trans hlocate
  cases hresult'.symm.trans hlocate'
  have hnil : hidden ≠ [] := locate_ne_nil hlocate
  have hfree : a.node? hidden ≠ some .directory := by
    rw [node?_of_lookUp hlook]
    exact fun heq => nomatch heq
  rcases h.toMirrored.rename h.target ⟨hlocate, hlook⟩ ⟨hlocate', hlook'⟩ with
    hfails | ⟨-, ha, hb⟩ | ⟨place, hplace, hne, hplaceNil, hplaceFree, ha, hb⟩
  · exact .inl hfails
  · exact .inr ⟨a, b, ha, hb, h.toHoused, h.confined, fun _ _ heq => nomatch heq⟩
  · have hunlink := h.unlink (hown _ _ rfl) hnil hfree
    have hplaceFree' : (a.unlink hidden).node? place ≠ some .directory := by
      rw [node?_unlink a hnil, if_neg hne]
      exact hplaceFree
    exact .inr ⟨_, _, ha, hb, hunlink.change (hunlink.toMirrored.link hplaceNil hpair)
      (hunlink.confined.link hplace hplaceNil hplaceFree' d)⟩

/-- **In both volumes the temporary name is taken away**, if there is anything. -/
theorem Busy.remove (h : Busy path temporary own first origin pairs draft a b) :
    Busy path temporary own first origin pairs none (a.remove temporary).2
      (b.remove temporary).2 := by
  rcases h.toMirrored.remove h.beside with ⟨ha, hb⟩ | ⟨place, hplace, hnil, hfree, ha, hb⟩
  · rw [ha, hb]
    exact ⟨h.toHoused, h.confined, fun _ _ heq => nomatch heq⟩
  · rw [ha, hb]
    exact h.unlink hplace hnil hfree

/-- **Whoever works with the path** cannot tell the volumes apart that house him alike, and what he
does is confined to his places. -/
theorem busy_matching : Matching path temporary (Busy path temporary own first origin) where
  paired h := h.toPaired
  put h hpair hbytes := h.put hpair hbytes
  openFile create h := by
    rcases h.openFile h.target create with
      hfails | ⟨more, x, y, after, after', ha, hb, hmore, hpair, hafter, hsame, -⟩
    · exact .inl hfails
    · exact .inr ⟨more, x, y, after, after', ha, hb, hmore, hpair, hafter, hsame⟩
  openEmpty h := h.openEmpty
  drafted h := h.drafted _ _ rfl
  rename h := h.rename
  remove h := h.remove

/-! ## The beginning -/

/-- The objects that stand at some places. -/
def standing (volume : Volume) (own : Path → Prop) (x y : Nat) : Prop :=
  x = y ∧ ∃ place, own place ∧ volume.node? place = some (.file x)

/-- A volume houses somebody as it does itself. -/
theorem Sound.housed {volume : Volume} (h : volume.Sound) (htarget : volume.Owns own path)
    (hbeside : volume.Owns own temporary) :
    Housed path temporary own (volume.standing own) volume volume where
  content := by
    rintro x y ⟨rfl, -⟩
    rfl
  left := by
    rintro x y y' ⟨rfl, -⟩ ⟨rfl, -⟩
    rfl
  right := by
    rintro x x' y ⟨rfl, -⟩ ⟨rfl, -⟩
    rfl
  known := by
    rintro x y ⟨rfl, place, -, hnode⟩
    exact ⟨h.lt_fresh hnode, h.lt_fresh hnode⟩
  directories _ := Iff.rfl
  nodes := by
    intro place hplace
    cases hnode : volume.node? place with
    | none => exact .nothing
    | some node =>
      cases node with
      | directory => exact .directory
      | file object => exact .file ⟨rfl, place, hplace, hnode⟩
  target := htarget
  beside := hbeside

/-- No object stands at places of two. -/
theorem Sound.not_standing {volume : Volume} (h : volume.Sound)
    (hplaces : ∀ place, own place → ¬ other place) {x y y' : Nat} (hown : volume.standing own x y) :
    ¬ volume.standing other x y' := by
  rintro ⟨-, place', hplace', hnode'⟩
  obtain ⟨-, place, hplace, hnode⟩ := hown
  obtain rfl : place = place' := h.path_eq hnode hnode'
  exact hplaces place hplace hplace'

end Volume
end KeyLog
