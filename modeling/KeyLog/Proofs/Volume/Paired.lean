import KeyLog.Proofs.Volume.Leads

/-!
# Two volumes side by side

The same is done to two volumes that are not the same but look so to those who do it: some of their
objects belong together in pairs, and those of a pair hold the same bytes.  Which volumes look the
same to whom is said by a relation of pairs, of the draft in the making and of the two volumes.

* `Volume.Paired`: objects of two volumes belong together in pairs.
* `Volume.Matching`: what a relation of two volumes has to stand so that whoever works with a path
  and its temporary name cannot tell the volumes apart.
-/

namespace KeyLog
namespace Volume

/-! ## Pairs -/

/-- Objects that were made before are paired one to one, and those of a pair hold the same bytes. -/
structure Paired (pairs : Nat → Nat → Prop) (a b : Volume) : Prop where
  content : ∀ x y, pairs x y → a.content x = b.content y
  left : ∀ x y y', pairs x y → pairs x y' → y = y'
  right : ∀ x x' y, pairs x y → pairs x' y → x = x'
  known : ∀ x y, pairs x y → x < a.fresh ∧ y < b.fresh

/-- One pair more. -/
def withPair (pairs : Nat → Nat → Prop) (d e : Nat) (x y : Nat) : Prop :=
  pairs x y ∨ x = d ∧ y = e

variable {pairs more : Nat → Nat → Prop} {a b after after' : Volume} {x y d e : Nat}

theorem Paired.size (h : Paired pairs a b) (hpair : pairs x y) : a.size x = b.size y := by
  rw [size_eq, size_eq, h.content x y hpair]

theorem Paired.read (h : Paired pairs a b) (hpair : pairs x y) (offset length : Nat) :
    a.read x offset length = b.read y offset length := by
  rw [read_eq, read_eq, h.content x y hpair]

/-- The same bytes may be put into the objects of a pair. -/
theorem Paired.put (h : Paired pairs a b) (hpair : pairs x y) {p q : SparseBytes}
    (hbytes : p.toBytes = q.toBytes) : Paired pairs (a.put x p) (b.put y q) where
  content x' y' hpair' := by
    rw [content_put, content_put]
    by_cases hx : x' = x
    · subst hx
      rw [if_pos rfl, if_pos (h.left _ _ _ hpair' hpair), hbytes]
    · have hy : y' ≠ y := by
        rintro rfl
        exact hx (h.right _ _ _ hpair' hpair)
      rw [if_neg hx, if_neg hy, h.content x' y' hpair']
  left := h.left
  right := h.right
  known := h.known

/-- Two objects without twins may become a pair, if nothing has happened to the other pairs. -/
theorem Paired.withPair (h : Paired pairs a b) (hcontent : after.content d = after'.content e)
    (hd : ∀ y, ¬ pairs d y) (he : ∀ x, ¬ pairs x e)
    (ha : ∀ x y, pairs x y → after.content x = a.content x ∧ after'.content y = b.content y)
    (hfresh : a.fresh ≤ after.fresh ∧ b.fresh ≤ after'.fresh)
    (hknown : d < after.fresh ∧ e < after'.fresh) :
    Paired (Volume.withPair pairs d e) after after' where
  content := by
    rintro x y (hpair | ⟨rfl, rfl⟩)
    · rw [(ha x y hpair).1, (ha x y hpair).2, h.content x y hpair]
    · exact hcontent
  left := by
    rintro x y y' (hpair | ⟨rfl, rfl⟩) (hpair' | ⟨hx, rfl⟩)
    · exact h.left x y y' hpair hpair'
    · exact absurd (hx ▸ hpair) (hd y)
    · exact absurd hpair' (hd y')
    · rfl
  right := by
    rintro x x' y (hpair | ⟨rfl, rfl⟩) (hpair' | ⟨rfl, hy⟩)
    · exact h.right x x' y hpair hpair'
    · exact absurd (hy ▸ hpair) (he x)
    · exact absurd hpair' (he x')
    · rfl
  known := by
    rintro x y (hpair | ⟨rfl, rfl⟩)
    · have hold := h.known x y hpair
      exact ⟨Nat.lt_of_lt_of_le hold.1 hfresh.1, Nat.lt_of_lt_of_le hold.2 hfresh.2⟩
    · exact hknown

/-- Two new objects become a pair. -/
theorem Paired.create (h : Paired pairs a b) (place : Path) :
    Paired (Volume.withPair pairs a.fresh b.fresh) (a.create place).2 (b.create place).2 := by
  have hold : ∀ (volume : Volume) (object : Nat), object < volume.fresh →
      (volume.create place).2.content object = volume.content object := by
    intro volume object hobject
    rw [content_create, if_neg (Nat.ne_of_lt hobject)]
  refine h.withPair ?_ ?_ ?_ ?_ ⟨Nat.le_succ _, Nat.le_succ _⟩
    ⟨Nat.lt_succ_self _, Nat.lt_succ_self _⟩
  · rw [content_create, content_create, if_pos rfl, if_pos rfl]
  · exact fun y hpair => Nat.lt_irrefl _ (h.known _ _ hpair).1
  · exact fun x hpair => Nat.lt_irrefl _ (h.known _ _ hpair).2
  · exact fun x y hpair => ⟨hold a x (h.known _ _ hpair).1, hold b y (h.known _ _ hpair).2⟩

/-! ## Relations that cannot be told apart -/

/-- A relation of two volumes, of the pairs of their objects and of the draft that is in the making
in both of them, stands whatever is done by somebody who works with a path and its temporary name. -/
structure Matching (path temporary : String)
    (R : (Nat → Nat → Prop) → Option (Nat × Nat) → Volume → Volume → Prop) : Prop where
  paired {pairs : Nat → Nat → Prop} {draft : Option (Nat × Nat)} {a b : Volume} :
    R pairs draft a b → Paired pairs a b
  /-- The same bytes are put into the objects of a pair. -/
  put {pairs : Nat → Nat → Prop} {draft : Option (Nat × Nat)} {a b : Volume} {x y : Nat}
    {p q : SparseBytes} : R pairs draft a b → pairs x y → p.toBytes = q.toBytes →
      R pairs draft (a.put x p) (b.put y q)
  /-- The path is opened alike. -/
  openFile {pairs : Nat → Nat → Prop} {a b : Volume} (create : Bool) : R pairs none a b →
    (∃ cause, a.openFile path create = (.error cause, a) ∧
        b.openFile path create = (.error cause, b)) ∨
      ∃ more x y after after', a.openFile path create = (.ok x, after) ∧
        b.openFile path create = (.ok y, after') ∧ (∀ x y, pairs x y → more x y) ∧ more x y ∧
          R more none after after' ∧ (create = false → after = a ∧ after' = b)
  /-- The draft is made in both volumes, or cannot be in either. -/
  openEmpty {pairs : Nat → Nat → Prop} {a b : Volume} : R pairs none a b →
    (∃ cause, a.openEmpty temporary = (.error cause, a) ∧
        b.openEmpty temporary = (.error cause, b)) ∨
      ∃ more d e after after', a.openEmpty temporary = (.ok d, after) ∧
        b.openEmpty temporary = (.ok e, after') ∧ (∀ x y, pairs x y → more x y) ∧
          R more (some (d, e)) after after'
  /-- The temporary name leads to the draft. -/
  drafted {pairs : Nat → Nat → Prop} {a b : Volume} {d e : Nat} : R pairs (some (d, e)) a b →
    pairs d e ∧ a.Leads temporary d ∧ b.Leads temporary e
  /-- The draft takes the name of the path in both volumes, or cannot in either. -/
  rename {pairs : Nat → Nat → Prop} {a b : Volume} {d e : Nat} : R pairs (some (d, e)) a b →
    (∃ cause, a.rename temporary path = (some cause, a) ∧
        b.rename temporary path = (some cause, b)) ∨
      ∃ after after', a.rename temporary path = (none, after) ∧
        b.rename temporary path = (none, after') ∧ R pairs none after after'
  /-- The temporary name is taken away, if it leads to anything. -/
  remove {pairs : Nat → Nat → Prop} {draft : Option (Nat × Nat)} {a b : Volume} :
    R pairs draft a b → R pairs none (a.remove temporary).2 (b.remove temporary).2

namespace Matching

variable {path temporary : String} {draft : Option (Nat × Nat)}
  {R : (Nat → Nat → Prop) → Option (Nat × Nat) → Volume → Volume → Prop}

/-- The same bytes are added to the objects of a pair by writers that are cut off alike. -/
theorem append (hR : Matching path temporary R) (h : R pairs draft a b) (hpair : pairs x y)
    (medium : Medium) {position position' : Nat} (bytes : Bytes)
    (hcut : medium.cutOff position (b.size y) bytes.length =
      medium.cutOff position' (b.size y) bytes.length) :
    ∃ result after after', a.append medium x position bytes = (result, after) ∧
      b.append medium y position' bytes = (result, after') ∧ R pairs draft after after' := by
  have hsize : (a.held x).size = (b.held y).size := (hR.paired h).size hpair
  have hpush : ∀ extent : Extent, ((a.held x).push extent).toBytes =
      ((b.held y).push extent).toBytes := by
    intro extent
    rw [SparseBytes.toBytes_push, SparseBytes.toBytes_push]
    exact congrArg (· ++ extent.bytes) ((hR.paired h).content x y hpair)
  have hcut' : medium.cutOff position (b.held y).size bytes.length =
      medium.cutOff position' (b.held y).size bytes.length := hcut
  simp only [Volume.append, hsize, hcut']
  split
  · exact ⟨_, _, _, rfl, rfl, hR.put h hpair (hpush _)⟩
  · exact ⟨_, _, _, rfl, rfl, hR.put h hpair (hpush _)⟩

/-- The objects of a pair are given the same length. -/
theorem resize (hR : Matching path temporary R) (h : R pairs draft a b) (hpair : pairs x y)
    (medium : Medium) (length : Nat) :
    ∃ result after after', a.resize medium x length = (result, after) ∧
      b.resize medium y length = (result, after') ∧ R pairs draft after after' := by
  have hsize : (a.held x).size = (b.held y).size := (hR.paired h).size hpair
  have hfit : ((a.held x).fit length).toBytes = ((b.held y).fit length).toBytes := by
    have hcontent : (a.held x).toBytes = (b.held y).toBytes := (hR.paired h).content x y hpair
    rw [SparseBytes.toBytes_fit, SparseBytes.toBytes_fit, hcontent]
  simp only [Volume.resize, hsize]
  split
  · exact ⟨_, _, _, rfl, rfl, h⟩
  · exact ⟨_, _, _, rfl, rfl, hR.put h hpair hfit⟩

/-- The path leads to the same bytes. -/
theorem bytesAt? (hR : Matching path temporary R) (h : R pairs none a b) :
    a.bytesAt? path = b.bytesAt? path := by
  unfold Volume.bytesAt?
  rcases hR.openFile false h with
    ⟨cause, ha, hb⟩ | ⟨more, x, y, after, after', ha, hb, -, hpair, hafter, hsame⟩
  · rw [ha, hb]
  · obtain ⟨rfl, rfl⟩ := hsame rfl
    rw [ha, hb]
    exact congrArg some ((hR.paired hafter).content x y hpair)

end Matching

end Volume
end KeyLog
