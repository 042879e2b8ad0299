import KeyLog.Proofs.Volume.Draft
import KeyLog.Proofs.Volume.Paired

/-!
# Volumes that mirror each other

At some places of two volumes stand pairs, and both volumes have the same directories.  What goes by
a text that leads to such a place then comes to the same in both volumes.

* `Volume.Mirrored`: the two volumes mirror each other at some places.
* `Volume.Owns`: a text leads to one of some places, or to none of any.
* `Mirrored.put`, `link`, `unlink`, `create`: what is done to both volumes, so that they go on to
  mirror each other.
* `Mirrored.openFile`, `remove`, `rename`: this is what operations by name come to.
-/

namespace KeyLog

/-- At two places stands the same, but for the numbers of objects, which are a pair. -/
inductive Node.Twin (pairs : Nat → Nat → Prop) : Option Node → Option Node → Prop
  | nothing : Twin pairs none none
  | directory : Twin pairs (some .directory) (some .directory)
  | file {x y : Nat} (h : pairs x y) : Twin pairs (some (.file x)) (some (.file y))

theorem Node.Twin.mono {pairs more : Nat → Nat → Prop} (hmore : ∀ x y, pairs x y → more x y)
    {n m : Option Node} (h : Twin pairs n m) : Twin more n m := by
  cases h with
  | nothing => exact .nothing
  | directory => exact .directory
  | file h => exact .file (hmore _ _ h)

/-- Where a directory is on one side, it is on the other. -/
theorem Node.Twin.directory_iff {pairs : Nat → Nat → Prop} {n m : Option Node}
    (h : Twin pairs n m) : n = some .directory ↔ m = some .directory := by
  cases h with
  | nothing => exact Iff.rfl
  | directory => exact Iff.rfl
  | file => exact iff_of_false (fun heq => nomatch heq) fun heq => nomatch heq

namespace Volume

variable {own : Path → Prop} {pairs : Nat → Nat → Prop} {a b after : Volume} {x y : Nat}
  {place : Path} {text : String}

/-- At some places stands the same in two volumes, but for the numbers of objects, and both volumes
have the same directories. -/
structure Mirrored (own : Path → Prop) (pairs : Nat → Nat → Prop) (a b : Volume) : Prop
    extends Paired pairs a b where
  directories : ∀ place, a.node? place = some .directory ↔ b.node? place = some .directory
  nodes : ∀ place, own place → Node.Twin pairs (a.node? place) (b.node? place)

/-- A text leads to one of some places, to a directory or nowhere, and goes on to do so as long as
no directory is taken away. -/
def Owns (volume : Volume) (own : Path → Prop) (text : String) : Prop :=
  ∃ result, volume.Settled text result ∧
    ∀ place asDirectory, result = .ok (.name place asDirectory) → own place

theorem Owns.mono (h : a.Owns own text)
    (hkeeps : a.KeepsDirectories after) : after.Owns own text := by
  obtain ⟨result, hsettled, hown⟩ := h
  exact ⟨result, hsettled.mono hkeeps, hown⟩

/-! ## What is done to both -/

/-- The same bytes may be put into the objects of a pair. -/
theorem Mirrored.put (h : Mirrored own pairs a b) (hpair : pairs x y) {p q : SparseBytes}
    (hbytes : p.toBytes = q.toBytes) : Mirrored own pairs (a.put x p) (b.put y q) :=
  ⟨h.toPaired.put hpair hbytes, h.directories, h.nodes⟩

/-- A pair of objects may be given a name. -/
theorem Mirrored.link (h : Mirrored own pairs a b) (hnil : place ≠ []) (hpair : pairs x y) :
    Mirrored own pairs (a.link place (.file x)) (b.link place (.file y)) := by
  refine ⟨⟨h.content, h.left, h.right, h.known⟩, ?_, ?_⟩
  · intro other
    rw [node?_link a hnil, node?_link b hnil]
    split
    · exact iff_of_false (fun heq => nomatch heq) fun heq => nomatch heq
    · exact h.directories other
  · intro other hother
    rw [node?_link a hnil, node?_link b hnil]
    split
    · exact .file hpair
    · exact h.nodes other hother

/-- A name may be taken away. -/
theorem Mirrored.unlink (h : Mirrored own pairs a b) (hnil : place ≠ []) :
    Mirrored own pairs (a.unlink place) (b.unlink place) := by
  refine ⟨⟨h.content, h.left, h.right, h.known⟩, ?_, ?_⟩
  · intro other
    rw [node?_unlink a hnil, node?_unlink b hnil]
    split
    · exact Iff.rfl
    · exact h.directories other
  · intro other hother
    rw [node?_unlink a hnil, node?_unlink b hnil]
    split
    · exact .nothing
    · exact h.nodes other hother

/-- New objects may be given a name. -/
theorem Mirrored.create (h : Mirrored own pairs a b) (hnil : place ≠ []) :
    Mirrored own (withPair pairs a.fresh b.fresh) (a.create place).2 (b.create place).2 := by
  refine ⟨h.toPaired.create place, ?_, ?_⟩
  · intro other
    rw [node?_create a hnil, node?_create b hnil]
    split
    · exact iff_of_false (fun heq => nomatch heq) fun heq => nomatch heq
    · exact h.directories other
  · intro other hother
    rw [node?_create a hnil, node?_create b hnil]
    split
    · exact .file (.inr ⟨rfl, rfl⟩)
    · exact (h.nodes other hother).mono fun _ _ => .inl

/-! ## What operations by name come to -/

/-- The text leads to one place in both volumes. -/
theorem Mirrored.locate (h : Mirrored own pairs a b) (htext : a.Owns own text) :
    ∃ result, a.locate text = result ∧ b.locate text = result ∧
      ∀ place asDirectory, result = .ok (.name place asDirectory) → own place := by
  obtain ⟨result, hsettled, hown⟩ := htext
  exact ⟨result, hsettled.locate, hsettled b fun place => (h.directories place).1, hown⟩

/-- Looking up one of the places finds a pair of nodes, or fails in both volumes. -/
theorem Mirrored.lookUp (h : Mirrored own pairs a b) (hplace : own place) :
    (∃ cause, a.lookUp place = .error cause ∧ b.lookUp place = .error cause) ∨
      ∃ n m, a.lookUp place = .ok n ∧ b.lookUp place = .ok m ∧ a.node? place = n ∧
        b.node? place = m ∧ Node.Twin pairs n m := by
  unfold Volume.lookUp
  split
  · exact .inl ⟨_, rfl, rfl⟩
  · exact .inr ⟨_, _, rfl, rfl, rfl, rfl, h.nodes place hplace⟩

/-- **A text is opened alike**: in both volumes it cannot be, or it leads to a pair, or new objects
are made for it at one of the places. -/
theorem Mirrored.openFile (h : Mirrored own pairs a b) (htext : a.Owns own text) (create : Bool) :
    (∃ cause, a.openFile text create = (.error cause, a) ∧
        b.openFile text create = (.error cause, b)) ∨
    (∃ x y, a.openFile text create = (.ok x, a) ∧ b.openFile text create = (.ok y, b) ∧
      pairs x y ∧ a.Leads text x ∧ b.Leads text y) ∨
    ∃ place, create = true ∧ own place ∧ place ≠ [] ∧ a.node? place = none ∧
      b.node? place = none ∧
      a.openFile text create = (.ok a.fresh, (a.create place).2) ∧
      b.openFile text create = (.ok b.fresh, (b.create place).2) ∧
        (a.create place).2.Leads text a.fresh ∧ (b.create place).2.Leads text b.fresh := by
  obtain ⟨result, ha, hb, hown⟩ := h.locate htext
  rcases result with cause | ⟨⟩ | ⟨place, asDirectory⟩
  · exact .inl ⟨cause, by simp only [Volume.openFile, ha], by simp only [Volume.openFile, hb]⟩
  · exact .inl ⟨.isDirectory, by simp only [Volume.openFile, ha],
      by simp only [Volume.openFile, hb]⟩
  by_cases hslash : (create && asDirectory) = true
  · exact .inl ⟨.isDirectory, by simp only [Volume.openFile, ha, hslash, if_true],
      by simp only [Volume.openFile, hb, hslash, if_true]⟩
  rw [Bool.not_eq_true] at hslash
  rcases h.lookUp (hown _ _ rfl) with
    ⟨cause, hlook, hlook'⟩ | ⟨n, m, hlook, hlook', hnode, hnode', htwin⟩
  · exact .inl ⟨cause, by simp [Volume.openFile, ha, hslash, hlook],
      by simp [Volume.openFile, hb, hslash, hlook']⟩
  cases htwin with
  | directory =>
    exact .inl ⟨.isDirectory, by simp [Volume.openFile, ha, hslash, hlook],
      by simp [Volume.openFile, hb, hslash, hlook']⟩
  | @file x y hpair =>
    cases asDirectory with
    | true =>
      exact .inl ⟨.notDirectory, by simp [Volume.openFile, ha, hslash, hlook],
        by simp [Volume.openFile, hb, hslash, hlook']⟩
    | false =>
      have hleads : a.Leads text x := ⟨place, ha, hlook⟩
      have hleads' : b.Leads text y := ⟨place, hb, hlook'⟩
      exact .inr (.inl ⟨x, y, hleads.openFile create, hleads'.openFile create, hpair, hleads,
        hleads'⟩)
  | nothing =>
    cases create with
    | false =>
      exact .inl ⟨.noEntry, by simp [Volume.openFile, ha, hlook],
        by simp [Volume.openFile, hb, hlook']⟩
    | true =>
      obtain rfl : asDirectory = false := by simpa using hslash
      exact .inr (.inr ⟨place, rfl, hown _ _ rfl, locate_ne_nil ha, hnode, hnode',
        by simp [Volume.openFile, ha, hlook, Volume.create],
        by simp [Volume.openFile, hb, hlook', Volume.create], (leads_create ha hlook).1,
        (leads_create hb hlook').1⟩)

/-- **A text is removed alike**: in both volumes nothing happens, or the same name is taken away. -/
theorem Mirrored.remove (h : Mirrored own pairs a b) (htext : a.Owns own text) :
    ((a.remove text).2 = a ∧ (b.remove text).2 = b) ∨
      ∃ place, own place ∧ place ≠ [] ∧ a.node? place ≠ some .directory ∧
        (a.remove text).2 = a.unlink place ∧ (b.remove text).2 = b.unlink place := by
  obtain ⟨result, ha, hb, hown⟩ := h.locate htext
  rcases result with cause | ⟨⟩ | ⟨place, asDirectory⟩
  · exact .inl ⟨by simp only [Volume.remove, ha], by simp only [Volume.remove, hb]⟩
  · exact .inl ⟨by simp only [Volume.remove, ha], by simp only [Volume.remove, hb]⟩
  rcases h.lookUp (hown _ _ rfl) with
    ⟨cause, hlook, hlook'⟩ | ⟨n, m, hlook, hlook', hnode, -, htwin⟩
  · exact .inl ⟨by simp only [Volume.remove, ha, hlook], by simp only [Volume.remove, hb, hlook']⟩
  cases htwin with
  | nothing =>
    exact .inl ⟨by simp only [Volume.remove, ha, hlook], by simp only [Volume.remove, hb, hlook']⟩
  | directory =>
    exact .inl ⟨by simp only [Volume.remove, ha, hlook], by simp only [Volume.remove, hb, hlook']⟩
  | file hpair =>
    cases asDirectory with
    | true => exact .inl ⟨by simp [Volume.remove, ha, hlook], by simp [Volume.remove, hb, hlook']⟩
    | false =>
      refine .inr ⟨place, hown _ _ rfl, locate_ne_nil ha, ?_, ?_, ?_⟩
      · simp [hnode]
      · rw [remove_of_lookUp ha hlook]
      · rw [remove_of_lookUp hb hlook']

/-- **A file is renamed alike**: in both volumes it cannot be, or it has the name already, or the
same name is taken away and given to the objects of the pair. -/
theorem Mirrored.rename {source : String} {hidden : Path} (h : Mirrored own pairs a b)
    (htext : a.Owns own text)
    (ha : a.locate source = .ok (.name hidden false) ∧ a.lookUp hidden = .ok (some (.file x)))
    (hb : b.locate source = .ok (.name hidden false) ∧ b.lookUp hidden = .ok (some (.file y))) :
    (∃ cause, a.rename source text = (some cause, a) ∧ b.rename source text = (some cause, b)) ∨
      (own hidden ∧ a.rename source text = (none, a) ∧ b.rename source text = (none, b)) ∨
        ∃ place, own place ∧ place ≠ hidden ∧ place ≠ [] ∧ a.node? place ≠ some .directory ∧
          a.rename source text = (none, (a.unlink hidden).link place (.file x)) ∧
          b.rename source text = (none, (b.unlink hidden).link place (.file y)) := by
  rw [rename_of_lookUp ha.1 ha.2, rename_of_lookUp hb.1 hb.2]
  obtain ⟨result, ha, hb, hown⟩ := h.locate htext
  rw [ha, hb]
  rcases result with cause | ⟨⟩ | ⟨place, asDirectory⟩
  · exact .inl ⟨cause, rfl, rfl⟩
  · exact .inl ⟨.isDirectory, rfl, rfl⟩
  dsimp only
  rcases h.lookUp (hown _ _ rfl) with
    ⟨cause, hlook, hlook'⟩ | ⟨n, m, hlook, hlook', hnode, -, htwin⟩
  · rw [hlook, hlook']
    exact .inl ⟨cause, rfl, rfl⟩
  rw [hlook, hlook']
  cases asDirectory with
  | true => exact .inl ⟨.notDirectory, rfl, rfl⟩
  | false =>
    simp only [Bool.false_eq_true, if_false]
    by_cases hplace : hidden = place
    · rw [if_pos hplace, if_pos hplace]
      exact .inr (.inl ⟨hplace ▸ hown _ _ rfl, rfl, rfl⟩)
    rw [if_neg hplace, if_neg hplace]
    by_cases hdirectory : n = some .directory
    · subst hdirectory
      cases htwin
      exact .inl ⟨.isDirectory, rfl, rfl⟩
    · have hdirectory' : m ≠ some .directory := by
        rintro rfl
        cases htwin
        exact hdirectory rfl
      rw [if_neg hdirectory, if_neg hdirectory']
      exact .inr (.inr ⟨place, hown _ _ rfl, Ne.symm hplace, locate_ne_nil ha, hnode ▸ hdirectory,
        rfl, rfl⟩)

end Volume
end KeyLog
