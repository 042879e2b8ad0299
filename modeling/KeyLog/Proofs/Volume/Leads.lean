import KeyLog.Proofs.Volume.Places
import KeyLog.Proofs.Volume.Sound
import KeyLog.Volume.Mount

/-!
# Names and the objects behind them

Whoever writes to a file beside a log must not touch the log.  This file says when something leaves
an object, its names and the way to it as they were.

* `Volume.Leads`: a text leads to an object, so that it can be opened.
* `Volume.Keeps`: from one volume to another nothing has happened to an object, to its names or to a
  directory, so that a text that led to the object still does (`Leads.keeps`).
* `Volume.Within`: from one volume to another nothing but the bytes of one object has changed.
* `Volume.not_leads_append`: a text with an addition does not lead where the text leads.
-/

namespace KeyLog
namespace Volume

variable {volume after : Volume}

/-! ## What happens elsewhere -/

/-- Nothing has happened to an object, to its names or to a directory. -/
structure Keeps (volume after : Volume) (object : Nat) : Prop where
  directories : volume.KeepsDirectories after
  names : ∀ path, volume.node? path = some (.file object) →
    after.node? path = some (.file object)
  content : after.content object = volume.content object

theorem Keeps.refl (volume : Volume) (object : Nat) : volume.Keeps volume object :=
  ⟨fun _ h => h, fun _ h => h, rfl⟩

/-- Nothing but the bytes of one object has changed. -/
structure Within (volume after : Volume) (object : Nat) : Prop where
  entries : after.entries = volume.entries
  fresh : after.fresh = volume.fresh
  content : ∀ other, other ≠ object → after.content other = volume.content other

theorem Within.refl (volume : Volume) (object : Nat) : volume.Within volume object :=
  ⟨rfl, rfl, fun _ _ => rfl⟩

/-- Whatever is put into an object, nothing else changes. -/
theorem within_put (volume : Volume) (object : Nat) (held : SparseBytes) :
    volume.Within (volume.put object held) object := by
  refine ⟨rfl, rfl, ?_⟩
  intro other hne
  rw [content_put, if_neg hne]

theorem Within.node? {object : Nat} (h : volume.Within after object) (path : Path) :
    after.node? path = volume.node? path := by
  unfold Volume.node?
  rw [h.entries]

theorem Within.sound {object : Nat} (h : volume.Within after object) (hsound : volume.Sound) :
    after.Sound := by
  constructor
  · rw [h.entries]
    exact hsound.apart
  · rw [h.entries, h.fresh]
    exact hsound.known

/-- What happens within one object keeps every other one. -/
theorem Within.keeps {object other : Nat} (h : volume.Within after object) (hne : other ≠ object) :
    volume.Keeps after other := by
  refine ⟨?_, ?_, h.content other hne⟩
  · intro path hpath
    exact (h.node? path).trans hpath
  · intro path hpath
    exact (h.node? path).trans hpath

/-- What happens at one name, which is neither a directory nor a name of the object, keeps the
object. -/
theorem keeps_of_ne {path : Path} {object : Nat} (hnode : volume.node? path ≠ some .directory)
    (hname : volume.node? path ≠ some (.file object))
    (helse : ∀ other, other ≠ path → after.node? other = volume.node? other)
    (hcontent : after.content object = volume.content object) : volume.Keeps after object := by
  refine ⟨keepsDirectories_of_ne hnode helse, ?_, hcontent⟩
  intro other hother
  have hne : other ≠ path := by
    rintro rfl
    exact hname hother
  rw [helse other hne, hother]

/-- Giving a name to a file, over another file or over nothing, keeps all directories. -/
theorem keepsDirectories_link {path : Path} (hpath : path ≠ [])
    (hnode : volume.node? path ≠ some .directory) (node : Node) :
    volume.KeepsDirectories (volume.link path node) := by
  refine keepsDirectories_of_ne hnode ?_
  intro other hne
  rw [node?_link volume hpath, if_neg hne]

/-- So does taking the name of a file away. -/
theorem keepsDirectories_unlink {path : Path} (hpath : path ≠ [])
    (hnode : volume.node? path ≠ some .directory) :
    volume.KeepsDirectories (volume.unlink path) := by
  refine keepsDirectories_of_ne hnode ?_
  intro other hne
  rw [node?_unlink volume hpath, if_neg hne]

/-! ## Texts that lead to objects -/

/-- A text leads to an object: it can be opened, and that is what is opened. -/
def Leads (volume : Volume) (text : String) (object : Nat) : Prop :=
  ∃ path, volume.locate text = .ok (.name path false) ∧
    volume.lookUp path = .ok (some (.file object))

/-- Looking up a name that can be looked up gives what stands there, in every volume. -/
theorem lookUp_of_lookUp {path : Path} {node : Option Node} (h : volume.lookUp path = .ok node) :
    after.lookUp path = .ok (after.node? path) := by
  unfold lookUp at h
  split at h
  · cases h
  next hsize => rw [lookUp, if_neg hsize]

theorem Leads.unique {text : String} {a b : Nat} (ha : volume.Leads text a)
    (hb : volume.Leads text b) : a = b := by
  obtain ⟨path, hpath, hlook⟩ := ha
  obtain ⟨path', hpath', hlook'⟩ := hb
  cases hpath.symm.trans hpath'
  cases hlook.symm.trans hlook'
  rfl

/-- An object that a text leads to was made before. -/
theorem Leads.lt_fresh {text : String} {object : Nat} (h : volume.Leads text object)
    (hsound : volume.Sound) : object < volume.fresh := by
  obtain ⟨path, -, hlook⟩ := h
  exact hsound.lt_fresh (node?_of_lookUp hlook)

/-- **A text with an addition does not lead where the text leads.** -/
theorem not_leads_append (hsound : volume.Sound) {text added : String} {object : Nat}
    (hslash : '/' ∉ added.toList) (hadded : 2 < added.toList.length)
    (h : volume.Leads text object) : ¬ volume.Leads (text ++ added) object := by
  rintro ⟨beside, hbeside, hbesideLook⟩
  obtain ⟨path, hpath, hlook⟩ := h
  obtain ⟨result, hsettled, hother⟩ := settled_of_append hslash hadded hbeside
  have hsame : path = beside := hsound.path_eq (node?_of_lookUp hlook) (node?_of_lookUp hbesideLook)
  refine hother false ?_
  rw [← hsettled.locate, hpath, hsame]

/-- A text goes on to lead to an object that is kept. -/
theorem Leads.keeps {text : String} {object : Nat} (h : volume.Leads text object)
    (hkeeps : volume.Keeps after object) : after.Leads text object := by
  obtain ⟨path, hpath, hlook⟩ := h
  refine ⟨path, locate_mono hkeeps.directories hpath, ?_⟩
  rw [lookUp_of_lookUp hlook, hkeeps.names path (node?_of_lookUp hlook)]

/-- What happens within an object does not change where texts lead. -/
theorem Leads.within {text : String} {object other : Nat} (h : volume.Leads text other)
    (hwithin : volume.Within after object) : after.Leads text other := by
  obtain ⟨path, hpath, hlook⟩ := h
  have hdirectories : ∀ path, volume.node? path = some .directory →
      after.node? path = some .directory := by
    intro path hnode
    exact (hwithin.node? path).trans hnode
  refine ⟨path, locate_mono hdirectories hpath, ?_⟩
  rw [lookUp_of_lookUp hlook, hwithin.node?, node?_of_lookUp hlook]

/-- A text that leads to an object opens it and changes nothing. -/
theorem Leads.openFile {text : String} {object : Nat} (h : volume.Leads text object)
    (create : Bool) : volume.openFile text create = (.ok object, volume) := by
  obtain ⟨path, hpath, hlook⟩ := h
  simp [Volume.openFile, hpath, hlook]

/-- **What comes of opening a text**: the object that it leads to, or an error, or a new object
under a name that led nowhere.  Only the last changes the volume. -/
theorem openFile_cases (volume : Volume) (text : String) (create : Bool) :
    (∃ object, volume.Leads text object ∧
      volume.openFile text create = (.ok object, volume)) ∨
    (∃ cause, (∀ object, ¬ volume.Leads text object) ∧
      volume.openFile text create = (.error cause, volume)) ∨
    (∃ path, create = true ∧ volume.locate text = .ok (.name path false) ∧
      volume.lookUp path = .ok none ∧
        volume.openFile text create = (.ok volume.fresh, (volume.create path).2)) := by
  by_cases hleads : ∃ object, volume.Leads text object
  · obtain ⟨object, hleads⟩ := hleads
    exact .inl ⟨object, hleads, hleads.openFile create⟩
  have hnone : ∀ object, ¬ volume.Leads text object := by
    intro object hobject
    exact hleads ⟨object, hobject⟩
  refine .inr ?_
  unfold Volume.openFile
  split
  next cause _ => exact .inl ⟨cause, hnone, rfl⟩
  next => exact .inl ⟨.isDirectory, hnone, rfl⟩
  next path asDirectory hpath =>
    split
    · exact .inl ⟨.isDirectory, hnone, rfl⟩
    next hslash =>
      split
      next cause _ => exact .inl ⟨cause, hnone, rfl⟩
      next => exact .inl ⟨.isDirectory, hnone, rfl⟩
      next object hlook =>
        split
        · exact .inl ⟨.notDirectory, hnone, rfl⟩
        next hfile =>
          -- a file without a slash behind its name is what a text leads to
          rw [Bool.not_eq_true] at hfile
          exact absurd ⟨path, hfile ▸ hpath, hlook⟩ (hnone object)
      next hlook =>
        split
        next hcreate =>
          have hfile : asDirectory = false := by
            rw [hcreate, Bool.true_and, Bool.not_eq_true] at hslash
            exact hslash
          exact .inr ⟨path, hcreate, hfile ▸ hpath, hlook, rfl⟩
        · exact .inl ⟨.noEntry, hnone, rfl⟩

/-- A path holds bytes if and only if it leads to an object, and they are the object's. -/
theorem bytesAt?_eq_some_iff {text : String} {bytes : Bytes} :
    volume.bytesAt? text = some bytes ↔
      ∃ object, volume.Leads text object ∧ volume.content object = bytes := by
  unfold bytesAt?
  rcases openFile_cases volume text false with
    ⟨object, hleads, hopen⟩ | ⟨cause, hnone, hopen⟩ | ⟨path, hcreate, -⟩
  · rw [hopen]
    constructor
    · intro h
      exact ⟨object, hleads, Option.some.inj h⟩
    · rintro ⟨other, hother, hcontent⟩
      rw [hleads.unique hother]
      exact congrArg some hcontent
  · rw [hopen]
    constructor
    · intro h
      cases h
    · rintro ⟨other, hother, -⟩
      exact absurd hother (hnone other)
  · cases hcreate

/-- A new object stands at its name, and no other name is touched. -/
theorem node?_create (volume : Volume) {path : Path} (hpath : path ≠ []) (other : Path) :
    (volume.create path).2.node? other =
      if other = path then some (.file volume.fresh) else volume.node? other :=
  node?_link volume hpath other _

/-- A new object is empty, and no other object is touched. -/
theorem content_create (volume : Volume) (path : Path) (object : Nat) :
    (volume.create path).2.content object =
      if object = volume.fresh then [] else volume.content object :=
  content_store (volume.link path (.file volume.fresh)) volume.fresh object []

/-- A new object is empty, its text leads to it, and nothing has happened to the objects that have
names. -/
theorem leads_create {text : String} {path : Path}
    (hpath : volume.locate text = .ok (.name path false)) (hlook : volume.lookUp path = .ok none) :
    (volume.create path).2.Leads text volume.fresh ∧
      (volume.create path).2.content volume.fresh = [] ∧
      ∀ object, object < volume.fresh → volume.Keeps (volume.create path).2 object := by
  have hnil : path ≠ [] := locate_ne_nil hpath
  have hnode : volume.node? path = none := node?_of_lookUp hlook
  have hfree : ∀ node, volume.node? path ≠ some node := by simp [hnode]
  have helse : ∀ other, other ≠ path →
      (volume.create path).2.node? other = volume.node? other := by
    intro other hne
    rw [node?_create volume hnil, if_neg hne]
  refine ⟨⟨path, locate_mono (keepsDirectories_of_ne (hfree _) helse) hpath, ?_⟩, ?_, ?_⟩
  · rw [lookUp_of_lookUp hlook, node?_create volume hnil, if_pos rfl]
  · rw [content_create, if_pos rfl]
  · intro object hobject
    refine keeps_of_ne (hfree _) (hfree _) helse ?_
    rw [content_create, if_neg (Nat.ne_of_lt hobject)]

end Volume
end KeyLog
