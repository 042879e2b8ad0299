import KeyLog.Volume.Names
import Mathlib.Data.List.Pairwise

/-!
# Sound volumes

A volume is *sound* if no object has two names and new objects are nobody's.  These are the volumes
that are meant: the empty one is sound, and whatever is done to a sound one leaves it sound.  Two
texts then lead to one object only if they lead to one name, and this is what keeps files apart.

Names are all that matters here, so writing to objects keeps a volume sound (`Sound.put`).  Of the
operations on names there are few: a name is given (`Sound.link`, `Sound.create`), taken away
(`Sound.unlink`), or replaced by another (`Sound.move`, `Sound.moveTree`).  Whatever is done to a
volume by name comes down to these: `Sound.openFile`, `Sound.remove`, `Sound.rename`,
`Sound.makeDirectory`, `Sound.removeDirectory`.
-/

namespace KeyLog
namespace Volume

variable {volume : Volume}

/-- No object has two names, and every object that has one was made before. -/
structure Sound (volume : Volume) : Prop where
  apart : volume.entries.Pairwise fun a b => ∀ object, a.2 = .file object → b.2 ≠ .file object
  known : ∀ entry ∈ volume.entries, ∀ object, entry.2 = .file object → object < volume.fresh

/-- A volume without names is sound. -/
theorem sound_empty : empty.Sound :=
  ⟨List.Pairwise.nil, fun _ hentry => absurd hentry List.not_mem_nil⟩

/-- What stands at a name is one of the entries. -/
theorem mem_entries_of_node? {path : Path} {object : Nat}
    (h : volume.node? path = some (.file object)) : (path, .file object) ∈ volume.entries := by
  unfold node? at h
  split at h
  · cases h
  · obtain ⟨before, later, hentries, -⟩ := List.lookup_eq_some_iff.1 h
    rw [hentries]
    exact List.mem_append_right _ List.mem_cons_self

/-- Two entries for one object are the same. -/
theorem Sound.eq_of_mem (h : volume.Sound) {a b : Path × Node} (ha : a ∈ volume.entries)
    (hb : b ∈ volume.entries) {object : Nat} (haobject : a.2 = .file object)
    (hbobject : b.2 = .file object) : a = b := by
  by_contra hne
  have hsymm : Std.Symm fun a b : Path × Node =>
      ∀ object, a.2 = .file object → b.2 ≠ .file object :=
    ⟨fun _ _ hab object hb ha => hab object ha hb⟩
  exact h.apart.forall ha hb hne object haobject hbobject

/-- **No object has two names.** -/
theorem Sound.path_eq (h : volume.Sound) {a b : Path} {object : Nat}
    (ha : volume.node? a = some (.file object)) (hb : volume.node? b = some (.file object)) :
    a = b :=
  congrArg Prod.fst (h.eq_of_mem (mem_entries_of_node? ha) (mem_entries_of_node? hb) rfl rfl)

/-- An object that has a name was made before. -/
theorem Sound.lt_fresh (h : volume.Sound) {path : Path} {object : Nat}
    (hnode : volume.node? path = some (.file object)) : object < volume.fresh :=
  h.known _ (mem_entries_of_node? hnode) object rfl

/-! ## Writing -/

/-- Objects may hold anything. -/
theorem Sound.put (h : volume.Sound) (object : Nat) (held : SparseBytes) :
    (volume.put object held).Sound := ⟨h.apart, h.known⟩

/-! ## Giving and taking names -/

/-- Names may be taken away. -/
theorem Sound.unlink (h : volume.Sound) (path : Path) : (volume.unlink path).Sound := by
  constructor
  · exact h.apart.filter _
  · intro entry hentry
    exact h.known entry (List.mem_filter.1 hentry).1

/-- A name may be given to a directory, and to an object that has no other one. -/
theorem Sound.link (h : volume.Sound) {path : Path} {node : Node}
    (hnode : ∀ object, node = .file object → object < volume.fresh ∧
      ∀ entry ∈ volume.entries, entry.1 ≠ path → entry.2 ≠ .file object) :
    (volume.link path node).Sound := by
  constructor
  · refine List.pairwise_cons.2 ⟨?_, h.apart.filter _⟩
    intro entry hentry object hobject
    obtain ⟨hmem, hne⟩ := List.mem_filter.1 hentry
    exact (hnode object hobject).2 entry hmem (bne_iff_ne.1 hne)
  · intro entry hentry object hobject
    rcases List.mem_cons.1 hentry with rfl | hmem
    · exact (hnode object hobject).1
    · exact h.known entry (List.mem_filter.1 hmem).1 object hobject

/-- A new object may be given a name. -/
theorem Sound.create (h : volume.Sound) (path : Path) : (volume.create path).2.Sound := by
  constructor
  · refine List.pairwise_cons.2 ⟨?_, h.apart.filter _⟩
    rintro entry hentry object hobject hentryObject
    have hlt := h.known entry (List.mem_filter.1 hentry).1 object hentryObject
    have hfresh : volume.fresh = object := Node.file.inj hobject
    rw [← hfresh] at hlt
    exact absurd hlt (Nat.lt_irrefl _)
  · intro entry hentry object hobject
    rcases List.mem_cons.1 hentry with rfl | hmem
    · have hfresh : volume.fresh = object := Node.file.inj hobject
      rw [← hfresh]
      exact Nat.lt_succ_self _
    · exact Nat.lt_succ_of_lt (h.known entry (List.mem_filter.1 hmem).1 object hobject)

/-- The name of an object may be replaced by another one. -/
theorem Sound.move (h : volume.Sound) {old new : Path} {object : Nat}
    (hold : volume.node? old = some (.file object)) :
    ((volume.unlink old).link new (.file object)).Sound := by
  refine (h.unlink old).link ?_
  intro other hother
  have hsame : object = other := Node.file.inj hother
  rw [← hsame]
  refine ⟨h.lt_fresh hold, ?_⟩
  intro entry hentry _ hobject
  obtain ⟨hmem, hne⟩ := List.mem_filter.1 hentry
  have heq := h.eq_of_mem hmem (mem_entries_of_node? hold) hobject rfl
  exact bne_iff_ne.1 hne (congrArg Prod.fst heq)

/-- All names below a place may be replaced, since what they lead to stays the same. -/
theorem Sound.moveTree (h : volume.Sound) (source target : Path) :
    (volume.moveTree source target).Sound := by
  have hnode : ∀ entry : Path × Node, (if source.isPrefixOf entry.1 then
      (target ++ entry.1.drop source.length, entry.2) else entry).2 = entry.2 := by
    intro entry
    split <;> rfl
  constructor
  · refine List.pairwise_map.2 (h.apart.imp ?_)
    intro a b hab object ha hb
    rw [hnode] at ha hb
    exact hab object ha hb
  · intro entry hentry object hobject
    obtain ⟨origin, horigin, rfl⟩ := List.mem_map.1 hentry
    rw [hnode] at hobject
    exact h.known origin horigin object hobject

/-! ## Operations by name -/

theorem Sound.openFile (h : volume.Sound) (text : String) (create : Bool) :
    (volume.openFile text create).2.Sound := by
  unfold Volume.openFile
  split
  · exact h
  · exact h
  split
  · exact h
  split
  · exact h
  · exact h
  · split <;> exact h
  · split
    · exact h.create _
    · exact h

theorem Sound.remove (h : volume.Sound) (text : String) : (volume.remove text).2.Sound := by
  unfold Volume.remove
  split
  · exact h
  · exact h
  split
  · exact h
  · exact h
  · exact h
  · split
    · exact h
    · exact h.unlink _

theorem Sound.makeDirectory (h : volume.Sound) (text : String) :
    (volume.makeDirectory text).2.Sound := by
  unfold Volume.makeDirectory
  split
  · exact h
  · exact h
  split
  · exact h
  · exact h
  · refine h.link ?_
    intro object hobject
    cases hobject

theorem Sound.removeDirectory (h : volume.Sound) (text : String) :
    (volume.removeDirectory text).2.Sound := by
  unfold Volume.removeDirectory
  split
  · exact h
  · exact h
  split
  · exact h
  · exact h
  · exact h
  · split
    · exact h.unlink _
    · exact h

/-- What can be looked up at a name stands there. -/
theorem node?_of_lookUp {path : Path} {node : Option Node} (h : volume.lookUp path = .ok node) :
    volume.node? path = node := by
  unfold lookUp at h
  split at h
  · cases h
  · exact Except.ok.inj h

theorem Sound.rename (h : volume.Sound) (source target : String) :
    (volume.rename source target).2.Sound := by
  unfold Volume.rename
  split
  · exact h
  · exact h
  · exact h
  · exact h
  split
  · exact h
  · exact h
  · exact h
  next hold _ =>
    -- a file
    split
    · exact h
    split
    · exact h
    split
    · exact h
    · exact h.move (node?_of_lookUp hold)
  · -- a directory
    split
    · exact h
    split
    · exact h
    split
    · exact h
    · split
      · exact (h.unlink _).moveTree _ _
      · exact h
    · exact h.moveTree _ _

end Volume
end KeyLog
