import KeyLog.Proofs.Volume.Leads

/-!
# Volumes that are alike

How an object is kept, in which extents and at which place of the list of objects, is nobody's
business.  Two volumes are *alike* if they have the same names and the same bytes behind them, and
then whatever is done to both has the same result and leaves them alike.

* `Volume.Alike`: the same names, the same bytes.
* `Volume.Agree`: two operations have the same result and leave volumes that are alike.
* `Volume.Alike.openFile`, `openEmpty`, `append`, `resize`, `remove`, `rename`: the operations, each
  done to both.
-/

namespace KeyLog
namespace Volume

/-- The same names lead to the same objects, which hold the same bytes, and new objects will have
the same numbers. -/
structure Alike (a b : Volume) : Prop where
  entries : a.entries = b.entries
  fresh : a.fresh = b.fresh
  content : ∀ object, a.content object = b.content object

/-- Two results are the same and come with volumes that are alike. -/
def Agree {α : Type} (x y : α × Volume) : Prop := x.1 = y.1 ∧ x.2.Alike y.2

theorem Alike.agree {α : Type} {a b : Volume} (h : a.Alike b) (value : α) :
    Agree (value, a) (value, b) := ⟨rfl, h⟩

/-- What two results that agree are made of. -/
theorem Agree.pairs {α : Type} {x y : α × Volume} (h : Agree x y) :
    ∃ value a b, x = (value, a) ∧ y = (value, b) ∧ a.Alike b := by
  obtain ⟨value, a⟩ := x
  obtain ⟨other, b⟩ := y
  obtain ⟨rfl, hafter⟩ := h
  exact ⟨value, a, b, rfl, rfl, hafter⟩

variable {a b : Volume}

/-! ## Looking -/

theorem Alike.size (h : a.Alike b) (object : Nat) : a.size object = b.size object := by
  rw [size_eq, size_eq, h.content]

theorem Alike.read (h : a.Alike b) (object offset length : Nat) :
    a.read object offset length = b.read object offset length := by
  rw [read_eq, read_eq, h.content]

theorem Alike.node? (h : a.Alike b) (path : Path) : a.node? path = b.node? path := by
  unfold Volume.node?
  rw [h.entries]

theorem Alike.lookUp (h : a.Alike b) (path : Path) : a.lookUp path = b.lookUp path := by
  unfold Volume.lookUp
  rw [h.node?]

theorem Alike.below (h : a.Alike b) (path : Path) : a.below path = b.below path := by
  unfold Volume.below
  rw [h.entries]

theorem Alike.walk (h : a.Alike b) (here : Path) (pieces : List String) :
    a.walk here pieces = b.walk here pieces := by
  induction pieces generalizing here with
  | nil => rfl
  | cons piece rest ih => simp only [Volume.walk, ih, h.node?]

theorem Alike.locate (h : a.Alike b) (text : String) : a.locate text = b.locate text := by
  simp only [Volume.locate, h.walk]

/-- A text leads to the same object on both volumes. -/
theorem Alike.leads (h : a.Alike b) {text : String} {object : Nat} (hleads : a.Leads text object) :
    b.Leads text object := by
  obtain ⟨path, hpath, hlook⟩ := hleads
  exact ⟨path, (h.locate text).symm.trans hpath, (h.lookUp path).symm.trans hlook⟩

/-! ## Changing objects and names -/

theorem Alike.put (h : a.Alike b) (object : Nat) {x y : SparseBytes}
    (hbytes : x.toBytes = y.toBytes) : (a.put object x).Alike (b.put object y) := by
  refine ⟨h.entries, h.fresh, ?_⟩
  intro other
  rw [content_put, content_put, hbytes, h.content]

theorem Alike.link (h : a.Alike b) (path : Path) (node : Node) :
    (a.link path node).Alike (b.link path node) := by
  refine ⟨?_, h.fresh, h.content⟩
  simp only [Volume.link, h.entries]

theorem Alike.unlink (h : a.Alike b) (path : Path) : (a.unlink path).Alike (b.unlink path) := by
  refine ⟨?_, h.fresh, h.content⟩
  simp only [Volume.unlink, h.entries]

theorem Alike.moveTree (h : a.Alike b) (source target : Path) :
    (a.moveTree source target).Alike (b.moveTree source target) := by
  refine ⟨?_, h.fresh, h.content⟩
  simp only [Volume.moveTree, h.entries]

theorem Alike.create (h : a.Alike b) (path : Path) : Agree (a.create path) (b.create path) := by
  have hlink := (h.link path (.file b.fresh)).put b.fresh
    (rfl : (SparseBytes.ofBytes []).toBytes = (SparseBytes.ofBytes []).toBytes)
  simp only [Volume.create, h.fresh]
  exact ⟨rfl, hlink.entries, rfl, hlink.content⟩

/-! ## The operations -/

/-- The same text is opened alike. -/
theorem Alike.openFile (h : a.Alike b) (text : String) (create : Bool) :
    Agree (a.openFile text create) (b.openFile text create) := by
  simp only [Volume.openFile, h.locate, h.lookUp]
  split
  · exact h.agree _
  · exact h.agree _
  split
  · exact h.agree _
  split
  · exact h.agree _
  · exact h.agree _
  · split <;> exact h.agree _
  · split
    · exact ⟨congrArg Except.ok (h.create _).1, (h.create _).2⟩
    · exact h.agree _

theorem Alike.openEmpty (h : a.Alike b) (text : String) :
    Agree (a.openEmpty text) (b.openEmpty text) := by
  obtain ⟨result, after, after', ha, hb, hafter⟩ := (h.openFile text true).pairs
  simp only [Volume.openEmpty, ha, hb]
  cases result with
  | error cause => exact hafter.agree _
  | ok object => exact (hafter.put object rfl).agree _

/-- The same bytes are added alike by writers that are cut off alike. -/
theorem Alike.append (h : a.Alike b) (medium : Medium) (object : Nat) {position position' : Nat}
    (bytes : Bytes)
    (hcut : medium.cutOff position (b.size object) bytes.length =
      medium.cutOff position' (b.size object) bytes.length) :
    Agree (a.append medium object position bytes) (b.append medium object position' bytes) := by
  have hsize : (a.held object).size = (b.held object).size := h.size object
  have hpush : ∀ extent : Extent, ((a.held object).push extent).toBytes =
      ((b.held object).push extent).toBytes := by
    intro extent
    rw [SparseBytes.toBytes_push, SparseBytes.toBytes_push]
    exact congrArg (· ++ extent.bytes) (h.content object)
  have hcut' : medium.cutOff position (b.held object).size bytes.length =
      medium.cutOff position' (b.held object).size bytes.length := hcut
  simp only [Volume.append, hsize, hcut']
  split
  · exact (h.put object (hpush _)).agree _
  · exact (h.put object (hpush _)).agree _

theorem Alike.resize (h : a.Alike b) (medium : Medium) (object length : Nat) :
    Agree (a.resize medium object length) (b.resize medium object length) := by
  have hsize : (a.held object).size = (b.held object).size := h.size object
  have hfit : ((a.held object).fit length).toBytes = ((b.held object).fit length).toBytes := by
    have hcontent : (a.held object).toBytes = (b.held object).toBytes := h.content object
    rw [SparseBytes.toBytes_fit, SparseBytes.toBytes_fit, hcontent]
  simp only [Volume.resize, hsize]
  split
  · exact h.agree _
  · exact (h.put object hfit).agree _

theorem Alike.remove (h : a.Alike b) (text : String) : Agree (a.remove text) (b.remove text) := by
  simp only [Volume.remove, h.locate, h.lookUp]
  split
  · exact h.agree _
  · exact h.agree _
  split
  · exact h.agree _
  · exact h.agree _
  · exact h.agree _
  · split
    · exact h.agree _
    · exact (h.unlink _).agree _

theorem Alike.rename (h : a.Alike b) (source target : String) :
    Agree (a.rename source target) (b.rename source target) := by
  simp only [Volume.rename, h.locate, h.lookUp, h.below]
  split
  · exact h.agree _
  · exact h.agree _
  · exact h.agree _
  · exact h.agree _
  split
  · exact h.agree _
  · exact h.agree _
  · exact h.agree _
  · -- a file
    split
    · exact h.agree _
    split
    · exact h.agree _
    split
    · exact h.agree _
    · exact ((h.unlink _).link _ _).agree _
  · -- a directory
    split
    · exact h.agree _
    split
    · exact h.agree _
    split
    · exact h.agree _
    · split
      · exact ((h.unlink _).moveTree _ _).agree _
      · exact h.agree _
    · exact (h.moveTree _ _).agree _

/-- The same bytes are at every path. -/
theorem Alike.bytesAt? (h : a.Alike b) (text : String) : a.bytesAt? text = b.bytesAt? text := by
  obtain ⟨result, after, after', ha, hb, -⟩ := (h.openFile text false).pairs
  simp only [Volume.bytesAt?, ha, hb]
  cases result with
  | error cause => rfl
  | ok object => exact congrArg some (h.content object)

end Volume
end KeyLog
