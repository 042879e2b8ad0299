import KeyLog.Sparse
import KeyLog.Volume.Path

/-!
# Volumes

A volume holds byte strings, the *objects*, and a tree of names for them.  The two are apart: a
name leads to an object, and whoever has opened an object holds the object and not the name.
Removing a name, giving it to another object or giving the object another name therefore changes
nothing for those who hold the object, and an object without a name lives on for them.

Volumes without second names are meant: at any time an object has one name at most.  The type does
not say so, but no operation on a volume gives an object a second name, so all volumes are of this
kind that come from the empty one.  What is said of paths is said of these (`Volume.Sound`).

An object that was never written is empty, so reading and writing objects need no precondition,
and what an object holds after a write is a law without hypotheses (`content_put`).  New objects
take the next unused number, so they are nobody's.

Objects are kept sparse, and `content` is the byte string that is meant by what is kept.

Every way to a name starts at the top directory, which always exists and has no name itself.
-/

namespace KeyLog

/-- What a name leads to. -/
inductive Node where
  | file (object : Nat)
  | directory
  deriving DecidableEq, Repr

/-- Objects and names for them. -/
structure Volume where
  entries : List (Path × Node)
  objects : List (Nat × SparseBytes)
  /-- The number of the next new object. -/
  fresh : Nat

namespace Volume

/-- The volume without names. -/
def empty : Volume := ⟨[], [], 0⟩

instance : Inhabited Volume := ⟨empty⟩

/-! ## Objects -/

/-- What is kept of an object. -/
def held (volume : Volume) (object : Nat) : SparseBytes :=
  (volume.objects.lookup object).getD .empty

/-- The bytes that an object holds. -/
def content (volume : Volume) (object : Nat) : Bytes := (volume.held object).toBytes

/-- The number of bytes that an object holds. -/
def size (volume : Volume) (object : Nat) : Nat := (volume.held object).size

theorem size_eq (volume : Volume) (object : Nat) :
    volume.size object = (volume.content object).length :=
  SparseBytes.size_eq _

/-- Replaces what an object holds. -/
def put (volume : Volume) (object : Nat) (held : SparseBytes) : Volume :=
  { volume with objects := (object, held) :: volume.objects.filter fun entry => entry.1 != object }

/-- Replaces what an object holds by some bytes. -/
def store (volume : Volume) (object : Nat) (bytes : Bytes) : Volume :=
  volume.put object (.ofBytes bytes)

/-- Entries of one key can be left out without changing what is found at another. -/
theorem lookup_filter_ne {α β : Type} [BEq α] [LawfulBEq α] (key other : α) (h : other ≠ key)
    (entries : List (α × β)) :
    (entries.filter fun entry => entry.1 != key).lookup other = entries.lookup other := by
  induction entries with
  | nil => rfl
  | cons first rest ih =>
    obtain ⟨name, held⟩ := first
    by_cases hfirst : name = key
    · have hother : (other == key) = false := by simpa using h
      simp [hfirst, ih, List.lookup_cons, hother]
    · rw [List.filter_cons_of_pos (by simpa using hfirst), List.lookup_cons, List.lookup_cons, ih]

/-- An object holds what was put there last. -/
@[simp] theorem held_put (volume : Volume) (object other : Nat) (held : SparseBytes) :
    (volume.put object held).held other = if other = object then held else volume.held other := by
  unfold Volume.held put
  by_cases h : other = object
  · simp [h]
  · have hne : (other == object) = false := by simpa using h
    simp [h, List.lookup_cons, hne, lookup_filter_ne object other h]

/-- An object holds the bytes of what was put there last. -/
@[simp] theorem content_put (volume : Volume) (object other : Nat) (held : SparseBytes) :
    (volume.put object held).content other =
      if other = object then held.toBytes else volume.content other := by
  unfold content
  rw [held_put]
  split <;> rfl

/-- An object holds the bytes that were stored last. -/
@[simp] theorem content_store (volume : Volume) (object other : Nat) (bytes : Bytes) :
    (volume.store object bytes).content other =
      if other = object then bytes else volume.content other := by
  simp [store]

/-- The bytes of an object in a range; fewer where the object ends before the range does. -/
def read (volume : Volume) (object offset length : Nat) : Bytes :=
  (volume.held object).read offset length

theorem read_eq (volume : Volume) (object offset length : Nat) :
    volume.read object offset length = ((volume.content object).drop offset).take length :=
  SparseBytes.read_eq _ _ _

/-! ## Names -/

/-- What stands at a place. -/
def node? (volume : Volume) (path : Path) : Option Node :=
  if path = [] then some .directory else volume.entries.lookup path

/-- Makes a place lead to something, whatever it led to before. -/
def link (volume : Volume) (path : Path) (node : Node) : Volume :=
  { volume with entries := (path, node) :: volume.entries.filter fun entry => entry.1 != path }

/-- Takes a name away. -/
def unlink (volume : Volume) (path : Path) : Volume :=
  { volume with entries := volume.entries.filter fun entry => entry.1 != path }

/-- A new empty object with a name. -/
def create (volume : Volume) (path : Path) : Nat × Volume :=
  (volume.fresh,
    { (volume.link path (.file volume.fresh)).store volume.fresh [] with
      fresh := volume.fresh + 1 })

/-- A name leads to what it was given last. -/
theorem node?_link (volume : Volume) {path : Path} (hpath : path ≠ []) (other : Path)
    (node : Node) :
    (volume.link path node).node? other =
      if other = path then some node else volume.node? other := by
  unfold node? link
  by_cases h : other = path
  · simp [h, hpath]
  · have hne : (other == path) = false := by simpa using h
    simp [h, List.lookup_cons, hne, lookup_filter_ne path other h]

/-- A name that was taken away leads nowhere, and no other name is touched. -/
theorem node?_unlink (volume : Volume) {path : Path} (hpath : path ≠ []) (other : Path) :
    (volume.unlink path).node? other = if other = path then none else volume.node? other := by
  unfold node? unlink
  by_cases h : other = path
  · subst h
    rw [if_neg hpath, if_pos rfl, List.lookup_eq_none_iff]
    intro entry hentry
    have hne : entry.1 ≠ other := bne_iff_ne.1 (List.mem_filter.1 hentry).2
    exact bne_iff_ne.2 hne.symm
  · simp [h, lookup_filter_ne path other h]

@[simp] theorem content_link (volume : Volume) (path : Path) (node : Node) (object : Nat) :
    (volume.link path node).content object = volume.content object := rfl

@[simp] theorem content_unlink (volume : Volume) (path : Path) (object : Nat) :
    (volume.unlink path).content object = volume.content object := rfl

/-! ## From a text to a place -/

/-- Where a path leads. -/
inductive Place where
  /-- To a directory, without naming it. -/
  | directory
  /-- To a name, which may lead nowhere yet; `asDirectory` says that the path asks for a
  directory. -/
  | name (path : Path) (asDirectory : Bool)
  deriving DecidableEq, Repr

/-- Walks along the pieces of a path, from a directory on.  All pieces but the last name have to
lead to directories. -/
def walk (volume : Volume) (here : Path) : List String → Except SystemError Place
  | [] => .ok .directory
  | piece :: rest =>
    if piece = "" ∨ piece = "." then walk volume here rest
    else if piece = ".." then walk volume here.dropLast rest
    else if rest.all String.isEmpty then .ok (.name (here ++ [piece]) (!rest.isEmpty))
    else if Path.maxNameSize < Utf8.size piece then .error .nameTooLong
    else
      match volume.node? (here ++ [piece]) with
      | none => .error .noEntry
      | some (.file _) => .error .notDirectory
      | some .directory => walk volume (here ++ [piece]) rest

/-- Where the path with this text leads. -/
def locate (volume : Volume) (text : String) : Except SystemError Place :=
  match Path.parse text with
  | .error cause => .error cause
  | .ok pieces => volume.walk [] pieces

/-- What stands at a name; a name that is too long cannot even be looked up. -/
def lookUp (volume : Volume) (path : Path) : Except SystemError (Option Node) :=
  if path.any fun name => Path.maxNameSize < Utf8.size name then .error .nameTooLong
  else .ok (volume.node? path)

end Volume
end KeyLog
