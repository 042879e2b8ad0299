import KeyLog.Index.Basic

/-!
# Walking over the keys

A cursor is a snapshot: it holds the keys that were live when it was made, in their order, and
gives them out one by one.  Nothing that happens to the index afterwards reaches it.
-/

namespace KeyLog

/-- The keys of a snapshot that have not been given out yet. -/
structure KeyCursor where
  pending : List String

namespace KeyCursor

/-- The number of keys still to come. -/
def remaining (cursor : KeyCursor) : Nat := cursor.pending.length

/-- The next key, or nothing at the end. -/
def next (cursor : KeyCursor) : Option String × KeyCursor :=
  match cursor.pending with
  | [] => (none, cursor)
  | key :: rest => (some key, ⟨rest⟩)

/-- All keys still to come. -/
def rest (cursor : KeyCursor) : List String × KeyCursor :=
  (cursor.pending, ⟨[]⟩)

/-- What may be asked of a cursor. -/
inductive Query where
  | next | info | rest
  deriving DecidableEq, Repr

/-- What a cursor answers. -/
inductive Reply where
  /-- The next key, and the number of keys after it. -/
  | next (key : Option String) (remaining : Nat)
  /-- The number of keys still to come. -/
  | info (remaining : Nat)
  /-- All keys that were still to come. -/
  | rest (keys : List String)
  deriving DecidableEq, Repr

/-- Answers a query. -/
def ask (cursor : KeyCursor) : Query → Reply × KeyCursor
  | .next =>
    let (key, after) := cursor.next
    (.next key after.remaining, after)
  | .info => (.info cursor.remaining, cursor)
  | .rest =>
    let (keys, after) := cursor.rest
    (.rest keys, after)

end KeyCursor

/-- A cursor over the keys that the index holds now. -/
def Index.snapshot (index : Index) : KeyCursor := ⟨index.keys⟩

end KeyLog
