import KeyLog.Handles
import KeyLog.Index.Cursor

/-!
# An index on its own

An index needs no log: here one is built, asked, copied and walked by itself.  Copies lie on a
stack, because an index is a value and an older one is as good as the current one; cursors have
names, because several may be under way at once.
-/

namespace KeyLog
namespace Index

/-- An index with copies put aside and cursors under way. -/
structure Workbench where
  current : Index
  saved : List Index
  cursors : Handles KeyCursor

namespace Workbench

/-- A workbench with an index that has no entries. -/
def empty : Workbench := ⟨.empty, [], []⟩

/-- What can be done at the workbench. -/
inductive Command where
  | insert (key : String) (span : Span)
  | get (key : String)
  | contains (key : String)
  | info
  | list
  /-- Puts a copy of the index aside. -/
  | save
  /-- Takes back the copy that was put aside last. -/
  | restore
  /-- Makes a cursor over the keys there are now. -/
  | snapshot (cursor : String)
  | ask (cursor : String) (query : KeyCursor.Query)

/-- What comes of it. -/
inductive Answer where
  | done
  | place (span : Option Span)
  | truth (value : Bool)
  | info (size : Nat) (isEmpty : Bool) (liveBytes : Nat)
  | entries (entries : List (String × Span))
  | cursor (reply : KeyCursor.Reply)
  | noHandle

/-- Carries out one command. -/
def step (bench : Workbench) : Command → Answer × Workbench
  | .insert key span =>
    let (older, index) := bench.current.replace key span
    (.place older, { bench with current := index })
  | .get key => (.place (bench.current.find? key), bench)
  | .contains key => (.truth (bench.current.contains key), bench)
  | .info =>
    (.info bench.current.size bench.current.isEmpty bench.current.liveBytes, bench)
  | .list => (.entries bench.current.entries, bench)
  | .save => (.done, { bench with saved := bench.current :: bench.saved })
  | .restore =>
    match bench.saved with
    | [] => (.done, bench)
    | index :: saved => (.done, { bench with current := index, saved })
  | .snapshot name =>
    (.done, { bench with cursors := bench.cursors.assign name bench.current.snapshot })
  | .ask name query =>
    match bench.cursors.get? name with
    | none => (.noHandle, bench)
    | some cursor =>
      let (reply, after) := cursor.ask query
      (.cursor reply, { bench with cursors := bench.cursors.assign name after })

/-- Carries out a run of commands. -/
def run (bench : Workbench) : List Command → List Answer
  | [] => []
  | command :: commands =>
    let (answer, after) := bench.step command
    answer :: after.run commands

end Workbench
end Index
end KeyLog
