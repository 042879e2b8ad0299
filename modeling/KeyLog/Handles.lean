/-!
# Named handles

Whoever keeps several open things apart gives them names.  `Handles` is that table: a name has at
most one thing, and giving a name to a new thing takes it from the old one.
-/

namespace KeyLog

/-- Things by name. -/
abbrev Handles (α : Type) := List (String × α)

namespace Handles

variable {α : Type}

/-- The thing of a name. -/
def get? (handles : Handles α) (name : String) : Option α := handles.lookup name

/-- The table without a name. -/
def release (handles : Handles α) (name : String) : Handles α :=
  handles.filter fun entry => entry.1 != name

/-- The table in which a name belongs to a thing, whatever it belonged to before. -/
def assign (handles : Handles α) (name : String) (thing : α) : Handles α :=
  (name, thing) :: handles.release name

/-- A name that was just given belongs to the thing it was given to. -/
@[simp] theorem get?_assign_self (handles : Handles α) (name : String) (thing : α) :
    (handles.assign name thing).get? name = some thing := by
  simp [assign, get?]

end Handles
end KeyLog
