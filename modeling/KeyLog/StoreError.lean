import KeyLog.Record.Corruption
import KeyLog.SystemError

/-!
# Errors of the store

Everything that an operation on a store can fail with.  A `StoreError` is a cause; its wording is
`message`, and its `kind` is what a caller who only wants to branch needs.  Each kind has a number,
which the C interface hands out as a status; the numbers leave room for those of the interface
itself.
-/

namespace KeyLog

/-- Why a text was refused. -/
inductive EncodingFault where
  /-- The key or the value holds a NUL byte. -/
  | nul (part : Part) (position : Nat)
  /-- The bytes called `subject` are no text. -/
  | utf8 (subject : String) (fault : Utf8.Fault)
  /-- A refusal that is known by its text alone. -/
  | described (text : String)
  deriving DecidableEq, Repr

/-- The wording of a refusal. -/
def EncodingFault.message : EncodingFault → String
  | .nul part position => s!"{part.name} contains a NUL byte at position {position}"
  | .utf8 subject fault => s!"{subject} is not valid UTF-8: {fault.message}"
  | .described text => text

/-- What an operation on a store fails with. -/
inductive StoreError where
  /-- The key has no value. -/
  | notFound
  /-- The file system refused. -/
  | io (cause : SystemError)
  /-- A text is not acceptable. -/
  | invalidEncoding (cause : EncodingFault)
  /-- The key is empty or too long. -/
  | invalidKeySize (size : Nat)
  /-- The value is too long. -/
  | invalidValueSize (size : Nat)
  /-- The log is damaged at this offset. -/
  | corruption (offset : Nat) (reason : Corruption)
  deriving DecidableEq, Repr

/-- The kinds of error, without their details. -/
inductive ErrorKind where
  | notFound | io | invalidEncoding | invalidKeySize | invalidValueSize | corruption
  deriving DecidableEq, Repr

namespace ErrorKind

/-- The number of a kind. -/
def code : ErrorKind → Int
  | .notFound => 1
  | .io => 10
  | .invalidEncoding => 30
  | .invalidKeySize => 31
  | .invalidValueSize => 32
  | .corruption => 50

/-- The kind with this number, if there is one. -/
def ofCode? : Int → Option ErrorKind
  | 1 => some .notFound
  | 10 => some .io
  | 30 => some .invalidEncoding
  | 31 => some .invalidKeySize
  | 32 => some .invalidValueSize
  | 50 => some .corruption
  | _ => none

/-- A few words on a kind. -/
def description : ErrorKind → String
  | .notFound => "key not found"
  | .io => "I/O error"
  | .invalidEncoding => "invalid encoding"
  | .invalidKeySize => "invalid key size"
  | .invalidValueSize => "invalid value size"
  | .corruption => "data corruption"

@[simp] theorem ofCode?_code (kind : ErrorKind) : ofCode? kind.code = some kind := by
  cases kind <;> rfl

end ErrorKind

namespace StoreError

/-- The kind of an error. -/
def kind : StoreError → ErrorKind
  | .notFound => .notFound
  | .io _ => .io
  | .invalidEncoding _ => .invalidEncoding
  | .invalidKeySize _ => .invalidKeySize
  | .invalidValueSize _ => .invalidValueSize
  | .corruption _ _ => .corruption

/-- The wording of an error. -/
def message : StoreError → String
  | .notFound => "Key not found"
  | .io cause => s!"IO error: {cause.message}"
  | .invalidEncoding cause => s!"Invalid encoding: {cause.message}"
  | .invalidKeySize size => s!"Key size not in [1,{Layout.maxKeySize}]: {size}"
  | .invalidValueSize size => s!"Value size not in [0,{Layout.maxValueSize}]: {size}"
  | .corruption offset reason => s!"Data corruption at offset {offset}: {reason.message}"

end StoreError
end KeyLog
