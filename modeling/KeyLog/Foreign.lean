import KeyLog.Store.Basic

/-!
# The C interface

A caller in C hands over pointers, and any of them may be null; texts are bytes up to the first NUL
byte, and results go to a place that the caller names.  This module says what each call makes of
its arguments: an argument that may be null is an `Option`, a result place that may be null is a
`Bool`, and what a call leaves in the place is an `Out`.

## The order of the checks

Null handles and null result places come first and change nothing, not even the place.  Then the
place is cleared, by the calls that clear it.  Then the texts are looked at in the order of the
parameters, each first for null and then for being text, and only after that does the store see
them.  So a refusal of the interface never hides behind one of the store.
-/

namespace KeyLog
namespace Foreign

/-- What a call returns. -/
inductive Status where
  | ok
  /-- A cursor has no more keys. -/
  | iterationDone
  /-- A pointer is null that must not be. -/
  | nullArgument
  /-- The store failed, or a text was refused. -/
  | failed (kind : ErrorKind)
  deriving DecidableEq, Repr

namespace Status

/-- The number of a status.  A failure has the number of its kind. -/
def code : Status → Int
  | .ok => 0
  | .iterationDone => 2
  | .nullArgument => 20
  | .failed kind => kind.code

/-- The status with this number, if there is one. -/
def ofCode? : Int → Option Status
  | 0 => some .ok
  | 2 => some .iterationDone
  | 20 => some .nullArgument
  | number => (ErrorKind.ofCode? number).map .failed

/-- A few words on a status. -/
def description : Status → String
  | .ok => "ok"
  | .iterationDone => "iteration done"
  | .nullArgument => "null argument"
  | .failed kind => kind.description

@[simp] theorem ofCode?_code (status : Status) : ofCode? status.code = some status := by
  cases status with
  | failed kind => cases kind <;> rfl
  | _ => rfl

end Status

/-- A few words on any number. -/
def describe (number : Int) : String :=
  match Status.ofCode? number with
  | some status => status.description
  | none => "unknown error"

/-- What a call did with the place for its result. -/
inductive Out (α : Type) where
  /-- There is no place. -/
  | absent
  /-- The place was left as it was. -/
  | untouched
  /-- Null was put there. -/
  | cleared
  | value (result : α)
  deriving DecidableEq, Repr

/-- The same with the result replaced by what is shown of it. -/
def Out.map {α β : Type} (display : α → β) : Out α → Out β
  | .absent => .absent
  | .untouched => .untouched
  | .cleared => .cleared
  | .value result => .value (display result)

/-- The bytes of a C string: those before the first NUL byte. -/
def cString (bytes : Bytes) : Bytes := bytes.takeWhile (· != 0)

/-- The text that a pointer leads to. -/
def argument : Option Bytes → Except Status String
  | none => .error .nullArgument
  | some bytes =>
    match Utf8.decode (cString bytes) with
    | .error _ => .error (.failed .invalidEncoding)
    | .ok text => .ok text

/-- Hands a text out as a C string, which cannot hold a NUL byte. -/
def handOut (text : String) : Status × Out String :=
  if (Utf8.encode text).contains 0 then (.failed .invalidEncoding, .cleared)
  else (.ok, .value text)

/-- What becomes of a place that a refused call does not touch. -/
def Out.refused {α : Type} (place : Bool) : Out α := if place then .untouched else .absent

/-! ## Stores -/

/-- Opens the store at a path, and creates it where it is missing. -/
def openStore (volume : Volume) (path : Option Bytes) (place : Bool) :
    Status × Out Store × Volume :=
  if !place then (.nullArgument, .absent, volume)
  else
    match argument path with
    | .error status => (status, .untouched, volume)
    | .ok path =>
      match Store.openWith volume { path } with
      | (.error error, volume) => (.failed error.kind, .untouched, volume)
      | (.ok store, volume) => (.ok, .value store, volume)

/-- The value of a key. -/
def get (volume : Volume) (store : Option Store) (key : Option Bytes) (place : Bool) :
    Status × Out String × Option Store :=
  match store, place with
  | some store, true =>
    match argument key with
    | .error status => (status, .cleared, some store)
    | .ok key =>
      match store.get volume key with
      | (.error error, store) => (.failed error.kind, .cleared, some store)
      | (.ok value, store) =>
        let (status, out) := handOut value
        (status, out, some store)
  | store, _ => (.nullArgument, .refused place, store)

/-- Gives a key a value. -/
def set (medium : Medium) (volume : Volume) (store : Option Store) (key value : Option Bytes) :
    Status × Option Store × Volume :=
  match store with
  | none => (.nullArgument, none, volume)
  | some store =>
    match argument key with
    | .error status => (status, some store, volume)
    | .ok key =>
      match argument value with
      | .error status => (status, some store, volume)
      | .ok value =>
        match store.set medium volume key value with
        | (.error error, store, volume) => (.failed error.kind, some store, volume)
        | (.ok (), store, volume) => (.ok, some store, volume)

/-- Closes a store; closing null does nothing.  All that closing does is to force the bytes to the
disk.  This is taken to succeed (`KeyLog.Volume.Medium`), so no call of it fails. -/
def close (_store : Option Store) : Status := .ok

/-! ## Cursors -/

/-- A cursor over the keys that have a value now. -/
def iterate (store : Option Store) (place : Bool) : Status × Out KeyCursor :=
  match store, place with
  | some store, true => (.ok, .value store.keys)
  | _, _ => (.nullArgument, .refused place)

/-- The next key.  One that C cannot hold is reported and passed over. -/
def next (cursor : Option KeyCursor) (place : Bool) : Status × Out String × Option KeyCursor :=
  match cursor, place with
  | some cursor, true =>
    match cursor.next with
    | (none, after) => (.iterationDone, .cleared, some after)
    | (some key, after) =>
      let (status, out) := handOut key
      (status, out, some after)
  | cursor, _ => (.nullArgument, .refused place, cursor)

end Foreign
end KeyLog
