import KeyLog.Record.Basic
import KeyLog.StoreError

/-!
# What may be stored

A key or a value that a caller hands in is looked at before anything is written.  Its size must be
within the bounds of the layout, and it must hold no NUL byte, so that it can be handed out again
as a C string.  `accept` is the gate: it is the only way in which two texts from a caller become a
record of the store.

Reading does not pass this gate.  A log from elsewhere may hold a key with a NUL byte, and such a
record is a record like any other.
-/

namespace KeyLog
namespace Admission

/-- The text of some bytes; `subject` is what a refusal calls them. -/
def readText (subject : String) (bytes : Bytes) : Except StoreError String :=
  match Utf8.decode bytes with
  | .error fault => .error (.invalidEncoding (.utf8 subject fault))
  | .ok text => .ok text

/-- Refuses a text that holds a NUL byte, at the position of the first one. -/
def rejectNul (part : Part) (text : String) : Except StoreError Unit :=
  match (Utf8.encode text).findIdx? (· == 0) with
  | some position => .error (.invalidEncoding (.nul part position))
  | none => .ok ()

/-- Refuses what is not the key of a storable record. -/
def checkKey (key : String) : Except StoreError Unit :=
  if 0 < Utf8.size key ∧ Utf8.size key ≤ Layout.maxKeySize then rejectNul .key key
  else .error (.invalidKeySize (Utf8.size key))

/-- Refuses what is not the value of a storable record. -/
def checkValue (value : String) : Except StoreError Unit :=
  if Utf8.size value ≤ Layout.maxValueSize then rejectNul .value value
  else .error (.invalidValueSize (Utf8.size value))

/-- An accepted key has a size within the bounds. -/
theorem size_of_checkKey {key : String} (h : checkKey key = .ok ()) :
    0 < Utf8.size key ∧ Utf8.size key ≤ Layout.maxKeySize := by
  unfold checkKey at h
  split at h
  · assumption
  · cases h

/-- An accepted value has a size within the bounds. -/
theorem size_of_checkValue {value : String} (h : checkValue value = .ok ()) :
    Utf8.size value ≤ Layout.maxValueSize := by
  unfold checkValue at h
  split at h
  · assumption
  · cases h

/-- The record of a key and a value that are both accepted; the key is looked at first. -/
def accept (key value : String) : Except StoreError Record :=
  match hkey : checkKey key with
  | .error error => .error error
  | .ok () =>
    match hvalue : checkValue value with
    | .error error => .error error
    | .ok () =>
      .ok ⟨key, value, (size_of_checkKey hkey).1, (size_of_checkKey hkey).2,
        size_of_checkValue hvalue⟩

end Admission
end KeyLog
