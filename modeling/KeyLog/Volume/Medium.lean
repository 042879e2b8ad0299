import KeyLog.Volume.Basic

/-!
# Writing that can fail

What the disk lets happen to an object is a `Medium`.  A write may be cut off after any number of
bytes, and a change of length may be refused; nothing else goes wrong.  Bytes that were stored
before the cut stay stored.

Forcing the bytes of an object to the disk is taken to succeed, and it changes nothing that is read
back.  So it has no place among the operations: an append says nothing of it, and syncing a log or
closing it, which does nothing else, is answered as done.  Bytes that were not forced matter only
where the process is gone (`Compaction.Stopped`).

A size limit is the medium that ordinary use meets: a write stores what lies below the limit, and
no object grows past it by a change of length, while shrinking is always allowed.  Laws that hold
whatever fails are stated for every medium.

## Very large objects and limits

The place of a byte is a signed number of 64 bits, so no object has more than `maxObjectSize` bytes,
with or without a limit, and no range of bytes can be read or written that ends beyond.

Whoever writes stands somewhere in the object, behind what was last read or written.  Bytes that are
added go to the end of the object from wherever the writer stands, but they are refused before
anything else if they had no place behind the writer.  Otherwise what lies below the limit and the
largest size is stored, and the writer then stands behind it.  If bytes are left over that have no
place there, they are refused for the same reason; if they have one, or if nothing could be stored,
the object would be too large.

A limit is an unsigned number of 64 bits, and the largest of them stands for no limit.  The place of
a write is compared with the limit as a signed number, so a limit of `2 ^ 63` or more counts as
negative there and lets no write through, not even at the beginning.  A new length is compared with
the limit as an unsigned number, so to such a limit it is never too large.
-/

namespace KeyLog

/-- How a write is cut off: after how many bytes, and why. -/
structure Cut where
  stored : Nat
  cause : SystemError
  deriving DecidableEq, Repr

/-- What the disk allows. -/
structure Medium where
  /-- How a write of `length` bytes to the end of an object of `size` bytes is cut off, by whoever
  stands at `position`, or nothing if it goes through. -/
  cutOff : (position size length : Nat) → Option Cut
  /-- Whether an object of `size` bytes cannot be given the length `length`. -/
  refuses : (size length : Nat) → Bool

namespace Medium

/-- The medium on which nothing fails. -/
def perfect : Medium := ⟨fun _ _ _ => none, fun _ _ => false⟩

/-- The most bytes that an object can have, `2 ^ 63 - 1`. -/
def maxObjectSize : Nat := 9223372036854775807

/-- The limit that stands for none, `2 ^ 64 - 1`. -/
def unlimited : Nat := 18446744073709551615

/-- How far writes reach: up to the limit, nowhere if it counts as negative, and as far as objects
reach if there is none. -/
def writeLimit : Option Nat → Nat
  | none => maxObjectSize
  | some limit =>
    if limit ≤ maxObjectSize then limit else if limit = unlimited then maxObjectSize else 0

/-- How far objects can be lengthened. -/
def lengthLimit : Option Nat → Nat
  | none => maxObjectSize
  | some limit => min limit maxObjectSize

/-- Writes reach no further than an object can be lengthened. -/
theorem writeLimit_le (limit : Option Nat) : writeLimit limit ≤ lengthLimit limit := by
  cases limit with
  | none => exact Nat.le_refl _
  | some limit =>
    simp only [writeLimit, lengthLimit]
    by_cases h : limit ≤ maxObjectSize
    · simp only [if_pos h, Nat.min_eq_left h, Nat.le_refl]
    · simp only [if_neg h, Nat.min_eq_right (Nat.le_of_not_le h)]
      split
      · exact Nat.le_refl _
      · exact Nat.zero_le _

/-- How a write is cut off that reaches no further than `reach`. -/
def cutAt (reach position size length : Nat) : Option Cut :=
  if length = 0 then none
  else if maxObjectSize < position + length then some ⟨0, .invalidArgument⟩
  else if size + length ≤ reach then none
  else if size < reach ∧ maxObjectSize < size + length then some ⟨reach - size, .invalidArgument⟩
  else some ⟨reach - size, .fileTooLarge⟩

/-- The medium that keeps objects at or below a size, if there is a limit. -/
def limited (limit : Option Nat) : Medium where
  cutOff := cutAt (writeLimit limit)
  refuses size length := size < length && lengthLimit limit < length

/-- A limit never keeps an object from shrinking. -/
theorem limited_refuses_of_le (limit : Option Nat) {size length : Nat} (h : length ≤ size) :
    (limited limit).refuses size length = false := by
  have : ¬ size < length := Nat.not_lt.2 h
  simp [limited, this]

end Medium

namespace Volume

/-- Adds bytes at the end of an object, for whoever stands at `position`.  A write that is cut off
fails, and what it stored before stays. -/
def append (medium : Medium) (volume : Volume) (object position : Nat) (bytes : Bytes) :
    Option SystemError × Volume :=
  let held := volume.held object
  match medium.cutOff position held.size bytes.length with
  | none => (none, volume.put object (held.push (.written bytes)))
  | some cut => (some cut.cause, volume.put object (held.push (.written (bytes.take cut.stored))))

/-- Gives an object a length: it is cut, or filled with zeros. -/
def resize (medium : Medium) (volume : Volume) (object length : Nat) :
    Option SystemError × Volume :=
  let held := volume.held object
  if medium.refuses held.size length then (some .fileTooLarge, volume)
  else (none, volume.put object (held.fit length))

/-- Writes bytes over those of an object from an offset on.  What lies between the end of the
object and an offset past it is filled with zeros, but only if there is a byte to write: writing
nothing lengthens nothing. -/
def overwrite (volume : Volume) (object offset : Nat) (bytes : Bytes) : Volume :=
  if bytes.isEmpty then volume
  else volume.put object ((volume.held object).overwrite offset bytes)

end Volume
end KeyLog
