import KeyLog.SystemError
import KeyLog.Text.Utf8

/-!
# Paths

A path is written as names between slashes.  `pieces` cuts the text at every slash and keeps empty
pieces, because a slash at the end says something: the path then means a directory.  What the
pieces mean is decided where there are directories to walk through.

Some texts are no path at all, and that is told before any directory is looked at: a text with a
NUL character, the empty text, and a text that is too long.
-/

namespace KeyLog
namespace Path

/-- The most bytes a name may have. -/
def maxNameSize : Nat := 255

/-- From this many bytes on a path is too long. -/
def sizeLimit : Nat := 4096

/-- Cuts characters at every slash. -/
def cut : List Char → List (List Char)
  | [] => [[]]
  | c :: rest =>
    if c = '/' then [] :: cut rest
    else
      match cut rest with
      | [] => [[c]]
      | first :: others => (c :: first) :: others

/-- The pieces of a path, those between two slashes and at the ends included. -/
def pieces (text : String) : List String := (cut text.toList).map String.ofList

/-- The pieces of a text that is a path. -/
def parse (text : String) : Except SystemError (List String) :=
  if '\x00' ∈ text.toList then .error .nulInPath
  else if text.isEmpty then .error .noEntry
  else if sizeLimit ≤ Utf8.size text then .error .nameTooLong
  else .ok (pieces text)

end Path

/-- A place in the tree of directories: the names on the way from the top. -/
abbrev Path := List String

end KeyLog
