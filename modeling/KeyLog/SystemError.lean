/-!
# Errors of the file system

What a file operation can fail with.  A source of bytes that is read piece by piece may also fail
with a text of its own.
-/

namespace KeyLog

/-- Why an operation on files failed. -/
inductive SystemError where
  /-- No entry of that name, or a directory on the way is missing. -/
  | noEntry
  /-- A file stands where the path needs a directory. -/
  | notDirectory
  /-- A directory stands where a file is needed. -/
  | isDirectory
  /-- The file would grow past the size limit or past the size of the largest files. -/
  | fileTooLarge
  /-- A name has more than 255 bytes, or a path has 4096 or more. -/
  | nameTooLong
  /-- The path holds a NUL character. -/
  | nulInPath
  /-- The name is taken. -/
  | alreadyExists
  /-- The directory is not empty. -/
  | notEmpty
  /-- A directory would be moved into itself, the top directory would be changed, or a write would
  go on where no byte has a place. -/
  | invalidArgument
  /-- A failure that is known by its text alone. -/
  | other (text : String)
  deriving DecidableEq, Repr

/-- The wording of a failure; those that the system numbers carry their number. -/
def SystemError.message : SystemError → String
  | .noEntry => "No such file or directory (os error 2)"
  | .notDirectory => "Not a directory (os error 20)"
  | .isDirectory => "Is a directory (os error 21)"
  | .fileTooLarge => "File too large (os error 27)"
  | .nameTooLong => "File name too long (os error 36)"
  | .nulInPath => "file name contained an unexpected NUL byte"
  | .alreadyExists => "File exists (os error 17)"
  | .notEmpty => "Directory not empty (os error 39)"
  | .invalidArgument => "Invalid argument (os error 22)"
  | .other text => text

end KeyLog
