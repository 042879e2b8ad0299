/-!
# Places in the log
-/

namespace KeyLog

/-- Where a record lies in the log: the offset of its first byte and the number of its bytes. -/
structure Span where
  offset : Nat
  length : Nat
  deriving DecidableEq, Repr

/-- The offset just past the last byte. -/
def Span.stop (span : Span) : Nat := span.offset + span.length

end KeyLog
