import KeyLog.Record.Frame
import KeyLog.Source
import KeyLog.Span

/-!
# Scanning a log

A scanner reads records one after another from the front of a source.  It knows the offset at
which the next record begins, and every fault it reports carries that offset.

It asks for a record in three pieces, because only the first says how long the second is and only
the second how long the third is: the key length, then the key with the value length, then the
value with the checksum.  The assembled bytes go through the same `Record.decode` as a record that
is read on its own.

## After a fault

`nextRecord` does not put bytes back: called again after a fault, it goes on with whatever the
source delivers next, while the offset stays at the record that failed.  `next` is for callers who
stop at the first fault: once it has reported one, it reports the end for ever.
-/

namespace KeyLog

/-- A record and where it lies. -/
structure Scanned where
  span : Span
  record : Record
  deriving DecidableEq

/-- A scan in progress. -/
structure Scanner where
  source : Source
  /-- The offset of the next record. -/
  offset : Nat
  /-- A call of `next` has reported a fault. -/
  failed : Bool

namespace Scanner

/-- A scan of a source from its beginning. -/
def start (source : Source) : Scanner := ⟨source, 0, false⟩

/-- Asks for `n` bytes of the record at `offset`; fewer mean that the log ends inside it. -/
def demand (n offset : Nat) (source : Source) : Except StoreError Bytes × Source :=
  match source.take n with
  | (.error cause, rest) => (.error (.io cause), rest)
  | (.ok got, rest) =>
    if got.length < n then (.error (.corruption offset (.cutShort n got.length)), rest)
    else (.ok got, rest)

/-- The bytes of the record at `offset` after its key length. -/
def demandRest (keyLength : UInt8) (offset : Nat) (source : Source) :
    Except StoreError Bytes × Source :=
  match demand (keyLength.toNat + Layout.valueLengthWidth) offset source with
  | (.error error, rest) => (.error error, rest)
  | (.ok upToValue, rest) =>
    let valueLength := LittleEndian.value (upToValue.drop keyLength.toNat)
    if Layout.maxValueSize < valueLength then
      (.error (.corruption offset (.valueTooLong valueLength)), rest)
    else
      match demand (valueLength + Layout.checksumWidth) offset rest with
      | (.error error, rest) => (.error error, rest)
      | (.ok fromValue, rest) => (.ok (upToValue ++ fromValue), rest)

/-- The bytes of the record at `offset`, or nothing at the end of the log. -/
def demandRecord (offset : Nat) (source : Source) : Except StoreError (Option Bytes) × Source :=
  match source.take Layout.keyLengthWidth with
  | (.error cause, rest) => (.error (.io cause), rest)
  | (.ok [], rest) => (.ok none, rest)
  | (.ok (keyLength :: _), rest) =>
    match demandRest keyLength offset rest with
    | (.error error, rest) => (.error error, rest)
    | (.ok bytes, rest) => (.ok (some (keyLength :: bytes)), rest)

/-- The next record, or nothing at the end of the log.  Only a record moves the offset on. -/
def nextRecord (scanner : Scanner) : Except StoreError (Option Scanned) × Scanner :=
  match demandRecord scanner.offset scanner.source with
  | (.error error, rest) => (.error error, { scanner with source := rest })
  | (.ok none, rest) => (.ok none, { scanner with source := rest })
  | (.ok (some bytes), rest) =>
    match Record.decode scanner.offset bytes with
    | .error error => (.error error, { scanner with source := rest })
    | .ok record =>
      (.ok (some ⟨⟨scanner.offset, bytes.length⟩, record⟩),
        { scanner with source := rest, offset := scanner.offset + bytes.length })

/-- The next record for a caller who stops at the first fault. -/
def next (scanner : Scanner) : Except StoreError (Option Scanned) × Scanner :=
  if scanner.failed then (.ok none, scanner)
  else
    match scanner.nextRecord with
    | (.error error, after) => (.error error, { after with failed := true })
    | (.ok scanned, after) => (.ok scanned, after)

/-! ## Runs of calls -/

/-- A way to ask for the next record. -/
inductive Call where
  | nextRecord | next
  deriving DecidableEq, Repr

/-- Answers one call. -/
def answer (scanner : Scanner) : Call → Except StoreError (Option Scanned) × Scanner
  | .nextRecord => scanner.nextRecord
  | .next => scanner.next

/-- What a call gave, and the offset after it. -/
structure Step where
  result : Except StoreError (Option Scanned)
  offset : Nat

/-- Answers a run of calls. -/
def run (scanner : Scanner) : List Call → List Step
  | [] => []
  | call :: calls =>
    let (result, after) := scanner.answer call
    ⟨result, after.offset⟩ :: after.run calls

/-! ## Every record costs bytes -/

theorem bytesLeft_demand {n offset : Nat} {source after : Source} {bytes : Bytes}
    (h : demand n offset source = (.ok bytes, after)) :
    bytes.length + after.bytesLeft = source.bytesLeft := by
  unfold demand at h
  split at h
  · cases h
  next got rest htake =>
    split at h
    · cases h
    · cases h
      exact Source.bytesLeft_take htake

theorem bytesLeft_demandRest {keyLength : UInt8} {offset : Nat} {source after : Source}
    {bytes : Bytes} (h : demandRest keyLength offset source = (.ok bytes, after)) :
    bytes.length + after.bytesLeft = source.bytesLeft := by
  unfold demandRest at h
  split at h
  · cases h
  next first rest hfirst =>
    dsimp only at h
    split at h
    · cases h
    · split at h
      · cases h
      next second rest' hsecond =>
        cases h
        have h1 := bytesLeft_demand hfirst
        have h2 := bytesLeft_demand hsecond
        rw [List.length_append]
        omega

theorem bytesLeft_demandRecord {offset : Nat} {source after : Source} {bytes : Bytes}
    (h : demandRecord offset source = (.ok (some bytes), after)) :
    0 < bytes.length ∧ bytes.length + after.bytesLeft ≤ source.bytesLeft := by
  unfold demandRecord at h
  split at h
  · cases h
  · cases h
  next keyLength extra rest hfirst =>
    split at h
    · cases h
    next second rest' hrest =>
      cases h
      have h1 := Source.bytesLeft_take hfirst
      have h2 := bytesLeft_demandRest hrest
      simp only [List.length_cons] at *
      omega

/-- A record that is scanned uses up bytes of the source. -/
theorem bytesLeft_nextRecord {scanner after : Scanner} {scanned : Scanned}
    (h : scanner.nextRecord = (.ok (some scanned), after)) :
    after.source.bytesLeft < scanner.source.bytesLeft := by
  unfold nextRecord at h
  split at h
  · cases h
  · cases h
  next bytes rest hbytes =>
    split at h
    · cases h
    · cases h
      have := bytesLeft_demandRecord hbytes
      dsimp only
      omega

end Scanner
end KeyLog
