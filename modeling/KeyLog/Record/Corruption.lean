import KeyLog.Layout
import KeyLog.Text.Quoted
import KeyLog.Text.Utf8

/-!
# Damage to a log

Every way in which bytes fail to be the record that they should be, as a cause and not as a text.
The causes fall into three groups: the bytes of a record do not parse, a scan of the log meets the
end of the log inside a record, and a record that the index promises is not where the index says.
-/

namespace KeyLog

/-- A field of a record. -/
inductive Field where
  | keyLength | key | valueLength | value | checksum
  deriving DecidableEq, Repr

/-- The name of a field in a message. -/
def Field.name : Field → String
  | .keyLength => "key length"
  | .key => "key"
  | .valueLength => "value length"
  | .value => "value"
  | .checksum => "checksum"

/-- The two texts of a record. -/
inductive Part where
  | key | value
  deriving DecidableEq, Repr

/-- The name of a text in a message. -/
def Part.name : Part → String
  | .key => "key"
  | .value => "value"

/-- What is wrong with the bytes of a log at some offset. -/
inductive Corruption where
  /-- The bytes end before this field is complete. -/
  | missing (field : Field)
  /-- The key length is zero. -/
  | emptyKey
  /-- The value length is past the bound. -/
  | valueTooLong (length : Nat)
  /-- Bytes are left after the checksum. -/
  | trailing (count : Nat)
  /-- The stored checksum is not that of the key and the value. -/
  | checksumMismatch (stored computed : UInt32)
  /-- The key or the value is no text. -/
  | notUtf8 (part : Part) (fault : Utf8.Fault)
  /-- The log ends inside a record: so many more bytes were needed and so many found. -/
  | cutShort (needed found : Nat)
  /-- A record is promised past the end of the log. -/
  | pastEnd (recordEnd logEnd : Nat)
  /-- Fewer bytes could be read than the promised record has. -/
  | shortRead
  /-- The record found is that of another key. -/
  | wrongKey (wanted found : String)
  /-- Damage that is known by its text alone. -/
  | described (text : String)
  deriving DecidableEq, Repr

namespace Corruption

/-- A word as eight hexadecimal digits in lower case. -/
def hexWord (word : UInt32) : String :=
  let digits := Quoted.hexadecimal word.toNat
  "0x" ++ String.ofList (List.replicate (8 - digits.length) '0') ++ digits

/-- The wording of the damage. -/
def message : Corruption → String
  | .missing field => s!"truncated record: missing {field.name}"
  | .emptyKey => "zero-length key"
  | .valueTooLong length => s!"value length {length} exceeds {Layout.maxValueSize}"
  | .trailing count => s!"{count} unexpected trailing bytes"
  | .checksumMismatch stored computed =>
    s!"checksum mismatch: stored {hexWord stored}, computed {hexWord computed}"
  | .notUtf8 part fault => s!"{part.name} is not UTF-8: {fault.message}"
  | .cutShort needed found =>
    s!"truncated record: expected {needed} more bytes, found {found}"
  | .pastEnd recordEnd logEnd => s!"record end {recordEnd} is past end of file {logEnd}"
  | .shortRead => "truncated record"
  | .wrongKey wanted found =>
    s!"expected record for key {Quoted.quote wanted}, found {Quoted.quote found}"
  | .described text => text

end Corruption
end KeyLog
