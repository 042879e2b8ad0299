import KeyLog.Record.Lemmas
import Mathlib.Tactic.Push

/-!
# Logs as lists of records

The history of a store is a list of records, the oldest first.  What lies on the disk is the
concatenation of their encodings, `Log.bytes`, and this file says that nothing is lost on the way
there: the encodings are *self-delimiting*, so the bytes of a log can be cut into records in one way
only.

* `Record.fields_of_bytesWith`: the lengths in front say where the fields of a record are.
* `Record.encode_append_inj`: hence where a byte string begins with a record, it begins with one
  record only, and what follows is determined.
* `Log.isPrefix_of_bytes_append`: of two ways to begin the same byte string with records, the one
  that cannot go on is the longer one.
* `Log.bytes_injective`: a log is known from its bytes.
* `Log.exists_longest`: every byte string begins with some log that cannot go on.

## Why a record delimits itself

The key length stands first and fixes where the value length stands, which fixes where the record
ends.  So two encodings at the front of one byte string agree on the first byte, hence on the key,
hence on the value length, hence on all the rest.
-/

namespace KeyLog

namespace Record

/-- No encoding is empty. -/
theorem encode_ne_nil (record : Record) : record.encode ≠ [] :=
  List.cons_ne_nil _ _

/-- The size of a text that a record may hold is read back from its length byte. -/
theorem toNat_keyLength (record : Record) :
    (UInt8.ofNat (Utf8.size record.key)).toNat = Utf8.size record.key := by
  have hkey := record.key_le
  rw [Layout.maxKeySize] at hkey
  rw [UInt8.toNat_ofNat']
  omega

/-- The size of a value is read back from its word. -/
theorem value_valueLength (record : Record) :
    LittleEndian.value (LittleEndian.word (Utf8.size record.value)) = Utf8.size record.value := by
  have hvalue := record.value_le
  rw [Layout.maxValueSize] at hvalue
  exact LittleEndian.value_word (by omega)

/-- The bytes of a record with others in place of its key, its value and its checksum. -/
def bytesWith (record : Record) (key value sum : Bytes) : Bytes :=
  .ofNat (Utf8.size record.key) ::
    (key ++ (LittleEndian.word (Utf8.size record.value) ++ (value ++ sum)))

/-- With its own key, value and checksum these are the bytes of the record. -/
theorem bytesWith_self (record : Record) :
    record.bytesWith (Utf8.encode record.key) (Utf8.encode record.value)
      (LittleEndian.word record.checksum.toNat) = record.encode := rfl

/-- **The lengths say where the fields are**: where those of a record stand in front, any record that
is found there has its fields where they say. -/
theorem fields_of_bytesWith {record other : Record} {key value sum rest more : Bytes}
    (hkey : key.length = Utf8.size record.key) (hvalue : value.length = Utf8.size record.value)
    (hsum : sum.length = Layout.checksumWidth)
    (h : record.bytesWith key value sum ++ rest = other.encode ++ more) :
    Utf8.encode other.key = key ∧ Utf8.encode other.value = value ∧
      LittleEndian.word other.checksum.toNat = sum := by
  rw [← other.bytesWith_self] at h
  simp only [bytesWith, List.cons_append, List.append_assoc, List.cons.injEq] at h
  obtain ⟨hfirst, hrest⟩ := h
  -- the first byte says how long the key is
  have hkeySize : Utf8.size record.key = Utf8.size other.key := by
    rw [← toNat_keyLength record, hfirst, toNat_keyLength other]
  obtain ⟨hkeys, hrest⟩ := List.append_inj hrest (by
    rw [hkey, hkeySize, Utf8.length_encode])
  -- the word behind the key says how long the value is
  obtain ⟨hword, hrest⟩ := List.append_inj hrest rfl
  have hvalueSize : Utf8.size record.value = Utf8.size other.value := by
    rw [← value_valueLength record, hword, value_valueLength other]
  obtain ⟨hvalues, hrest⟩ := List.append_inj hrest (by
    rw [hvalue, hvalueSize, Utf8.length_encode])
  obtain ⟨hsums, -⟩ := List.append_inj hrest hsum
  exact ⟨hkeys.symm, hvalues.symm, hsums.symm⟩

/-- **An encoding delimits itself**: a byte string begins with at most one record. -/
theorem encode_append_inj {a b : Record} {x y : Bytes} (h : a.encode ++ x = b.encode ++ y) :
    a = b ∧ x = y := by
  have hfields := h
  rw [← a.bytesWith_self] at hfields
  obtain ⟨hkey, hvalue, -⟩ :=
    fields_of_bytesWith (Utf8.length_encode _) (Utf8.length_encode _) rfl hfields
  obtain rfl : b = a := eq_of_texts (Utf8.encode_injective hkey) (Utf8.encode_injective hvalue)
  exact ⟨rfl, List.append_cancel_left h⟩

end Record

/-- A log as the list of its records, the oldest first. -/
abbrev Log := List Record

namespace Log

/-- The bytes of a log: the encodings of its records, end to end. -/
def bytes (log : Log) : Bytes := log.flatMap Record.encode

@[simp] theorem bytes_nil : bytes [] = [] := rfl

@[simp] theorem bytes_cons (record : Record) (log : Log) :
    bytes (record :: log) = record.encode ++ bytes log :=
  List.flatMap_cons

@[simp] theorem bytes_append (a b : Log) : bytes (a ++ b) = bytes a ++ bytes b :=
  List.flatMap_append

theorem bytes_singleton (record : Record) : bytes [record] = record.encode := by
  rw [bytes_cons, bytes_nil, List.append_nil]

/-- No record begins at the front of these bytes. -/
def Stuck (rest : Bytes) : Prop :=
  ∀ (record : Record) (more : Bytes), rest ≠ record.encode ++ more

/-- Nothing begins where there are no bytes. -/
theorem stuck_nil : Stuck [] := by
  intro record more h
  exact record.encode_ne_nil (List.append_eq_nil_iff.1 h.symm).1

/-- Of two ways to begin a byte string with records, the one that cannot go on is the longer
one. -/
theorem isPrefix_of_bytes_append {log other : Log} {rest tail : Bytes} (hrest : Stuck rest)
    (h : log.bytes ++ rest = other.bytes ++ tail) : other <+: log := by
  induction other generalizing log with
  | nil => exact List.nil_prefix
  | cons record other ih =>
    rw [bytes_cons, List.append_assoc] at h
    cases log with
    | nil => exact absurd h (hrest record _)
    | cons first log =>
      rw [bytes_cons, List.append_assoc] at h
      obtain ⟨hfirst, hlater⟩ := Record.encode_append_inj h
      rw [hfirst]
      exact List.cons_prefix_cons.2 ⟨rfl, ih hlater⟩

/-- **A log is known from its bytes.** -/
theorem bytes_injective {a b : Log} (h : a.bytes = b.bytes) : a = b := by
  have hab : a.bytes ++ [] = b.bytes ++ [] := by rw [h]
  have hba : b <+: a := isPrefix_of_bytes_append stuck_nil hab
  have hab : a <+: b := isPrefix_of_bytes_append stuck_nil hab.symm
  exact hab.eq_of_length (Nat.le_antisymm hab.length_le hba.length_le)

/-- Every byte string begins with a log that cannot go on. -/
theorem exists_longest (data : Bytes) :
    ∃ (log : Log) (rest : Bytes), data = log.bytes ++ rest ∧ Stuck rest := by
  induction hn : data.length using Nat.strongRecOn generalizing data with
  | ind n ih =>
    by_cases hstuck : Stuck data
    · exact ⟨[], data, rfl, hstuck⟩
    · unfold Stuck at hstuck
      push Not at hstuck
      obtain ⟨record, more, hdata⟩ := hstuck
      have hpos := record.size_pos
      have hlength : data.length = record.size + more.length := by
        rw [hdata, List.length_append, Record.length_encode]
      obtain ⟨log, rest, hmore, hrest⟩ := ih more.length (by omega) more rfl
      refine ⟨record :: log, rest, ?_, hrest⟩
      rw [hdata, hmore, bytes_cons, List.append_assoc]

end Log
end KeyLog
