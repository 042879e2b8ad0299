import KeyLog.Proofs.Checksum
import KeyLog.Proofs.Log.Basic

/-!
# Altered records

Bytes on a disk change.  This file is about a change that leaves the lengths of a record alone and
reaches either its key and its value, within four neighbouring bytes, or its checksum.

* `DifferWithin.crc32_ne`: a change within four bytes changes the checksum.
* `Record.Altered`: what such a change makes of the bytes of a record.
* `Record.Altered.stuck`: what was altered begins with no record at all, whatever follows, since a
  record there would have its fields where the lengths say (`Record.fields_of_bytesWith`).

The key and the value are one byte string to the checksum, so a window of four bytes may reach from
the end of the key to the beginning of the value, although the value length lies between them.
-/

namespace KeyLog

/-! ## Changes within a window -/

/-- Two byte strings of one length differ, and all places where they do lie in one window. -/
structure DifferWithin (width : Nat) (a b : Bytes) : Prop where
  length_eq : a.length = b.length
  ne : a ≠ b
  /-- They agree before the window and behind it. -/
  window : ∃ start, a.take start = b.take start ∧ a.drop (start + width) = b.drop (start + width)

/-- A byte string before a window, in it and behind it. -/
theorem take_append_window (start width : Nat) (a : Bytes) :
    a.take start ++ ((a.drop start).take width ++ a.drop (start + width)) = a := by
  rw [← List.drop_drop, List.take_append_drop, List.take_append_drop]

/-- What differs within a window is the same but for the bytes in it. -/
theorem DifferWithin.split {width : Nat} {a b : Bytes} (h : DifferWithin width a b) :
    ∃ front x y back, a = front ++ (x ++ back) ∧ b = front ++ (y ++ back) ∧
      x.length = y.length ∧ x.length ≤ width := by
  obtain ⟨start, hfront, hback⟩ := h.window
  refine ⟨b.take start, (a.drop start).take width, (b.drop start).take width,
    b.drop (start + width), ?_, (take_append_window start width b).symm, ?_,
    List.length_take_le width _⟩
  · rw [← hfront, ← hback, take_append_window]
  · rw [List.length_take, List.length_take, List.length_drop, List.length_drop, h.length_eq]

/-- **A change within four bytes changes the checksum.** -/
theorem DifferWithin.crc32_ne {a b : Bytes} (h : DifferWithin 4 a b) :
    Checksum.crc32 a ≠ Checksum.crc32 b := by
  obtain ⟨front, x, y, back, ha, hb, hlength, hshort⟩ := h.split
  intro hsum
  rw [ha, hb] at hsum
  refine h.ne ?_
  rw [ha, hb, Checksum.eq_of_crc32_eq front back hlength hshort hsum]

namespace Record

/-! ## Altered bytes -/

/-- What a change makes of the bytes of a record that leaves their number and both lengths, and
reaches either the key and the value or the checksum. -/
inductive Altered (record : Record) : Bytes → Prop
  /-- Bytes of the key and the value have changed, all within four neighbouring places of the two
  laid end to end. -/
  | texts {key value : Bytes} (hkey : key.length = Utf8.size record.key)
      (hvalue : value.length = Utf8.size record.value)
      (h : DifferWithin 4 (Utf8.encode record.key ++ Utf8.encode record.value) (key ++ value)) :
      Altered record (record.bytesWith key value (LittleEndian.word record.checksum.toNat))
  /-- Bytes of the checksum have changed. -/
  | checksum {sum : Bytes} (hlength : sum.length = Layout.checksumWidth)
      (h : sum ≠ LittleEndian.word record.checksum.toNat) :
      Altered record
        (record.bytesWith (Utf8.encode record.key) (Utf8.encode record.value) sum)

variable {record : Record} {altered : Bytes}

/-- Checksums with the same word are the same. -/
theorem checksum_eq_of_word {a b : UInt32}
    (h : LittleEndian.word a.toNat = LittleEndian.word b.toNat) : a = b := by
  apply UInt32.toNat_inj.1
  rw [← LittleEndian.value_word a.toNat_lt, h, LittleEndian.value_word b.toNat_lt]

/-- **An altered record begins with no record**, whatever follows it. -/
theorem Altered.stuck (h : record.Altered altered) (rest : Bytes) : Log.Stuck (altered ++ rest) := by
  intro other more hother
  cases h with
  | texts hkey hvalue hdiffer =>
    obtain ⟨hkeys, hvalues, hsums⟩ := fields_of_bytesWith hkey hvalue rfl hother
    -- the other record would have the same checksum for other texts
    have hsame : other.checksum = record.checksum := checksum_eq_of_word hsums
    refine hdiffer.crc32_ne ?_
    rw [← hkeys, ← hvalues]
    exact hsame.symm
  | checksum hlength hne =>
    obtain ⟨hkeys, hvalues, hsums⟩ := fields_of_bytesWith (Utf8.length_encode _)
      (Utf8.length_encode _) hlength hother
    have hsame : other = record :=
      eq_of_texts (Utf8.encode_injective hkeys) (Utf8.encode_injective hvalues)
    rw [hsame] at hsums
    exact hne hsums.symm

/-- An altered record is no record itself. -/
theorem Altered.ne_encode (h : record.Altered altered) (other : Record) :
    altered ≠ other.encode := by
  have hstuck := h.stuck [] other []
  rwa [List.append_nil, List.append_nil] at hstuck

end Record
end KeyLog
