import KeyLog.Record.Frame

/-!
# Ranges that are longer than any record

A place may promise a record of any length, but no record is longer than the layout allows.  What
is wrong with a longer range of bytes shows in its first bytes, its *head*; of the others only their
number matters, for they trail behind the record that the head begins with.

`decodeHead` reads a record from the head of a range, and `decodeHead_eq` says that it answers as
`decode` does for the whole range.
-/

namespace KeyLog

/-- What is wrong with some bytes if more bytes follow them. -/
def Corruption.andMore (extra : Nat) : Corruption → Corruption
  | .trailing count => .trailing (count + extra)
  | reason => reason

@[simp] theorem Corruption.andMore_zero (reason : Corruption) : reason.andMore 0 = reason := by
  cases reason <;> rfl

/-- Where the bytes are longer than any record, the bytes that follow them only add to what trails
behind. -/
theorem Frame.parse_append {bytes : Bytes} (h : Layout.maxRecordSize < bytes.length)
    (later : Bytes) :
    ∃ reason, parse bytes = .error reason ∧
      parse (bytes ++ later) = .error (reason.andMore later.length) := by
  cases bytes with
  | nil => simp at h
  | cons keyLength rest =>
    simp only [Layout.maxRecordSize, Layout.recordSize_eq, Layout.maxKeySize, Layout.maxValueSize,
      List.length_cons] at h
    have hkey := keyLength.toNat_lt
    rw [List.cons_append]
    unfold parse
    by_cases hzero : keyLength = 0
    · exact ⟨.emptyKey, by simp [hzero], by simp [hzero, Corruption.andMore]⟩
    have hdrop : (rest ++ later).drop keyLength.toNat = rest.drop keyLength.toNat ++ later :=
      List.drop_append_of_le_length (by omega)
    have htake : (rest.drop keyLength.toNat ++ later).take Layout.valueLengthWidth =
        (rest.drop keyLength.toNat).take Layout.valueLengthWidth :=
      List.take_append_of_le_length (by
        rw [Layout.valueLengthWidth, List.length_drop]
        omega)
    have hdrop' : (rest.drop keyLength.toNat ++ later).drop Layout.valueLengthWidth =
        (rest.drop keyLength.toNat).drop Layout.valueLengthWidth ++ later :=
      List.drop_append_of_le_length (by
        rw [Layout.valueLengthWidth, List.length_drop]
        omega)
    simp only [dif_neg hzero, hdrop, htake, hdrop']
    obtain ⟨valueLength, hvalue⟩ : ∃ valueLength, valueLength =
        LittleEndian.value ((rest.drop keyLength.toNat).take Layout.valueLengthWidth) := ⟨_, rfl⟩
    obtain ⟨afterLength, hafter⟩ : ∃ afterLength, afterLength =
        (rest.drop keyLength.toNat).drop Layout.valueLengthWidth := ⟨_, rfl⟩
    -- neither the key nor the value length is missing
    have h1 : ¬ rest.length < keyLength.toNat := by omega
    have h2 : ¬ (rest ++ later).length < keyLength.toNat := by
      rw [List.length_append]
      omega
    have h3 : ¬ (rest.drop keyLength.toNat).length < Layout.valueLengthWidth := by
      rw [Layout.valueLengthWidth, List.length_drop]
      omega
    have h4 : ¬ (rest.drop keyLength.toNat ++ later).length < Layout.valueLengthWidth := by
      rw [List.length_append]
      omega
    simp only [dif_neg h1, dif_neg h2, if_neg h3, if_neg h4, ← hvalue, ← hafter]
    by_cases hbound : Layout.maxValueSize < valueLength
    · exact ⟨.valueTooLong valueLength, by simp [hbound], by simp [hbound, Corruption.andMore]⟩
    have hlarge : valueLength ≤ 65535 := by
      rw [Layout.maxValueSize] at hbound
      omega
    have hlength : valueLength + 4 < afterLength.length := by
      rw [hafter, Layout.valueLengthWidth, List.length_drop, List.length_drop]
      omega
    -- nor the value nor the checksum, and something is left behind them
    have h5 : ¬ afterLength.length < valueLength := by omega
    have h6 : ¬ (afterLength ++ later).length < valueLength := by
      rw [List.length_append]
      omega
    have hrest : (afterLength ++ later).drop valueLength = afterLength.drop valueLength ++ later :=
      List.drop_append_of_le_length (by omega)
    have h7 : ¬ (afterLength.drop valueLength).length < Layout.checksumWidth := by
      rw [Layout.checksumWidth, List.length_drop]
      omega
    have h8 : ¬ (afterLength.drop valueLength ++ later).length < Layout.checksumWidth := by
      rw [List.length_append]
      omega
    have h9 : Layout.checksumWidth < (afterLength.drop valueLength).length := by
      rw [Layout.checksumWidth, List.length_drop]
      omega
    have h10 : Layout.checksumWidth < (afterLength.drop valueLength ++ later).length := by
      rw [List.length_append]
      omega
    simp only [dif_neg hbound, if_neg h5, if_neg h6, hrest, if_neg h7, if_neg h8, if_pos h9,
      if_pos h10]
    refine ⟨_, rfl, ?_⟩
    rw [Corruption.andMore, List.length_append]
    congr 2
    omega

namespace Record

/-- How many bytes of a range are looked at: one more than the largest record has. -/
def headSize : Nat := Layout.maxRecordSize + 1

/-- Reads the record that begins at an offset of the log, where `head` are the first bytes of its
range and `extra` more follow. -/
def decodeHead (offset : Nat) (head : Bytes) (extra : Nat) : Except StoreError Record :=
  match parse head with
  | .error reason => .error (.corruption offset (reason.andMore extra))
  | .ok record => .ok record

/-- **The head of a range decides** what reading the range comes to. -/
theorem decodeHead_eq (offset : Nat) (bytes : Bytes) :
    decodeHead offset (bytes.take headSize) (bytes.length - headSize) = decode offset bytes := by
  unfold decodeHead decode
  by_cases h : bytes.length ≤ headSize
  · rw [List.take_of_length_le h, Nat.sub_eq_zero_of_le h]
    cases parse bytes <;> simp only [Corruption.andMore_zero]
  · have hhead : Layout.maxRecordSize < (bytes.take headSize).length := by
      rw [List.length_take, headSize] at *
      omega
    obtain ⟨reason, hparse, hall⟩ := Frame.parse_append hhead (bytes.drop headSize)
    rw [List.take_append_drop, List.length_drop] at hall
    simp only [parse, hparse, hall]

end Record
end KeyLog
