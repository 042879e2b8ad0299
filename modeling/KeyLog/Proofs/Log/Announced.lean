import KeyLog.Proofs.Log.Basic

/-!
# What the front of some bytes announces

Whoever looks for a record at the front of some bytes finds its lengths there, first that of the key
and behind the key that of the value, and with them where the record has to end.  Whether the bytes
reach that far is one question, and whether what stands there is a record is another one.

* `Log.Announces`: both lengths stand in front.
* `Log.front_cases`: there is nothing, or the bytes end before what is announced does
  (`Log.CutShort`), or both lengths are there and the value is too long or all of it is there.
* `Log.Announces.decode_error`: what is there with all its bytes, and is no record, is never reported
  as ending too early.
* `Log.announces_encode`: a record announces itself.
* `Log.Spoilt`: the bytes that are there are enough to know of damage.
* `Log.Stuck.cases`: where no record begins, there is nothing, or the bytes end too early, or there
  is damage.
-/

namespace KeyLog

/-- The damage is that bytes are missing. -/
def Corruption.isTruncation : Corruption → Bool
  | .missing _ | .cutShort _ _ | .shortRead => true
  | _ => false

/-! ## Frames of announced lengths -/

/-- Bytes that are as long as they announce are cut into fields, or the key is empty. -/
theorem Frame.parse_of_announced {first : UInt8} {key word value sum : Bytes}
    (hkey : key.length = first.toNat) (hword : word.length = Layout.valueLengthWidth)
    (hvalue : value.length = LittleEndian.value word)
    (hfits : LittleEndian.value word ≤ Layout.maxValueSize)
    (hsum : sum.length = Layout.checksumWidth) :
    parse (first :: (key ++ (word ++ (value ++ sum)))) = .error .emptyKey ∨
      ∃ frame, parse (first :: (key ++ (word ++ (value ++ sum)))) = .ok frame := by
  by_cases hzero : first = 0
  · exact .inl (by rw [parse, dif_pos hzero])
  have hafterKey : (key ++ (word ++ (value ++ sum))).drop first.toNat = word ++ (value ++ sum) :=
    List.drop_left' hkey
  have hlength : (word ++ (value ++ sum)).take Layout.valueLengthWidth = word :=
    List.take_left' hword
  have hafterLength : (word ++ (value ++ sum)).drop Layout.valueLengthWidth = value ++ sum :=
    List.drop_left' hword
  have hafterValue : (value ++ sum).drop (LittleEndian.value word) = sum := List.drop_left' hvalue
  -- none of the refusals of a length applies
  have h1 : ¬ (key ++ (word ++ (value ++ sum))).length < first.toNat := by
    rw [List.length_append]
    omega
  have h2 : ¬ (word ++ (value ++ sum)).length < Layout.valueLengthWidth := by
    rw [List.length_append]
    omega
  have h3 : ¬ (value ++ sum).length < LittleEndian.value word := by
    rw [List.length_append]
    omega
  right
  simp only [parse, dif_neg hzero, dif_neg h1, hafterKey, if_neg h2, hlength, hafterLength,
    dif_neg (Nat.not_lt.2 hfits), if_neg h3, hafterValue, hsum, Nat.lt_irrefl, if_false,
    Except.ok.injEq, exists_eq']

/-- A frame that is no record has the wrong checksum, or its key or its value is no text. -/
theorem Frame.toRecord_error {frame : Frame} {reason : Corruption}
    (h : frame.toRecord = .error reason) : reason.isTruncation = false := by
  unfold toRecord at h
  dsimp only at h
  split at h
  · cases h
    rfl
  split at h
  · cases h
    rfl
  split at h
  · cases h
    rfl
  · cases h

namespace Log

/-! ## Lengths in front -/

/-- Both lengths of a record stand in front of some bytes: that of the key in one byte, and behind
the key that of the value in a word. -/
def Announces (bytes : Bytes) (keyLength valueLength : Nat) : Prop :=
  ∃ (first : UInt8) (key word rest : Bytes), bytes = first :: (key ++ (word ++ rest)) ∧
    first.toNat = keyLength ∧ key.length = keyLength ∧ word.length = Layout.valueLengthWidth ∧
      LittleEndian.value word = valueLength

/-- Some bytes end before what they announce does. -/
inductive CutShort (bytes : Bytes) : Prop
  /-- Not even the lengths are all there. -/
  | lengths {first : UInt8} {rest : Bytes} (front : bytes = first :: rest)
      (short : rest.length < first.toNat + Layout.valueLengthWidth)
  /-- The value or the checksum is not all there. -/
  | fields {keyLength valueLength : Nat} (announces : Announces bytes keyLength valueLength)
      (fits : valueLength ≤ Layout.maxValueSize)
      (short : bytes.length < Layout.recordSize keyLength valueLength)

variable {bytes : Bytes} {keyLength valueLength : Nat}

/-- The lengths are there if the bytes reach behind the second one. -/
theorem announces_of_le {first : UInt8} {rest : Bytes}
    (h : first.toNat + Layout.valueLengthWidth ≤ rest.length) :
    Announces (first :: rest) first.toNat
      (LittleEndian.value ((rest.drop first.toNat).take Layout.valueLengthWidth)) := by
  refine ⟨first, rest.take first.toNat, (rest.drop first.toNat).take Layout.valueLengthWidth,
    (rest.drop first.toNat).drop Layout.valueLengthWidth, ?_, rfl, ?_, ?_, rfl⟩
  · rw [List.take_append_drop, List.take_append_drop]
  · rw [List.length_take]
    omega
  · rw [List.length_take, List.length_drop]
    omega

/-- **What can stand at the front of some bytes**, as far as lengths go. -/
theorem front_cases (bytes : Bytes) :
    bytes = [] ∨ CutShort bytes ∨ ∃ keyLength valueLength,
      Announces bytes keyLength valueLength ∧
        (Layout.maxValueSize < valueLength ∨
          valueLength ≤ Layout.maxValueSize ∧
            Layout.recordSize keyLength valueLength ≤ bytes.length) := by
  cases bytes with
  | nil => exact .inl rfl
  | cons first rest =>
    right
    by_cases hlengths : rest.length < first.toNat + Layout.valueLengthWidth
    · exact .inl (.lengths rfl hlengths)
    have hannounces := announces_of_le (Nat.le_of_not_lt hlengths)
    by_cases hfits : LittleEndian.value
        ((rest.drop first.toNat).take Layout.valueLengthWidth) ≤ Layout.maxValueSize
    · rcases Nat.lt_or_ge (first :: rest).length (Layout.recordSize first.toNat
          (LittleEndian.value ((rest.drop first.toNat).take Layout.valueLengthWidth))) with
        hshort | hwhole
      · exact .inl (.fields hannounces hfits hshort)
      · exact .inr ⟨_, _, hannounces, .inr ⟨hfits, hwhole⟩⟩
    · exact .inr ⟨_, _, hannounces, .inl (Nat.lt_of_not_le hfits)⟩

/-- Bytes that announce something are more than the lengths and the key. -/
theorem Announces.lt_length (h : Announces bytes keyLength valueLength) :
    keyLength + Layout.valueLengthWidth < bytes.length := by
  obtain ⟨first, key, word, rest, rfl, rfl, hkey, hword, -⟩ := h
  rw [List.length_cons, List.length_append, List.length_append, hkey, hword]
  omega

theorem Announces.ne_nil (h : Announces bytes keyLength valueLength) : bytes ≠ [] :=
  List.ne_nil_of_length_pos (Nat.zero_lt_of_lt h.lt_length)

/-- The key length that is announced is the first byte. -/
theorem Announces.toNat_eq {first : UInt8} {rest : Bytes}
    (h : Announces (first :: rest) keyLength valueLength) : first.toNat = keyLength := by
  obtain ⟨other, key, word, later, hbytes, hfirst, -⟩ := h
  rw [(List.cons.inj hbytes).1, hfirst]

/-- Some bytes announce one pair of lengths at most. -/
theorem Announces.unique {otherKey otherValue : Nat} (h : Announces bytes keyLength valueLength)
    (h' : Announces bytes otherKey otherValue) :
    keyLength = otherKey ∧ valueLength = otherValue := by
  obtain ⟨first, key, word, rest, rfl, rfl, hkey, hword, rfl⟩ := h
  obtain ⟨first', key', word', rest', hbytes, rfl, hkey', hword', rfl⟩ := h'
  obtain ⟨rfl, hrest⟩ := List.cons.inj hbytes
  obtain ⟨-, hrest⟩ := List.append_inj hrest (hkey.trans hkey'.symm)
  obtain ⟨rfl, -⟩ := List.append_inj hrest (hword.trans hword'.symm)
  exact ⟨rfl, rfl⟩

/-- The bytes that are announced are the lengths, the key, the value and a checksum. -/
theorem take_recordSize {first : UInt8} {key word : Bytes} (hkey : key.length = first.toNat)
    (hword : word.length = Layout.valueLengthWidth) (rest : Bytes) (valueLength : Nat) :
    (first :: (key ++ (word ++ rest))).take (Layout.recordSize first.toNat valueLength) =
      first :: (key ++ (word ++
        (rest.take valueLength ++ (rest.drop valueLength).take Layout.checksumWidth))) := by
  have hsize : Layout.recordSize first.toNat valueLength =
      key.length + (word.length + (valueLength + Layout.checksumWidth)) + 1 := by
    rw [Layout.recordSize_eq, hkey, hword, Layout.valueLengthWidth, Layout.checksumWidth]
    omega
  rw [hsize, List.take_succ_cons, List.take_length_add_append, List.take_length_add_append,
    List.take_add]

/-- All that is announced is there if the value and a checksum are. -/
theorem recordSize_le_iff {first : UInt8} {key word rest : Bytes} (hkey : key.length = first.toNat)
    (hword : word.length = Layout.valueLengthWidth) :
    Layout.recordSize first.toNat valueLength ≤ (first :: (key ++ (word ++ rest))).length ↔
      valueLength + Layout.checksumWidth ≤ rest.length := by
  rw [Layout.recordSize_eq, List.length_cons, List.length_append, List.length_append, hkey, hword,
    Layout.valueLengthWidth, Layout.checksumWidth]
  omega

/-- **What is there with all its bytes is not reported as ending too early**, if it is no record. -/
theorem Announces.decode_error (h : Announces bytes keyLength valueLength)
    (hfits : valueLength ≤ Layout.maxValueSize)
    (hwhole : Layout.recordSize keyLength valueLength ≤ bytes.length) {offset : Nat}
    {error : StoreError}
    (herror : Record.decode offset (bytes.take (Layout.recordSize keyLength valueLength)) =
      .error error) :
    ∃ reason, error = .corruption offset reason ∧ reason.isTruncation = false := by
  obtain ⟨first, key, word, rest, rfl, rfl, hkey, hword, rfl⟩ := h
  rw [take_recordSize hkey hword] at herror
  rw [recordSize_le_iff hkey hword] at hwhole
  have hvalue : (rest.take (LittleEndian.value word)).length = LittleEndian.value word := by
    rw [List.length_take]
    omega
  have hsum : ((rest.drop (LittleEndian.value word)).take Layout.checksumWidth).length =
      Layout.checksumWidth := by
    rw [List.length_take, List.length_drop]
    omega
  rcases Frame.parse_of_announced hkey hword hvalue hfits hsum with hparse | ⟨frame, hparse⟩
  · simp only [Record.decode, Record.parse, hparse, Except.error.injEq] at herror
    exact ⟨.emptyKey, herror.symm, rfl⟩
  · simp only [Record.decode, Record.parse, hparse] at herror
    split at herror
    next reason hrecord =>
      cases herror
      exact ⟨reason, rfl, Frame.toRecord_error hrecord⟩
    next => cases herror

/-- **A record announces itself.** -/
theorem announces_encode (record : Record) (rest : Bytes) :
    Announces (record.encode ++ rest) (Utf8.size record.key) (Utf8.size record.value) :=
  ⟨.ofNat (Utf8.size record.key), Utf8.encode record.key,
    LittleEndian.word (Utf8.size record.value),
    Utf8.encode record.value ++ (LittleEndian.word record.checksum.toNat ++ rest),
    by simp only [Record.encode, List.cons_append, List.append_assoc], record.toNat_keyLength,
    Utf8.length_encode _, rfl, record.value_valueLength⟩

/-! ## Damage -/

/-- What stands at the front of some bytes is damaged, whatever would come behind them: the value
length is there and out of bounds, or all bytes that are announced are there and do not decode. -/
inductive Spoilt (bytes : Bytes) : Prop
  | tooLong {keyLength valueLength : Nat} (announces : Announces bytes keyLength valueLength)
      (long : Layout.maxValueSize < valueLength)
  | unreadable {keyLength valueLength : Nat} (announces : Announces bytes keyLength valueLength)
      (fits : valueLength ≤ Layout.maxValueSize)
      (whole : Layout.recordSize keyLength valueLength ≤ bytes.length)
      (refused : ∀ offset record,
        Record.decode offset (bytes.take (Layout.recordSize keyLength valueLength)) ≠ .ok record)

theorem not_spoilt_nil : ¬ Spoilt [] := by
  rintro (⟨hannounces, -⟩ | ⟨hannounces, -, -, -⟩)
  · exact hannounces.ne_nil rfl
  · exact hannounces.ne_nil rfl

/-- Bytes that end too early are not enough to know of damage. -/
theorem CutShort.not_spoilt (h : CutShort bytes) : ¬ Spoilt bytes := by
  cases h with
  | @lengths first rest hfront hshort =>
    -- then nothing is announced
    have hnone : ∀ keyLength valueLength, ¬ Announces bytes keyLength valueLength := by
      intro keyLength valueLength hannounces
      rw [hfront] at hannounces
      have hlength := hannounces.lt_length
      rw [← hannounces.toNat_eq, List.length_cons] at hlength
      omega
    rintro (⟨hannounces, -⟩ | ⟨hannounces, -, -, -⟩)
    · exact hnone _ _ hannounces
    · exact hnone _ _ hannounces
  | fields hannounces hfits hshort =>
    rintro (⟨hother, hlong⟩ | ⟨hother, -, hwhole, -⟩)
    · rw [(hannounces.unique hother).2] at hfits
      exact absurd hlong (Nat.not_lt.2 hfits)
    · rw [(hannounces.unique hother).1, (hannounces.unique hother).2] at hshort
      exact absurd hwhole (Nat.not_le.2 hshort)

/-- Behind damage there may stand anything, and it is no record. -/
theorem Spoilt.stuck (h : Spoilt bytes) : Stuck bytes := by
  rintro record rest rfl
  have hrecord := announces_encode record rest
  cases h with
  | tooLong hannounces hlong =>
    rw [(hannounces.unique hrecord).2] at hlong
    exact absurd record.value_le (Nat.not_le.2 hlong)
  | unreadable hannounces hfits hwhole hrefused =>
    refine hrefused 0 record (Record.decode_eq_ok_iff.2 ?_)
    rw [(hannounces.unique hrecord).1, (hannounces.unique hrecord).2]
    exact List.take_left' record.length_encode

/-- **Where no record begins**, there is nothing, or the bytes end too early, or there is damage. -/
theorem Stuck.cases (h : Stuck bytes) : bytes = [] ∨ CutShort bytes ∨ Spoilt bytes := by
  rcases front_cases bytes with
    hnil | hshort | ⟨keyLength, valueLength, hannounces, hlong | ⟨hfits, hwhole⟩⟩
  · exact .inl hnil
  · exact .inr (.inl hshort)
  · exact .inr (.inr (.tooLong hannounces hlong))
  · refine .inr (.inr (.unreadable hannounces hfits hwhole fun offset record hdecode => ?_))
    refine h record (bytes.drop (Layout.recordSize keyLength valueLength)) ?_
    rw [← Record.decode_eq_ok_iff.1 hdecode, List.take_append_drop]

end Log
end KeyLog
