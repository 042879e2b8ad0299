import KeyLog.Proofs.Log.Announced
import KeyLog.Scanner

/-!
# Sources that end and sources that fail

A source may deliver some bytes, in any pieces and with any interruptions, and then end; or it may
deliver them and then fail.  To whoever asks for bytes that are there this makes no difference, and
the difference shows only in what he is told when they are not.

* `Source.Delivers`: what a source delivers, and what comes then.
* `Source.Delivers.take_of_le`, `Source.Delivers.take_of_lt`: a request, one that the bytes are
  enough for and one that they are not.
* `Scanner.nextRecord_of_encode`, `Scanner.nextRecord_of_nil`, `Scanner.nextRecord_of_cutShort`,
  `Scanner.nextRecord_of_spoilt`: a call of `nextRecord`, by what stands at the front of the bytes
  (`Log.Stuck.cases`).  Each says what is left, also where a fault is reported.
-/

namespace KeyLog
namespace Source

/-- The source delivers some bytes, and then it ends, or fails with a cause. -/
inductive Delivers : Source → Bytes → Option SystemError → Prop
  | ends : Delivers [] [] none
  | fails (cause : SystemError) (after : Source) :
    Delivers (.failure cause :: after) [] (some cause)
  | data (extent : Extent) {rest : Source} {bytes : Bytes} {ending : Option SystemError}
    (later : Delivers rest bytes ending) :
    Delivers (.data extent :: rest) (extent.bytes ++ bytes) ending
  | interruption {rest : Source} {bytes : Bytes} {ending : Option SystemError}
    (later : Delivers rest bytes ending) : Delivers (.interruption :: rest) bytes ending

variable {source : Source} {bytes : Bytes} {ending : Option SystemError} {n : Nat}

/-- A steady source delivers its bytes and ends. -/
theorem delivers_of_steady (h : source.steady = true) : source.Delivers source.bytes none := by
  induction source with
  | nil => exact .ends
  | cons event rest ih =>
    cases event with
    | data extent => exact .data extent (ih h)
    | interruption => exact .interruption (ih h)
    | failure cause => cases h
    | pause => cases h

theorem delivers_ofBytes (bytes : Bytes) : (ofBytes bytes).Delivers bytes none := by
  have hsteady := delivers_of_steady (steady_ofBytes bytes)
  rwa [bytes_ofBytes] at hsteady

/-- And only a steady source delivers some bytes and ends. -/
theorem Delivers.steady (h : source.Delivers bytes none) :
    source.steady = true ∧ source.bytes = bytes := by
  generalize hending : (none : Option SystemError) = ending at h
  induction h with
  | ends => exact ⟨rfl, rfl⟩
  | fails => cases hending
  | data extent later ih => exact ⟨(ih hending).1, congrArg (extent.bytes ++ ·) (ih hending).2⟩
  | interruption later ih => exact ih hending

/-- The number of bytes that are to come is that of the bytes that are delivered, if the source
ends. -/
theorem Delivers.bytesLeft (h : source.Delivers bytes none) :
    source.bytesLeft = bytes.length := by
  generalize hending : (none : Option SystemError) = ending at h
  induction h with
  | ends => rfl
  | fails => cases hending
  | data extent later ih =>
    rw [Source.bytesLeft, ih hending, List.length_append, Extent.length_bytes]
  | interruption later ih => exact ih hending

/-! ## Requests -/

/-- What a request is told when fewer bytes than it asks for are to come: there are no more than
these, or the source has failed. -/
def shortfall (found : Bytes) : Option SystemError → Except SystemError Bytes
  | none => .ok found
  | some cause => .error cause

/-- **A request that the bytes are enough for** gets the first of them, and the others are still to
come. -/
theorem Delivers.take_of_le (h : source.Delivers bytes ending) (hn : n ≤ bytes.length) :
    ∃ after : Source, source.take n = (.ok (bytes.take n), after) ∧
      after.Delivers (bytes.drop n) ending := by
  induction h generalizing n with
  | ends => exact ⟨[], by rw [take, List.take_nil], by rw [List.drop_nil]; exact .ends⟩
  | fails cause after =>
    obtain rfl : n = 0 := Nat.le_zero.1 hn
    exact ⟨.failure cause :: after, rfl, .fails cause after⟩
  | @data extent rest later ending hlater ih =>
    rw [take, Extent.bytes_take, List.length_take]
    by_cases hpiece : n ≤ extent.bytes.length
    · refine ⟨.data (extent.drop n) :: rest, ?_, ?_⟩
      · rw [if_pos (Nat.min_eq_left hpiece), List.take_append_of_le_length hpiece]
      · rw [List.drop_append_of_le_length hpiece, ← Extent.bytes_drop]
        exact .data (extent.drop n) hlater
    · -- the whole piece is taken, and the rest of the request is for the pieces behind it
      have hshort : extent.bytes.length ≤ n := Nat.le_of_not_le hpiece
      rw [List.length_append] at hn
      obtain ⟨after, htake, hafter⟩ := ih (n := n - extent.bytes.length) (by omega)
      refine ⟨after, ?_, ?_⟩
      · rw [if_neg (by omega), Nat.min_eq_right hshort, List.take_of_length_le hshort, htake,
          List.take_append, List.take_of_length_le hshort]
      · rw [List.drop_append, List.drop_eq_nil_of_le hshort, List.nil_append]
        exact hafter
  | @interruption rest bytes ending hlater ih =>
    rw [take]
    by_cases hnone : n = 0
    · subst hnone
      exact ⟨.interruption :: rest, rfl, .interruption hlater⟩
    · rw [if_neg hnone]
      exact ih hn

/-- **A request that the bytes are not enough for** is told that there are no more, or that the source
has failed. -/
theorem Delivers.take_of_lt (h : source.Delivers bytes ending) (hn : bytes.length < n) :
    ∃ after : Source, source.take n = (shortfall bytes ending, after) ∧
      (ending = none → after.Delivers [] none) := by
  induction h generalizing n with
  | ends => exact ⟨[], rfl, fun _ => .ends⟩
  | fails cause after =>
    have hsome : n ≠ 0 := Nat.ne_of_gt hn
    exact ⟨after, by rw [take, if_neg hsome, shortfall], fun hending => nomatch hending⟩
  | @data extent rest later ending hlater ih =>
    rw [List.length_append] at hn
    -- what comes behind the piece is not enough for the rest of the request either
    have hshort : extent.bytes.length ≤ n := by omega
    obtain ⟨after, htake, hafter⟩ := ih (n := n - extent.bytes.length) (by omega)
    refine ⟨after, ?_, hafter⟩
    rw [take, Extent.bytes_take, List.length_take, if_neg (by omega), Nat.min_eq_right hshort,
      List.take_of_length_le hshort, htake]
    cases ending <;> rfl
  | @interruption rest bytes ending hlater ih =>
    rw [take, if_neg (by omega)]
    exact ih hn

end Source

namespace Scanner

variable {scanner : Scanner} {source : Source} {bytes : Bytes} {ending : Option SystemError}
  {n keyLength valueLength : Nat}

/-- What is reported of a record that the source has fewer bytes of than are asked for. -/
def shortage (offset needed found : Nat) : Option SystemError → StoreError
  | none => .corruption offset (.cutShort needed found)
  | some cause => .io cause

theorem demand_of_delivers_le (h : source.Delivers bytes ending) (hn : n ≤ bytes.length)
    (offset : Nat) :
    ∃ after : Source, demand n offset source = (.ok (bytes.take n), after) ∧
      after.Delivers (bytes.drop n) ending := by
  obtain ⟨after, htake, hafter⟩ := h.take_of_le hn
  have hlength : ¬ (bytes.take n).length < n := by
    rw [List.length_take]
    omega
  exact ⟨after, by simp only [demand, htake, if_neg hlength], hafter⟩

theorem demand_of_delivers_lt (h : source.Delivers bytes ending) (hn : bytes.length < n)
    (offset : Nat) :
    ∃ after : Source,
      demand n offset source = (.error (shortage offset n bytes.length ending), after) ∧
        (ending = none → after.Delivers [] none) := by
  obtain ⟨after, htake, hafter⟩ := h.take_of_lt hn
  refine ⟨after, ?_, hafter⟩
  cases ending with
  | none => simp only [demand, htake, Source.shortfall, if_pos hn, shortage]
  | some cause => simp only [demand, htake, Source.shortfall, shortage]

/-! ## One call -/

/-- The key length is there if anything is. -/
theorem take_keyLength {first : UInt8} {rest : Bytes} (h : source.Delivers (first :: rest) ending) :
    ∃ after : Source, source.take Layout.keyLengthWidth = (.ok [first], after) ∧
      after.Delivers rest ending :=
  h.take_of_le (Nat.succ_le_succ (Nat.zero_le _))

/-- Both lengths are there if they are announced. -/
theorem demand_lengths {first : UInt8} {key word rest : Bytes}
    (h : source.Delivers (key ++ (word ++ rest)) ending) (hkey : key.length = first.toNat)
    (hword : word.length = Layout.valueLengthWidth) (offset : Nat) :
    ∃ after : Source,
      demand (first.toNat + Layout.valueLengthWidth) offset source = (.ok (key ++ word), after) ∧
        after.Delivers rest ending := by
  have hlength : (key ++ word).length = first.toNat + Layout.valueLengthWidth := by
    rw [List.length_append, hkey, hword]
  rw [← List.append_assoc] at h
  obtain ⟨after, hdemand, hafter⟩ := demand_of_delivers_le h (n := first.toNat + _) (by
    rw [List.length_append, hlength]
    exact Nat.le_add_right _ _) offset
  rw [List.take_left' hlength] at hdemand
  rw [List.drop_left' hlength] at hafter
  exact ⟨after, hdemand, hafter⟩

/-- **Where nothing stands**, the end is reported, or the failure. -/
theorem nextRecord_of_nil (h : scanner.source.Delivers [] ending) :
    ∃ after, scanner.nextRecord =
      (match (ending : Option SystemError) with
        | none => .ok none
        | some cause => .error (.io cause), { scanner with source := after }) ∧
      (ending = none → after.Delivers [] none) := by
  obtain ⟨after, htake, hafter⟩ := h.take_of_lt (n := Layout.keyLengthWidth) Nat.zero_lt_one
  refine ⟨after, ?_, hafter⟩
  cases ending with
  | none => simp only [nextRecord, demandRecord, htake, Source.shortfall]
  | some cause => simp only [nextRecord, demandRecord, htake, Source.shortfall]

/-- **Where the bytes end too early**, that is reported, or the failure. -/
theorem nextRecord_of_cutShort (h : scanner.source.Delivers bytes ending)
    (hshort : Log.CutShort bytes) :
    ∃ needed found after, scanner.nextRecord =
        (.error (shortage scanner.offset needed found ending), { scanner with source := after }) ∧
      (ending = none → after.Delivers [] none) := by
  cases hshort with
  | @lengths first rest hfront hlengths =>
    rw [hfront] at h
    obtain ⟨middle, htake, hmiddle⟩ := take_keyLength h
    obtain ⟨after, hdemand, hafter⟩ := demand_of_delivers_lt hmiddle hlengths scanner.offset
    exact ⟨first.toNat + Layout.valueLengthWidth, rest.length, after, by
      simp only [nextRecord, demandRecord, htake, demandRest, hdemand], hafter⟩
  | fields hannounces hfits hfields =>
    obtain ⟨first, key, word, rest, rfl, rfl, hkey, hword, rfl⟩ := hannounces
    obtain ⟨middle, htake, hmiddle⟩ := take_keyLength h
    obtain ⟨between, hdemand, hbetween⟩ := demand_lengths hmiddle hkey hword scanner.offset
    have hrest : rest.length < LittleEndian.value word + Layout.checksumWidth := by
      rwa [← Nat.not_le, Log.recordSize_le_iff hkey hword, Nat.not_le] at hfields
    obtain ⟨after, hdemand', hafter⟩ := demand_of_delivers_lt hbetween hrest scanner.offset
    exact ⟨LittleEndian.value word + Layout.checksumWidth, rest.length, after, by
      simp only [nextRecord, demandRecord, htake, demandRest, hdemand, List.drop_left' hkey,
        if_neg (Nat.not_lt.2 hfits), hdemand'], hafter⟩

/-- Where the value is announced as too long, that is reported, and only the lengths and the key
have been taken. -/
theorem nextRecord_of_tooLong (h : scanner.source.Delivers bytes ending)
    (hannounces : Log.Announces bytes keyLength valueLength)
    (hlong : Layout.maxValueSize < valueLength) :
    ∃ (taken : Bytes) (rest : Bytes) (after : Source), bytes = taken ++ rest ∧ taken ≠ [] ∧
      after.Delivers rest ending ∧ scanner.nextRecord =
        (.error (.corruption scanner.offset (.valueTooLong valueLength)),
          { scanner with source := after }) := by
  obtain ⟨first, key, word, rest, rfl, rfl, hkey, hword, rfl⟩ := hannounces
  obtain ⟨middle, htake, hmiddle⟩ := take_keyLength h
  obtain ⟨after, hdemand, hafter⟩ := demand_lengths hmiddle hkey hword scanner.offset
  refine ⟨first :: (key ++ word), rest, after, ?_, List.cons_ne_nil _ _, hafter, ?_⟩
  · rw [List.cons_append, List.append_assoc]
  · simp only [nextRecord, demandRecord, htake, demandRest, hdemand, List.drop_left' hkey,
      if_pos hlong]

/-- Where all that is announced stands, it is taken. -/
theorem demandRecord_of_whole (h : source.Delivers bytes ending)
    (hannounces : Log.Announces bytes keyLength valueLength)
    (hfits : valueLength ≤ Layout.maxValueSize)
    (hwhole : Layout.recordSize keyLength valueLength ≤ bytes.length) (offset : Nat) :
    ∃ after : Source, demandRecord offset source =
        (.ok (some (bytes.take (Layout.recordSize keyLength valueLength))), after) ∧
      after.Delivers (bytes.drop (Layout.recordSize keyLength valueLength)) ending := by
  obtain ⟨first, key, word, rest, rfl, rfl, hkey, hword, rfl⟩ := hannounces
  obtain ⟨middle, htake, hmiddle⟩ := take_keyLength h
  obtain ⟨between, hdemand, hbetween⟩ := demand_lengths hmiddle hkey hword offset
  have hrest := (Log.recordSize_le_iff hkey hword).1 hwhole
  obtain ⟨after, hdemand', hafter⟩ := demand_of_delivers_le hbetween hrest offset
  -- the three pieces are the bytes that are announced
  have hpieces : first :: (key ++ word ++ rest.take (LittleEndian.value word +
      Layout.checksumWidth)) = (first :: (key ++ (word ++ rest))).take
        (Layout.recordSize first.toNat (LittleEndian.value word)) := by
    rw [Log.take_recordSize hkey hword, List.append_assoc, List.take_add]
  have hbehind : rest.drop (LittleEndian.value word + Layout.checksumWidth) =
      (first :: (key ++ (word ++ rest))).drop
        (Layout.recordSize first.toNat (LittleEndian.value word)) := by
    refine (List.append_right_inj (first :: (key ++ word ++ rest.take
      (LittleEndian.value word + Layout.checksumWidth)))).1 ?_
    rw [hpieces, List.take_append_drop, ← hpieces, List.cons_append, List.append_assoc,
      List.take_append_drop, List.append_assoc]
  refine ⟨after, ?_, hbehind ▸ hafter⟩
  simp only [demandRecord, htake, demandRest, hdemand, List.drop_left' hkey,
    if_neg (Nat.not_lt.2 hfits), hdemand', hpieces]

/-- Where all that is announced stands and is no record, the fault is reported, and all of it has
been taken. -/
theorem nextRecord_of_unreadable (h : scanner.source.Delivers bytes ending)
    (hannounces : Log.Announces bytes keyLength valueLength)
    (hfits : valueLength ≤ Layout.maxValueSize)
    (hwhole : Layout.recordSize keyLength valueLength ≤ bytes.length) {error : StoreError}
    (herror : Record.decode scanner.offset
      (bytes.take (Layout.recordSize keyLength valueLength)) = .error error) :
    ∃ after : Source, scanner.nextRecord = (.error error, { scanner with source := after }) ∧
      after.Delivers (bytes.drop (Layout.recordSize keyLength valueLength)) ending := by
  obtain ⟨after, hdemand, hafter⟩ :=
    demandRecord_of_whole h hannounces hfits hwhole scanner.offset
  exact ⟨after, by simp only [nextRecord, hdemand, herror], hafter⟩

/-- **Where there is damage**, it is reported, and something has been taken.  The report never is that
bytes are missing. -/
theorem nextRecord_of_spoilt (h : scanner.source.Delivers bytes ending)
    (hspoilt : Log.Spoilt bytes) :
    ∃ (reason : Corruption) (taken rest : Bytes) (after : Source), bytes = taken ++ rest ∧
      taken ≠ [] ∧ after.Delivers rest ending ∧ reason.isTruncation = false ∧
        scanner.nextRecord = (.error (.corruption scanner.offset reason),
          { scanner with source := after }) := by
  cases hspoilt with
  | tooLong hannounces hlong =>
    obtain ⟨taken, rest, after, hbytes, hsome, hafter, hnext⟩ :=
      nextRecord_of_tooLong h hannounces hlong
    exact ⟨_, taken, rest, after, hbytes, hsome, hafter, rfl, hnext⟩
  | @unreadable keyLength valueLength hannounces hfits hwhole hrefused =>
    cases hdecode : Record.decode scanner.offset
        (bytes.take (Layout.recordSize keyLength valueLength)) with
    | ok record => exact absurd hdecode (hrefused _ _)
    | error error =>
      obtain ⟨after, hnext, hafter⟩ := nextRecord_of_unreadable h hannounces hfits hwhole hdecode
      obtain ⟨reason, rfl, hreason⟩ := hannounces.decode_error hfits hwhole hdecode
      refine ⟨reason, _, _, after, (List.take_append_drop _ _).symm, ?_, hafter, hreason, hnext⟩
      rw [ne_eq, List.take_eq_nil_iff, not_or, Layout.recordSize_eq]
      exact ⟨by omega, hannounces.ne_nil⟩

/-- **Where something stands that is no record**, and the source ends behind it, damage is reported,
and something has been taken. -/
theorem nextRecord_of_stuck (h : scanner.source.Delivers bytes none) (hstuck : Log.Stuck bytes)
    (hsome : bytes ≠ []) :
    ∃ (reason : Corruption) (taken rest : Bytes) (after : Source), bytes = taken ++ rest ∧
      taken ≠ [] ∧ after.Delivers rest none ∧
        scanner.nextRecord = (.error (.corruption scanner.offset reason),
          { scanner with source := after }) := by
  rcases hstuck.cases with hnil | hshort | hspoilt
  · exact absurd hnil hsome
  · obtain ⟨needed, found, after, hnext, hafter⟩ := nextRecord_of_cutShort h hshort
    exact ⟨_, bytes, [], after, (List.append_nil _).symm, hsome, hafter rfl, hnext⟩
  · obtain ⟨reason, taken, rest, after, hbytes, htaken, hafter, -, hnext⟩ :=
      nextRecord_of_spoilt h hspoilt
    exact ⟨reason, taken, rest, after, hbytes, htaken, hafter, hnext⟩

/-- **Where a record stands**, it is handed out. -/
theorem nextRecord_of_encode {record : Record} {rest : Bytes}
    (h : scanner.source.Delivers (record.encode ++ rest) ending) :
    ∃ after : Source, scanner.nextRecord =
        (.ok (some ⟨⟨scanner.offset, record.size⟩, record⟩),
          { scanner with source := after, offset := scanner.offset + record.size }) ∧
      after.Delivers rest ending := by
  have hsize : record.encode.length =
      Layout.recordSize (Utf8.size record.key) (Utf8.size record.value) := record.length_encode
  have hwhole : Layout.recordSize (Utf8.size record.key) (Utf8.size record.value) ≤
      (record.encode ++ rest).length := by
    rw [List.length_append, hsize]
    exact Nat.le_add_right _ _
  obtain ⟨after, hdemand, hafter⟩ := demandRecord_of_whole h (Log.announces_encode record rest)
    record.value_le hwhole scanner.offset
  rw [List.take_left' hsize] at hdemand
  rw [List.drop_left' hsize] at hafter
  refine ⟨after, ?_, hafter⟩
  simp only [nextRecord, hdemand, Record.decode_encode, record.length_encode]

end Scanner
end KeyLog
