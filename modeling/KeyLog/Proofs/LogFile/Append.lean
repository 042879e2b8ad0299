import KeyLog.Proofs.LogFile

/-!
# Appends through any handle

A handle counts for itself how long its log is.  When several handles append to one object their
counts fall behind, and nothing brings them back.  This file says what an append does whatever the
handle believes and whatever its object holds.

* `LogFile.append_of_none`: an append that is not cut off adds the record at the end of the object.
  What the handle believes decides what it answers, and nothing that is written.
* `LogFile.append_of_some`: an append that is cut off leaves of the object as many bytes as the
  handle counts.  So what others have added behind them is gone, and a handle that counts more bytes
  than there are leaves what there is.
-/

namespace KeyLog

/-- What comes of giving an object a greater length: nothing, or zeros are added. -/
theorem Volume.resize_of_lt (medium : Medium) {volume : Volume} {object length : Nat}
    (h : volume.size object < length) :
    (∃ cause, volume.resize medium object length = (some cause, volume)) ∨
      ∃ after, volume.resize medium object length = (none, after) ∧
        volume.Within after object ∧ after.size object = length ∧
          ∃ zeros, after.content object = volume.content object ++ zeros := by
  cases hrefuses : medium.refuses (volume.held object).size length with
  | true => exact .inl ⟨.fileTooLarge, by simp only [resize, hrefuses, if_true]⟩
  | false =>
    have hcontent : (volume.put object ((volume.held object).fit length)).content object =
        volume.content object ++ List.replicate (length - (volume.content object).length) 0 := by
      rw [size_eq] at h
      rw [content_put, if_pos rfl, SparseBytes.toBytes_fit]
      exact congrArg (· ++ _) (List.take_of_length_le (Nat.le_of_lt h))
    refine .inr ⟨_, by simp only [resize, hrefuses, Bool.false_eq_true, if_false],
      within_put _ _ _, ?_, _, hcontent⟩
    rw [size_eq] at h
    rw [size_eq, hcontent, List.length_append, List.length_replicate,
      Nat.add_sub_cancel' (Nat.le_of_lt h)]

/-- What happens twice within an object happens within it. -/
theorem Volume.Within.trans {volume after later : Volume} {object : Nat}
    (h : volume.Within after object) (h' : after.Within later object) :
    volume.Within later object := by
  refine ⟨h'.entries.trans h.entries, h'.fresh.trans h.fresh, ?_⟩
  intro other hne
  exact (h'.content other hne).trans (h.content other hne)

namespace LogFile

variable {medium : Medium} {volume : Volume} {file : LogFile} {record : Record}

/-- **An append that is not cut off** adds the record at the end of the object, wherever that is. -/
theorem append_of_none
    (hcut : medium.cutOff file.position (volume.size file.object) record.size = none) :
    ∃ position after, file.append medium volume record =
        (.ok ⟨file.length, record.size⟩,
          { file with length := file.length + record.size, position }, after) ∧
      volume.Within after file.object ∧
        after.content file.object = volume.content file.object ++ record.encode := by
  rw [← Record.length_encode] at hcut
  obtain ⟨after, happend, hwithin, hcontent⟩ := Volume.append_of_none hcut
  obtain ⟨position, hwrote, -⟩ := file.wrote_eq volume after
  exact ⟨position, after, by simp only [append, happend, hwrote], hwithin, hcontent⟩

/-- Taking back what lies behind the count of the handle. -/
theorem rollBack_of_le (hshrinks : medium.Shrinks) (file : LogFile)
    (h : file.length ≤ volume.size file.object) :
    ∃ after, file.rollBack medium volume = (file, after) ∧ volume.Within after file.object ∧
      after.content file.object = (volume.content file.object).take file.length := by
  obtain ⟨after, hresize, hwithin, hcontent⟩ := Volume.resize_of_le hshrinks h
  exact ⟨after, by simp only [rollBack, hresize], hwithin, hcontent⟩

/-- Where nothing lies behind the count of the handle, nothing is taken back.  The gap is filled, or
the handle counts again. -/
theorem rollBack_of_lt (medium : Medium) (file : LogFile)
    (h : volume.size file.object < file.length) :
    ∃ after, file.rollBack medium volume =
        ({ file with length := after.size file.object }, after) ∧
      volume.Within after file.object ∧
        ∃ rest, after.content file.object = volume.content file.object ++ rest := by
  rcases Volume.resize_of_lt medium h with
    ⟨cause, hresize⟩ | ⟨after, hresize, hwithin, hsize, zeros, hcontent⟩
  · exact ⟨volume, by simp only [rollBack, hresize], .refl _ _, [], (List.append_nil _).symm⟩
  · exact ⟨after, by simp only [rollBack, hresize, hsize], hwithin, zeros, hcontent⟩

/-- **An append that is cut off** leaves of the object the bytes that the handle counts, or all of it
where the handle counts more.  Nothing else is touched. -/
theorem append_of_some (hshrinks : medium.Shrinks) {cut : Cut}
    (hcut : medium.cutOff file.position (volume.size file.object) record.size = some cut) :
    ∃ moved after, file.append medium volume record = (.error (.io cut.cause), moved, after) ∧
      volume.Within after file.object ∧ moved.object = file.object ∧
      (file.length ≤ volume.size file.object → moved.length = file.length ∧
        after.content file.object = (volume.content file.object).take file.length) ∧
      (volume.size file.object < file.length → moved.length = after.size file.object ∧
        ∃ rest, after.content file.object = volume.content file.object ++ rest) := by
  rw [← Record.length_encode] at hcut
  obtain ⟨partly, happend, hwithin, hcontent⟩ := Volume.append_of_some hcut
  obtain ⟨position, hwrote, -⟩ := file.wrote_eq volume partly
  have hsize : partly.size file.object =
      volume.size file.object + (record.encode.take cut.stored).length := by
    rw [Volume.size_eq, Volume.size_eq, hcontent, List.length_append]
  rcases Nat.lt_or_ge (partly.size file.object) file.length with hlt | hle
  · -- the handle counts more bytes than there are even now
    obtain ⟨after, hrollBack, hwithin', rest, hrest⟩ :=
      rollBack_of_lt medium { file with position } hlt
    refine ⟨{ file with position, length := after.size file.object }, after,
      by simp only [append, happend, hwrote, hrollBack], hwithin.trans hwithin', rfl, ?_, ?_⟩
    · intro hless
      omega
    · intro _
      exact ⟨rfl, record.encode.take cut.stored ++ rest, by
        rw [← List.append_assoc, ← hcontent, ← hrest]⟩
  · obtain ⟨after, hrollBack, hwithin', hrest⟩ :=
      rollBack_of_le hshrinks { file with position } hle
    have hrest' : after.content file.object =
        (volume.content file.object ++ record.encode.take cut.stored).take file.length := by
      rw [← hcontent]
      exact hrest
    refine ⟨{ file with position }, after,
      by simp only [append, happend, hwrote, hrollBack], hwithin.trans hwithin', rfl, ?_, ?_⟩
    · intro hless
      refine ⟨rfl, ?_⟩
      rw [Volume.size_eq] at hless
      rw [hrest', List.take_append_of_le_length hless]
    · intro hmore
      constructor
      · -- some bytes of the record lie below the count, and the object is cut to the count
        rw [Volume.size_eq, hrest', List.length_take, List.length_append, ← Volume.size_eq, ← hsize,
          Nat.min_eq_left hle]
      · rw [Volume.size_eq] at hmore
        exact ⟨_, by rw [hrest', List.take_append, List.take_of_length_le (Nat.le_of_lt hmore)]⟩

end LogFile
end KeyLog
