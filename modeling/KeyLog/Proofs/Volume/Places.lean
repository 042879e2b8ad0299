import KeyLog.Volume.Names

/-!
# Where paths lead

A path is walked from the top directory, and only its last name may lead nowhere.  Two things about
the walk matter to whoever keeps a second file beside a first one.

* `Volume.locate_mono`: a path that leads somewhere goes on to lead there as long as no directory is
  taken away, whatever happens to files.  A text is *settled* (`Volume.Settled`) if it does so, or
  leads nowhere for as long.
* `Volume.settled_of_append`: if a text with an addition leads to a name, then it is settled where
  the text itself leads, and not to that name.
* `Volume.settled_append_of_locate`: the other way round, if a text leads to a name, then it is
  settled where the text with an addition leads.
-/

namespace KeyLog

namespace Path

/-! ## Adding to the text of a path -/

/-- Every text has a last piece, which may be empty. -/
theorem exists_last_piece (text : List Char) : ∃ front last, cut text = front ++ [last] := by
  have hne : cut text ≠ [] := by
    cases text with
    | nil => exact List.cons_ne_nil _ _
    | cons c rest =>
      rw [cut]
      split
      · exact List.cons_ne_nil _ _
      · split
        · exact List.cons_ne_nil _ _
        · exact List.cons_ne_nil _ _
  rcases List.eq_nil_or_concat (cut text) with hnil | ⟨front, last, hconcat⟩
  · exact absurd hnil hne
  · exact ⟨front, last, hconcat.trans List.concat_eq_append⟩

/-- Characters without a slash are one piece. -/
theorem cut_of_slash_notMem {text : List Char} (h : '/' ∉ text) : cut text = [text] := by
  induction text with
  | nil => rfl
  | cons c rest ih =>
    rw [List.mem_cons, not_or] at h
    obtain ⟨hc, hrest⟩ := h
    rw [cut, if_neg (Ne.symm hc), ih hrest]

/-- Characters without a slash that are added go to the last piece. -/
theorem cut_append {added : List Char} (hadded : '/' ∉ added) {text : List Char}
    {front : List (List Char)} {last : List Char} (h : cut text = front ++ [last]) :
    cut (text ++ added) = front ++ [last ++ added] := by
  induction text generalizing front last with
  | nil =>
    have hsplit : [] ++ [[]] = front ++ [last] := h
    obtain ⟨hfront, hlast⟩ := List.append_inj' hsplit rfl
    rw [← hfront, ← (List.cons.inj hlast).1]
    exact cut_of_slash_notMem hadded
  | cons c rest ih =>
    obtain ⟨front', last', hrest⟩ := exists_last_piece rest
    rw [cut, hrest] at h
    rw [List.cons_append, cut, ih hrest]
    by_cases hslash : c = '/'
    · rw [if_pos hslash] at h
      rw [if_pos hslash]
      obtain ⟨hfront, hlast⟩ := List.append_inj' (show ([] :: front') ++ [last'] = _ from h) rfl
      rw [← hfront, (List.cons.inj hlast).1, List.cons_append]
    · rw [if_neg hslash] at h
      rw [if_neg hslash]
      cases front' with
      | nil =>
        -- the first piece is also the last one
        obtain ⟨hfront, hlast⟩ := List.append_inj' (show [] ++ [c :: last'] = _ from h) rfl
        rw [← hfront, ← (List.cons.inj hlast).1]
        rfl
      | cons first others =>
        obtain ⟨hfront, hlast⟩ :=
          List.append_inj' (show ((c :: first) :: others) ++ [last'] = _ from h) rfl
        rw [← hfront, (List.cons.inj hlast).1]
        rfl

/-- A text that is a path is cut into its pieces. -/
theorem pieces_of_parse {text : String} {pieces : List String} (h : parse text = .ok pieces) :
    pieces = Path.pieces text := by
  unfold parse at h
  split at h
  · cases h
  split at h
  · cases h
  split at h
  · cases h
  · exact (Except.ok.inj h).symm

/-- A piece that names something: it is not empty and does not mean a directory on the way. -/
structure Proper (piece : String) : Prop where
  ne_empty : piece ≠ ""
  ne_here : piece ≠ "."
  ne_up : piece ≠ ".."

/-- A piece of more than two characters names something. -/
theorem proper_of_length {piece : String} (h : 2 < piece.toList.length) : Proper piece := by
  constructor
  · rintro rfl
    exact absurd h (by decide)
  · rintro rfl
    exact absurd h (by decide)
  · rintro rfl
    exact absurd h (by decide)

end Path

namespace Volume

variable {volume after : Volume}

/-! ## Walking -/

/-- All directories are still there. -/
def KeepsDirectories (volume after : Volume) : Prop :=
  ∀ path, volume.node? path = some .directory → after.node? path = some .directory

theorem KeepsDirectories.trans {later : Volume} (h : volume.KeepsDirectories after)
    (h' : after.KeepsDirectories later) : volume.KeepsDirectories later :=
  fun path hpath => h' path (h path hpath)

/-- What happens at one name, which is no directory, keeps all directories. -/
theorem keepsDirectories_of_ne {path : Path} (hnode : volume.node? path ≠ some .directory)
    (helse : ∀ other, other ≠ path → after.node? other = volume.node? other) :
    volume.KeepsDirectories after := by
  intro other hother
  have hne : other ≠ path := by
    rintro rfl
    exact hnode hother
  rw [helse other hne, hother]

/-- A walk that ends at a name has taken at least one step. -/
theorem walk_ne_nil {here path : Path} {pieces : List String} {asDirectory : Bool}
    (h : volume.walk here pieces = .ok (.name path asDirectory)) : path ≠ [] := by
  induction pieces generalizing here with
  | nil => cases h
  | cons piece rest ih =>
    rw [walk] at h
    split at h
    · exact ih h
    split at h
    · exact ih h
    split at h
    · cases h
      simp
    split at h
    · cases h
    split at h
    · cases h
    · cases h
    · exact ih h

/-- A walk that leads somewhere leads there as long as no directory is taken away. -/
theorem walk_mono (hkeeps : volume.KeepsDirectories after) {here : Path} {pieces : List String}
    {place : Place} (h : volume.walk here pieces = .ok place) :
    after.walk here pieces = .ok place := by
  induction pieces generalizing here with
  | nil => exact h
  | cons piece rest ih =>
    rw [walk] at h
    rw [walk]
    split at h
    next hstay =>
      rw [if_pos hstay]
      exact ih h
    next hstay =>
      rw [if_neg hstay]
      split at h
      next hup =>
        rw [if_pos hup]
        exact ih h
      next hup =>
        rw [if_neg hup]
        split at h
        next hlast =>
          rw [if_pos hlast]
          exact h
        next hlast =>
          rw [if_neg hlast]
          split at h
          · cases h
          next hsize =>
            rw [if_neg hsize]
            split at h
            · cases h
            · cases h
            next hnode =>
              -- the step goes through a directory, which is still there
              rw [hkeeps _ hnode]
              exact ih h

/-- Empty pieces lead nowhere else. -/
theorem walk_append_of_empty {front : List String} (h : front.all String.isEmpty = true)
    (here : Path) (rest : List String) :
    volume.walk here (front ++ rest) = volume.walk here rest := by
  induction front with
  | nil => rfl
  | cons piece front ih =>
    rw [List.all_cons, Bool.and_eq_true] at h
    rw [List.cons_append, walk, if_pos (.inl (String.isEmpty_iff.1 h.1)), ih h.2]

/-- A walk that ends at a proper piece and a walk that ends at another one go through the same
directories, and end at different names. -/
theorem walk_other_last {last other : String} (hlast : Path.Proper last) (hother : other ≠ last)
    {front : List String} {here hidden : Path}
    (h : volume.walk here (front ++ [last]) = .ok (.name hidden false)) :
    ∃ place, volume.walk here (front ++ [other]) = .ok place ∧
      ∀ asDirectory, place ≠ .name hidden asDirectory := by
  have hstay : ¬ (last = "" ∨ last = ".") := by
    rintro (heq | heq)
    · exact hlast.ne_empty heq
    · exact hlast.ne_here heq
  have hend : ∀ here : Path, volume.walk here [last] = .ok (.name (here ++ [last]) false) := by
    intro here
    rw [walk, if_neg hstay, if_neg hlast.ne_up, if_pos (by rfl)]
    rfl
  induction front generalizing here with
  | nil =>
    cases (hend here).symm.trans h
    rw [List.nil_append, walk]
    split
    · exact ⟨.directory, rfl, fun _ heq => nomatch heq⟩
    split
    · exact ⟨.directory, rfl, fun _ heq => nomatch heq⟩
    refine ⟨.name (here ++ [other]) false, rfl, ?_⟩
    intro asDirectory heq
    have hsame : here ++ [other] = here ++ [last] := (Place.name.inj heq).1
    exact hother (List.cons.inj (List.append_cancel_left hsame)).1
  | cons piece front ih =>
    rw [List.cons_append, walk] at h
    rw [List.cons_append, walk]
    split at h
    next hempty =>
      rw [if_pos hempty]
      exact ih h
    next hempty =>
      rw [if_neg hempty]
      split at h
      next hup =>
        rw [if_pos hup]
        exact ih h
      next hup =>
        rw [if_neg hup]
        have hmore : ¬ (front ++ [last]).all String.isEmpty = true := by
          rw [List.all_append, Bool.and_eq_true, not_and]
          rintro - hnone
          exact hlast.ne_empty (by simpa using hnone)
        rw [if_neg hmore] at h
        split at h
        · cases h
        next hsize =>
          split at h
          · cases h
          · cases h
          next hnode =>
            split
            next hnone =>
              -- the other walk is over, and this one goes on below that name
              have hfront : front.all String.isEmpty = true := by
                rw [List.all_append, Bool.and_eq_true] at hnone
                exact hnone.1
              rw [walk_append_of_empty hfront, hend] at h
              cases h
              refine ⟨_, rfl, ?_⟩
              intro asDirectory heq
              have hsame : here ++ [piece] = here ++ [piece] ++ [last] := (Place.name.inj heq).1
              simp at hsame
            next hnone => exact ih h

/-- A walk that ends at a name of a directory ends at another name of it, if its last piece is
replaced by one that names something. -/
theorem walk_of_last {last other name : String} (hother : Path.Proper other) {front : List String}
    {here directory : Path}
    (h : volume.walk here (front ++ [last]) = .ok (.name (directory ++ [name]) false)) :
    last = name ∧
      volume.walk here (front ++ [other]) = .ok (.name (directory ++ [other]) false) := by
  have hstay : ¬ (other = "" ∨ other = ".") := by
    rintro (heq | heq)
    · exact hother.ne_empty heq
    · exact hother.ne_here heq
  induction front generalizing here with
  | nil =>
    rw [List.nil_append, walk] at h
    split at h
    · cases h
    split at h
    · cases h
    rw [if_pos (by rfl)] at h
    have hplace : here ++ [last] = directory ++ [name] := (Place.name.inj (Except.ok.inj h)).1
    obtain ⟨rfl, hlast⟩ := List.append_inj' hplace rfl
    refine ⟨(List.cons.inj hlast).1, ?_⟩
    rw [List.nil_append, walk, if_neg hstay, if_neg hother.ne_up, if_pos (by rfl)]
    rfl
  | cons piece front ih =>
    rw [List.cons_append, walk] at h
    rw [List.cons_append, walk]
    split at h
    next hempty =>
      rw [if_pos hempty]
      exact ih h
    next hempty =>
      rw [if_neg hempty]
      split at h
      next hup =>
        rw [if_pos hup]
        exact ih h
      next hup =>
        rw [if_neg hup]
        split at h
        · -- the text would ask for a directory
          have hslash : (!(front ++ [last]).isEmpty) = false :=
            (Place.name.inj (Except.ok.inj h)).2
          simp at hslash
        have hmore : ¬ (front ++ [other]).all String.isEmpty = true := by
          rw [List.all_append, Bool.and_eq_true, not_and]
          rintro - hnone
          exact hother.ne_empty (by simpa using hnone)
        rw [if_neg hmore]
        split at h
        · cases h
        next hsize =>
          rw [if_neg hsize]
          split at h
          · cases h
          · cases h
          · exact ih h

/-! ## From a text -/

/-- A name that a text leads to is not the top directory. -/
theorem locate_ne_nil {text : String} {path : Path} {asDirectory : Bool}
    (h : volume.locate text = .ok (.name path asDirectory)) : path ≠ [] := by
  unfold locate at h
  split at h
  · cases h
  · exact walk_ne_nil h

/-- A text that leads somewhere leads there as long as no directory is taken away. -/
theorem locate_mono (hkeeps : volume.KeepsDirectories after) {text : String} {place : Place}
    (h : volume.locate text = .ok place) : after.locate text = .ok place := by
  unfold locate at *
  split at h
  · cases h
  · exact walk_mono hkeeps h

/-- A text leads to a place, or nowhere, as long as no directory is taken away. -/
def Settled (volume : Volume) (text : String) (result : Except SystemError Place) : Prop :=
  ∀ after : Volume, volume.KeepsDirectories after → after.locate text = result

theorem Settled.locate {text : String} {result : Except SystemError Place}
    (h : volume.Settled text result) : volume.locate text = result :=
  h volume fun _ hpath => hpath

theorem Settled.mono {text : String} {result : Except SystemError Place}
    (h : volume.Settled text result) (hkeeps : volume.KeepsDirectories after) :
    after.Settled text result :=
  fun later hlater => h later (hkeeps.trans hlater)

/-- A text that leads somewhere is settled. -/
theorem settled_of_locate {text : String} {place : Place} (h : volume.locate text = .ok place) :
    volume.Settled text (.ok place) :=
  fun _ hkeeps => locate_mono hkeeps h

/-- **If a text with an addition leads to a name**, it is settled where the text itself leads, and
not to that name. -/
theorem settled_of_append {text added : String} {hidden : Path} (hslash : '/' ∉ added.toList)
    (hadded : 2 < added.toList.length)
    (h : volume.locate (text ++ added) = .ok (.name hidden false)) :
    ∃ result, volume.Settled text result ∧ ∀ asDirectory, result ≠ .ok (.name hidden asDirectory) := by
  unfold locate at h
  split at h
  · cases h
  next pieces hparse =>
    cases hparseText : Path.parse text with
    | error cause =>
      refine ⟨.error cause, ?_, fun _ heq => nomatch heq⟩
      intro after _
      rw [locate, hparseText]
    | ok piecesText =>
      obtain ⟨front, last, hcut⟩ := Path.exists_last_piece text.toList
      have hlength : 2 < (String.ofList (last ++ added.toList)).toList.length := by
        rw [String.toList_ofList, List.length_append]
        omega
      have hother : String.ofList last ≠ String.ofList (last ++ added.toList) := by
        intro heq
        have hsame := congrArg (List.length ∘ String.toList) heq
        simp only [Function.comp, String.toList_ofList, List.length_append] at hsame
        omega
      rw [Path.pieces_of_parse hparse, Path.pieces, String.toList_append,
        Path.cut_append hslash hcut, List.map_append, List.map_singleton] at h
      obtain ⟨place, hwalk, hplace⟩ := walk_other_last (Path.proper_of_length hlength) hother h
      refine ⟨.ok place, settled_of_locate ?_, fun asDirectory heq => hplace _ (Except.ok.inj heq)⟩
      rw [locate, hparseText, Path.pieces_of_parse hparseText]
      show volume.walk [] (Path.pieces text) = .ok place
      rw [Path.pieces, hcut, List.map_append, List.map_singleton, hwalk]

/-- **If a text leads to a name**, the text with an addition leads to the name with the addition, or
nowhere because it is too long. -/
theorem settled_append_of_locate {text name added : String} {directory : Path}
    (hslash : '/' ∉ added.toList) (hadded : 2 < added.toList.length)
    (h : volume.locate text = .ok (.name (directory ++ [name]) false)) :
    ∃ result, volume.Settled (text ++ added) result ∧ ∀ place asDirectory,
      result = .ok (.name place asDirectory) → place = directory ++ [name ++ added] := by
  cases hparse : Path.parse (text ++ added) with
  | error cause =>
    refine ⟨.error cause, ?_, fun _ _ heq => nomatch heq⟩
    intro after _
    rw [locate, hparse]
  | ok pieces =>
    obtain ⟨front, last, hcut⟩ := Path.exists_last_piece text.toList
    have hother : Path.Proper (String.ofList last ++ added) := by
      refine Path.proper_of_length ?_
      rw [String.toList_append, List.length_append]
      omega
    unfold locate at h
    split at h
    · cases h
    next piecesText hparseText =>
      rw [Path.pieces_of_parse hparseText, Path.pieces, hcut, List.map_append,
        List.map_singleton] at h
      obtain ⟨rfl, hwalk⟩ := walk_of_last hother h
      refine ⟨.ok (.name (directory ++ [String.ofList last ++ added]) false),
        settled_of_locate ?_, ?_⟩
      · rw [locate, hparse, Path.pieces_of_parse hparse]
        show volume.walk [] (Path.pieces (text ++ added)) = _
        rw [Path.pieces, String.toList_append, Path.cut_append hslash hcut, List.map_append,
          List.map_singleton, String.ofList_append, String.ofList_toList, hwalk]
      · intro place asDirectory heq
        cases heq
        rfl

end Volume
end KeyLog
