import CohortDesk.Proofs.Text.Blank

/-!
# Lines of a text

A text printed piece by piece, with a line break behind each piece, has one line for each piece
that holds no line break and more for the others. Trimming the end of a text takes the line breaks
with nothing visible behind them and leaves the others.
-/

namespace CohortDesk.Text

set_option autoImplicit false

/-- A line break with something visible behind it. -/
def BreaksInside (text : List Char) : Prop :=
  ∃ before after, text = before ++ '\n' :: after ∧ after.all isBlank = false

theorem breaks_inside_cons {c : Char} {rest : List Char} :
    BreaksInside (c :: rest) ↔ (c = '\n' ∧ rest.all isBlank = false) ∨ BreaksInside rest := by
  constructor
  · rintro ⟨before, after, split, visible⟩
    cases before with
    | nil =>
        cases split
        exact .inl ⟨rfl, visible⟩
    | cons first before =>
        cases split
        exact .inr ⟨before, after, rfl, visible⟩
  · rintro (⟨rfl, visible⟩ | ⟨before, after, rfl, visible⟩)
    · exact ⟨[], rest, rfl, visible⟩
    · exact ⟨c :: before, after, rfl, visible⟩

theorem breaks_inside_append {front text : List Char} (whole : '\n' ∉ front) :
    BreaksInside (front ++ text) ↔ BreaksInside text := by
  induction front with
  | nil => rfl
  | cons c rest ih =>
      have other : c ≠ '\n' := fun same => whole (same ▸ List.mem_cons_self)
      have later := ih fun member => whole (List.mem_cons_of_mem _ member)
      rw [List.cons_append, breaks_inside_cons, later]
      exact or_iff_right fun here => other here.1

theorem not_breaks_inside {text : List Char} (whole : '\n' ∉ text) : ¬BreaksInside text := by
  rintro ⟨before, after, rfl, -⟩
  exact whole (List.mem_append_right _ List.mem_cons_self)

def withoutSpaces (text : List Char) : List Char := text.filter (· ≠ ' ')

theorem without_spaces_space (rest : List Char) :
    withoutSpaces (' ' :: rest) = withoutSpaces rest :=
  List.filter_cons_of_neg (by decide)

theorem without_spaces_cons {c : Char} (other : c ≠ ' ') (rest : List Char) :
    withoutSpaces (c :: rest) = c :: withoutSpaces rest :=
  List.filter_cons_of_pos (by simpa using other)

theorem without_spaces_append (front back : List Char) :
    withoutSpaces (front ++ back) = withoutSpaces front ++ withoutSpaces back :=
  List.filter_append ..

theorem all_is_blank_without_spaces (text : List Char) :
    (withoutSpaces text).all isBlank = text.all isBlank := by
  induction text with
  | nil => rfl
  | cons c rest ih =>
      by_cases space : c = ' '
      · rw [space, without_spaces_space, ih]
        rfl
      · rw [without_spaces_cons space, List.all_cons, ih, List.all_cons]

theorem breaks_inside_without_spaces {text : List Char} :
    BreaksInside (withoutSpaces text) ↔ BreaksInside text := by
  induction text with
  | nil => rfl
  | cons c rest ih =>
      by_cases space : c = ' '
      · subst space
        rw [without_spaces_space, breaks_inside_cons, ih]
        exact (or_iff_right fun here => absurd here.1 (by decide)).symm
      · rw [without_spaces_cons space, breaks_inside_cons, breaks_inside_cons, ih,
          all_is_blank_without_spaces]

theorem mem_trim_end_iff {text : List Char} : '\n' ∈ trimEnd text ↔ BreaksInside text := by
  obtain ⟨lost, blank, split⟩ := eq_trim_end_append text
  constructor
  · intro member
    obtain ⟨before, after, found⟩ := List.append_of_mem member
    refine ⟨before, after ++ lost, ?_, ?_⟩
    · rw [split, found, List.append_assoc, List.cons_append]
    · rw [List.all_append, blank, Bool.and_true, Bool.eq_false_iff]
      intro unseen
      have stops := trim_end_stops text
      rw [found, List.reverse_append] at stops
      have ended : ('\n' :: after).reverse.all isBlank = true := by
        rw [List.all_reverse, List.all_cons, unseen]
        rfl
      exact absurd (stops.of_append.eq_nil ended) (by simp)
  · rintro ⟨before, after, broken, visible⟩
    rcases List.append_eq_append_iff.1 (split.symm.trans broken) with
      ⟨between, -, behind⟩ | ⟨kept, front, behind⟩
    · rw [behind, List.all_append, List.all_cons, visible] at blank
      simp at blank
    · cases kept with
      | nil =>
          rw [← List.nil_append lost, ← behind, List.all_cons, visible] at blank
          simp at blank
      | cons c others =>
          cases behind
          rw [front]
          exact List.mem_append_right _ List.mem_cons_self

instance (text : List Char) : Decidable (BreaksInside text) :=
  decidable_of_iff _ mem_trim_end_iff

/-- Every line ends in a line break. What follows the last of them is no line. -/
def lines (text : List Char) : List (List Char) := (text.splitOn '\n').dropLast

theorem lines_pieces (pieces : List (List Char)) :
    lines (pieces.flatMap (· ++ ['\n'])) = pieces.flatMap (·.splitOn '\n') := by
  have split :
      (pieces.flatMap (· ++ ['\n'])).splitOn '\n' = pieces.flatMap (·.splitOn '\n') ++ [[]] := by
    induction pieces with
    | nil => rfl
    | cons piece rest ih =>
        rw [List.flatMap_cons, List.append_assoc, List.singleton_append,
          List.splitOn_append_cons_self, ih, List.flatMap_cons, List.append_assoc]
  rw [lines, split, List.dropLast_concat]

theorem flatMap_splitOn_of_whole {pieces : List (List Char)}
    (whole : ∀ piece ∈ pieces, '\n' ∉ piece) : pieces.flatMap (·.splitOn '\n') = pieces := by
  induction pieces with
  | nil => rfl
  | cons piece rest ih =>
      obtain ⟨here, later⟩ := List.forall_mem_cons.1 whole
      rw [List.flatMap_cons, List.splitOn_eq_singleton here, ih later]
      rfl

theorem length_splitOn_pos (text : List Char) : 0 < (text.splitOn '\n').length :=
  List.length_pos_iff.2 (List.splitOn_ne_nil '\n' text)

theorem length_splitOn_of_mem {text : List Char} (broken : '\n' ∈ text) :
    2 ≤ (text.splitOn '\n').length := by
  obtain ⟨before, after, rfl⟩ := List.append_of_mem broken
  have first := length_splitOn_pos before
  have second := length_splitOn_pos after
  rw [List.splitOn_append_cons_self, List.length_append]
  omega

theorem length_le_flatMap_splitOn (pieces : List (List Char)) :
    pieces.length ≤ (pieces.flatMap (·.splitOn '\n')).length := by
  induction pieces with
  | nil => exact Nat.le_refl 0
  | cons piece rest ih =>
      have here := length_splitOn_pos piece
      rw [List.flatMap_cons, List.length_append, List.length_cons]
      omega

/-- Pieces that make no more lines than they are hold no line break. -/
theorem whole_of_length_flatMap_splitOn {pieces : List (List Char)}
    (few : (pieces.flatMap (·.splitOn '\n')).length ≤ pieces.length) :
    ∀ piece ∈ pieces, '\n' ∉ piece := by
  induction pieces with
  | nil => exact fun _ member => nomatch member
  | cons piece rest ih =>
      have later := length_le_flatMap_splitOn rest
      have here := length_splitOn_pos piece
      rw [List.flatMap_cons, List.length_append, List.length_cons] at few
      refine List.forall_mem_cons.2 ⟨fun broken => ?_, ih (by omega)⟩
      have more := length_splitOn_of_mem broken
      omega

end CohortDesk.Text
