import CohortDesk.Desk
import CohortDesk.Proofs.Grid.Alignment
import CohortDesk.Proofs.Text.Lines

/-!
# Lines of a drawing

The texts of a cohort are printed as they are, line breaks included, so a row takes more lines than
one exactly when its cells hold a line break with something visible behind it. All else that is
printed takes one line each, if the query and the error do.
-/

namespace CohortDesk.Grid

set_option autoImplicit false

section

variable {columnWidths : List Nat} {marker : List Char} {entryCells : List (List Char)}

theorem without_spaces_pad (count : Nat) (text : List Char) :
    Text.withoutSpaces (pad count text) = Text.withoutSpaces text := by
  have spaces : Text.withoutSpaces (List.replicate (count - text.length) ' ') = [] := by
    simp [Text.withoutSpaces]
  rw [pad, Text.without_spaces_append, spaces, List.append_nil]

theorem without_spaces_segments (fits : CellsFit columnWidths entryCells) :
    Text.withoutSpaces (segments columnWidths entryCells).flatten =
      Text.withoutSpaces entryCells.flatten := by
  induction fits with
  | nil => rfl
  | cons _ _ ih =>
      unfold segments at ih ⊢
      rw [List.zipWith_cons_cons, List.map_cons, List.flatten_cons, Text.without_spaces_append,
        Text.without_spaces_append, without_spaces_pad, ih, List.flatten_cons,
        Text.without_spaces_append]
      exact congrArg (· ++ _) (List.append_nil _)

/-- Padding and gaps bring no line break into an entry, and nothing visible. -/
theorem newline_mem_entry_iff (spaced : Spaced marker) (fits : CellsFit columnWidths entryCells) :
    '\n' ∈ entry columnWidths marker entryCells ↔ Text.BreaksInside entryCells.flatten := by
  have whole : '\n' ∉ marker := by
    intro member
    cases spaced '\n' member rfl
  obtain ⟨rest, either, full⟩ := exists_laid_out_eq columnWidths marker entryCells
  have blank : Text.withoutSpaces rest = [] := by
    rcases either with rfl | rfl <;> rfl
  have same :
      Text.withoutSpaces (fullEntry columnWidths marker entryCells) =
        Text.withoutSpaces (marker ++ entryCells.flatten) := by
    have laid := congrArg Text.withoutSpaces full
    rw [laidOut, Text.without_spaces_append, without_spaces_segments fits,
      Text.without_spaces_append, blank, List.append_nil] at laid
    rw [← laid, Text.without_spaces_append]
  rw [entry, Text.mem_trim_end_iff, ← Text.breaks_inside_without_spaces, same,
    Text.breaks_inside_without_spaces, Text.breaks_inside_append whole]

end

theorem newline_not_mem_head_entries (cohorts : List Cohort) :
    ∀ piece ∈ headEntries (widths cohorts), '\n' ∉ piece := by
  have titles : '\n' ∉ header.flatten := by decide
  have dashes : '\n' ∉ (rule (widths cohorts)).flatten := by
    simp [rule]
  unfold headEntries
  rw [List.forall_mem_cons, List.forall_mem_singleton,
    newline_mem_entry_iff gap_spaced (header_fits _),
    newline_mem_entry_iff gap_spaced (rule_fits _)]
  exact ⟨Text.not_breaks_inside titles, Text.not_breaks_inside dashes⟩

theorem newline_not_mem_number (word : UInt32) : '\n' ∉ number word := by
  intro member
  have digit := List.all_eq_true.1 (Text.all_is_digit_digits word.toNat) _ member
  cases digit

theorem newline_not_mem_status_line {query : Query} (order : '\n' ∉ query.order.toList)
    (filter : '\n' ∉ query.filter.toList) : '\n' ∉ statusLine query := by
  have page := newline_not_mem_number query.page
  have limit := newline_not_mem_number query.limit
  unfold statusLine
  split <;> simp [page, limit, order, filter]

theorem newline_not_mem_error_line {message : String} (whole : '\n' ∉ message.toList) :
    '\n' ∉ errorLine message := by
  unfold errorLine
  rw [List.mem_append]
  rintro (label | inside)
  · exact absurd label (by decide)
  · exact whole inside

theorem newline_mem_row_iff {screen : Screen} {row : Row} (shown : row ∈ screen.rows) :
    '\n' ∈ entry (widths screen.cohorts) (marker screen row) (cells row.cohort) ↔
      Text.BreaksInside (cells row.cohort).flatten :=
  newline_mem_entry_iff (marker_shape screen row).2 (cells_fit (List.mem_map_of_mem shown))

/-- The entries below the rule. -/
def body (screen : Screen) : List (List Char) :=
  if screen.rows = [] then [noCohorts] else rowEntries screen (widths screen.cohorts)

/-- What is printed below the table. -/
def closing (screen : Screen) : List (List Char) :=
  [[], statusLine screen.query] ++ (screen.error.map errorLine).toList

theorem length_body (screen : Screen) : (body screen).length = max 1 screen.rows.length := by
  unfold body
  split
  · rename_i empty
    rw [empty]
    rfl
  · rename_i some
    have positive := List.length_pos_iff.2 some
    rw [rowEntries, List.length_map]
    omega

theorem body_getElem? {screen : Screen} {k : Nat} {row : Row} (here : screen.rows[k]? = some row) :
    (body screen)[k]? =
      some (entry (widths screen.cohorts) (marker screen row) (cells row.cohort)) := by
  have some : screen.rows ≠ [] := by
    rintro empty
    rw [empty] at here
    cases here
  rw [body, if_neg some, rowEntries, List.getElem?_map, here]
  rfl

/-- No entry below the rule holds a line break if no row is broken by its cells. -/
theorem whole_body_iff (screen : Screen) :
    (∀ piece ∈ body screen, '\n' ∉ piece) ↔
      ∀ row ∈ screen.rows, ¬Text.BreaksInside (cells row.cohort).flatten := by
  unfold body
  split
  · rename_i empty
    rw [empty, List.forall_mem_singleton]
    exact iff_of_true (by decide) fun _ member => nomatch member
  · rw [rowEntries, List.forall_mem_map]
    exact forall₂_congr fun row shown => not_congr (newline_mem_row_iff shown)

section

variable {screen : Screen} {text : List Char}

theorem lines_of_drawn (drawn : render? screen = some text)
    (order : '\n' ∉ screen.query.order.toList) (filter : '\n' ∉ screen.query.filter.toList)
    (error : ∀ message ∈ screen.error, '\n' ∉ message.toList) :
    Text.lines text =
      headEntries (widths screen.cohorts) ++ (body screen).flatMap (·.splitOn '\n') ++
        closing screen := by
  have printed :
      text =
        (headEntries (widths screen.cohorts) ++ body screen ++ closing screen).flatMap
          (· ++ ['\n']) := by
    rw [render?] at drawn
    split at drawn
    · rw [← Option.some.inj drawn, pieces, tableEntries, closing, List.append_assoc _ [_, _]]
      rfl
    · cases drawn
  have below : ∀ piece ∈ closing screen, '\n' ∉ piece := by
    intro piece member
    simp only [closing, List.mem_append, List.mem_cons, List.not_mem_nil, or_false,
      Option.mem_toList, Option.map_eq_some_iff] at member
    rcases member with (rfl | rfl) | ⟨message, present, rfl⟩
    · exact List.not_mem_nil
    · exact newline_not_mem_status_line order filter
    · exact newline_not_mem_error_line (error message present)
  rw [printed, Text.lines_pieces, List.flatMap_append, List.flatMap_append,
    Text.flatMap_splitOn_of_whole (newline_not_mem_head_entries _),
    Text.flatMap_splitOn_of_whole below]

end

/-- The lines of a drawing: two at the top, then one for each row in the order of the rows, or one
remark that there are none, an empty one, the status and the error, if there is one. -/
def LineForLine (screen : Screen) (text : List Char) : Prop :=
  ∃ top table : List (List Char),
    Text.lines text =
        top ++ table ++ [[], statusLine screen.query] ++ (screen.error.map errorLine).toList ∧
      top.length = 2 ∧ table.length = max 1 screen.rows.length ∧
      ∀ (k : Nat) (row : Row), screen.rows[k]? = some row →
        table[k]? =
          some (entry (widths screen.cohorts) (marker screen row) (cells row.cohort))

/-- With no line break in the query and in the error, every row takes exactly one line unless the
cells of a row, one after the other, hold a line break with something visible behind it. -/
theorem rows_take_one_line_unless_broken {screen : Screen} {text : List Char}
    (drawn : render? screen = some text)
    (order : '\n' ∉ screen.query.order.toList) (filter : '\n' ∉ screen.query.filter.toList)
    (error : ∀ message ∈ screen.error, '\n' ∉ message.toList) :
    LineForLine screen text ↔
      ∀ row ∈ screen.rows, ¬Text.BreaksInside (cells row.cohort).flatten := by
  have found := lines_of_drawn drawn order filter error
  rw [← whole_body_iff]
  constructor
  · rintro ⟨top, table, split, two, count, -⟩
    apply Text.whole_of_length_flatMap_splitOn
    have size := congrArg List.length (found.symm.trans split)
    have head : (headEntries (widths screen.cohorts)).length = 2 := rfl
    simp only [closing, List.length_append, head, two, count] at size
    rw [length_body]
    omega
  · intro whole
    refine ⟨headEntries (widths screen.cohorts), body screen, ?_, rfl, length_body screen, ?_⟩
    · rw [found, Text.flatMap_splitOn_of_whole whole, closing, ← List.append_assoc]
    · exact fun k row here => body_getElem? here

/-- A line break at the end of a name is trimmed off, with nothing behind it in its row. -/
theorem trailing_break_keeps_its_line :
    let screen :=
      { Screen.blank .standard with
        rows := [⟨.named "a\n", false⟩, ⟨{ Cohort.named "b" with kind := some "x" }, true⟩]
        error := some "lost" }
    let text :=
      ("  Name  Description  Type  Created\n" ++ "  ----  -----------  ----  -------\n" ++
        "  a\n" ++ "- b                  x\n" ++ "\n" ++ "page 1 | 5 per page | order name\n" ++
        "error: lost\n").toList
    render? screen = some text ∧ '\n' ∉ screen.query.order.toList ∧
      '\n' ∉ screen.query.filter.toList ∧ (∀ message ∈ screen.error, '\n' ∉ message.toList) ∧
      LineForLine screen text := by
  intro screen text
  have drawn : render? screen = some text := by decide +kernel
  have order : '\n' ∉ screen.query.order.toList := by decide
  have filter : '\n' ∉ screen.query.filter.toList := by decide
  have error : ∀ message ∈ screen.error, '\n' ∉ message.toList := by
    rintro message ⟨⟩
    decide
  have unbroken : ∀ row ∈ screen.rows, ¬Text.BreaksInside (cells row.cohort).flatten := by
    decide +kernel
  exact ⟨drawn, order, filter, error,
    (rows_take_one_line_unless_broken drawn order filter error).2 unbroken⟩

/-- A listed name with a line break in it takes two lines. -/
theorem broken_name_takes_two_lines :
    let screen := ((Desk.start (.empty 16) .standard).apply (.loaded 1 [.named "a\nb"])).screen
    let text :=
      ("  Name  Description  Type  Created\n" ++ "  ----  -----------  ----  -------\n" ++
        "  a\nb\n" ++ "\n" ++ "page 1 | 5 per page | order name\n").toList
    render? screen = some text ∧ '\n' ∉ screen.query.order.toList ∧
      '\n' ∉ screen.query.filter.toList ∧ screen.error = none ∧ ¬LineForLine screen text := by
  intro screen text
  refine ⟨by decide +kernel, by decide, by decide, rfl, ?_⟩
  rintro ⟨top, table, split, two, one, -⟩
  have six : (Text.lines text).length = 6 := by decide +kernel
  have single : max 1 screen.rows.length = 1 := by decide
  have silent : (screen.error.map errorLine).toList.length = 0 := rfl
  rw [split, List.length_append, List.length_append, List.length_append, two, one, single,
    silent] at six
  cases six

end CohortDesk.Grid
