import CohortDesk.Grid
import CohortDesk.Proofs.Instant.Text
import Mathlib.Data.List.Forall2

/-!
# What is printed

The texts of a cohort stand in its cells as they are, and nothing for a text that is missing. An
instant stands there as it is written otherwise, without its seconds and with a space for the `T`.
The status line tells the query.
-/

namespace CohortDesk

set_option autoImplicit false

namespace Instant

/-- The cell is the written instant up to its minute, with a space where the `T` stands. -/
def ShownToMinute (instant : Instant) (cell : List Char) : Prop :=
  ∃ date minute seconds : List Char,
    instant.text = date ++ 'T' :: (minute ++ seconds) ∧ cell = date ++ ' ' :: minute ∧
      'T' ∉ date ∧ minute.length = 5

theorem not_mem_date_text (date : Date) : 'T' ∉ date.text := by
  have digits (width value : Nat) : 'T' ∉ Text.padded width value := fun member =>
    absurd (List.all_eq_true.1 (Text.all_is_digit_padded width value) _ member) (by decide)
  have year : 'T' ∉ Calendar.yearText date.year := by
    unfold Calendar.yearText
    split
    · exact digits 4 date.year.natAbs
    · split <;> simp [digits]
  simp [Date.text, year, digits]

theorem length_minute_text (time : TimeOfDay) : time.minuteText.length = 5 := by
  have valid := time.valid
  have hour : (Text.padded 2 time.hour).length = 2 := Text.length_padded (by decide) (by omega)
  have minute : (Text.padded 2 time.minute).length = 2 := Text.length_padded (by decide) (by omega)
  rw [TimeOfDay.minuteText, List.length_append, List.length_cons, hour, minute]

theorem cell_text_shown (instant : Instant) : instant.ShownToMinute instant.cellText := by
  refine ⟨instant.date.text, instant.time.minuteText,
    ':' :: Text.padded 2 instant.time.shownSecond ++ instant.time.fractionText ++ ['Z'],
    ?_, rfl, not_mem_date_text instant.date, length_minute_text instant.time⟩
  simp [text, TimeOfDay.text]

end Instant

/-- What a column shows of a cohort. -/
inductive Column.Shows (cohort : Cohort) : Column → List Char → Prop
  | name : Shows cohort .name cohort.name.toList
  | description {text : String} (given : cohort.description = some text) :
      Shows cohort .description text.toList
  | noDescription (missing : cohort.description = none) : Shows cohort .description []
  | kind {text : String} (given : cohort.kind = some text) : Shows cohort .kind text.toList
  | noKind (missing : cohort.kind = none) : Shows cohort .kind []
  | createdAt {instant : Instant} {cell : List Char} (given : cohort.createdAt = some instant)
      (shown : instant.ShownToMinute cell) : Shows cohort .createdAt cell
  | noCreatedAt (missing : cohort.createdAt = none) : Shows cohort .createdAt []

theorem Column.shows_cell (column : Column) (cohort : Cohort) :
    column.Shows cohort (column.cell cohort) := by
  cases column with
  | name => exact .name
  | description =>
      rw [cell]
      cases given : cohort.description with
      | none => exact .noDescription given
      | some text => exact .description given
  | kind =>
      rw [cell]
      cases given : cohort.kind with
      | none => exact .noKind given
      | some text => exact .kind given
  | createdAt =>
      rw [cell]
      cases given : cohort.createdAt with
      | none => exact .noCreatedAt given
      | some instant => exact .createdAt given instant.cell_text_shown

namespace Grid

/-- Cells that show a cohort, one for each column in their order. -/
def ShowCohort (cohort : Cohort) (shown : List (List Char)) : Prop :=
  List.Forall₂ (Column.Shows cohort) [.name, .description, .kind, .createdAt] shown

theorem cells_show_cohort (cohort : Cohort) : ShowCohort cohort (cells cohort) := by
  unfold ShowCohort cells
  rw [List.forall₂_map_right_iff, Column.all, List.forall₂_same]
  exact fun column _ => column.shows_cell cohort

/-- What the status line tells: the page, how many cohorts there are to a page and the order, and
the filter unless it is empty. -/
inductive ShowsQuery (query : Query) : String → Prop
  | plain (unfiltered : query.filter = "") :
      ShowsQuery query
        ("page " ++ toString query.page ++ " | " ++ toString query.limit ++ " per page | order " ++
          query.order)
  | filtered (given : query.filter ≠ "") :
      ShowsQuery query
        ("page " ++ toString query.page ++ " | " ++ toString query.limit ++ " per page | order " ++
          query.order ++ " | filter \"" ++ query.filter ++ "\"")

theorem toList_toString (word : UInt32) : (toString word).toList = number word := by
  rw [number, Text.digits]
  exact String.toList_ofList

theorem ShowsQuery.of_characters {query : Query} {line : String} {characters : List Char}
    (shows : ShowsQuery query line) (same : line.toList = characters) :
    ShowsQuery query (String.ofList characters) := by
  rwa [← same, String.ofList_toList]

theorem status_line_shows (query : Query) :
    ShowsQuery query (String.ofList (statusLine query)) := by
  have closing : "\"".toList = ['"'] := by decide
  unfold statusLine
  split
  · rename_i unfiltered
    refine (ShowsQuery.plain unfiltered).of_characters ?_
    simp only [String.toList_append, toList_toString, List.append_nil]
  · rename_i given
    refine (ShowsQuery.filtered given).of_characters ?_
    simp only [String.toList_append, toList_toString, closing, List.append_assoc]

end Grid

end CohortDesk
