import CohortDesk.Program
import CohortDesk.Proofs.Grid.Alignment
import CohortDesk.Proofs.Grid.Content

/-!
# The printed page

What a screen at rest shows: the query, the cohorts and the last error, with no cohort marked. A
run prints its page unless a cell is too long for the widest column.
-/

namespace CohortDesk

set_option autoImplicit false

/-- Rows without a mark. -/
def Screen.unmarked (cohorts : List Cohort) : List Row :=
  cohorts.map fun cohort => ⟨cohort, false⟩

@[ext] structure Page where
  query : Query
  cohorts : List Cohort
  error : Option String
  deriving DecidableEq

namespace Page

/-- The page as a screen that waits for nothing. -/
def screen (options : ViewOptions) (last : RequestNumber) (page : Page) : Screen :=
  { Screen.blank options with
    query := page.query
    rows := Screen.unmarked page.cohorts
    error := page.error
    lastRequest := last }

/-- The table of the cohorts, or the remark that there are none. -/
def table (page : Page) : List (List Char) :=
  let columnWidths := Grid.widths page.cohorts
  Grid.headEntries columnWidths ++
    if page.cohorts = [] then [Grid.noCohorts]
    else page.cohorts.map fun cohort => Grid.entry columnWidths Grid.gap (Grid.cells cohort)

def body (page : Page) : List (List Char) := page.table ++ [[], Grid.statusLine page.query]

def pieces (page : Page) : List (List Char) :=
  page.body ++ (page.error.map Grid.errorLine).toList

def printed (pieces : List (List Char)) : String := String.ofList (pieces.flatMap (· ++ ['\n']))

def text (page : Page) : String := printed page.pieces

/-- What a text tells of a page: the titles and a rule, an entry for each cohort in their order, or
the remark that there are none, an empty line, the query, and the error, if there is one. -/
def Tells (page : Page) (text : String) : Prop :=
  let columnWidths := Grid.widths page.cohorts
  ∃ (titles dashes : List Char) (entries : List (List Char)) (status : String),
    text =
        printed ([titles, dashes] ++ (if page.cohorts = [] then [Grid.noCohorts] else entries) ++
          [[], status.toList] ++ (page.error.map Grid.errorLine).toList) ∧
      Grid.Aligned columnWidths [' ', ' '] Grid.header titles ∧
      Grid.Aligned columnWidths [' ', ' '] (Grid.rule columnWidths) dashes ∧
      List.Forall₂
        (fun cohort shown => ∃ cells, Grid.ShowCohort cohort cells ∧
          Grid.Aligned columnWidths [' ', ' '] cells shown)
        page.cohorts entries ∧
      Grid.ShowsQuery page.query status

/-- How a run ends that prints the page: the error on it is the run's own. -/
def outcome (page : Page) : Outcome :=
  .finished page.text (page.error.map fun message => { message, cause := none })

variable (options : ViewOptions) (last : RequestNumber) (page : Page)

@[simp] theorem screen_cohorts : (page.screen options last).cohorts = page.cohorts := by
  simp only [screen, Screen.unmarked, Screen.cohorts, List.map_map, Function.comp_def, List.map_id']

/-- No row of the page's screen has a mark, so all of them are printed alike. -/
theorem screen_pieces : Grid.pieces (page.screen options last) = page.pieces := by
  have unmarked (columnWidths : List Nat) :
      Grid.rowEntries (page.screen options last) columnWidths =
        page.cohorts.map fun cohort =>
          Grid.entry columnWidths Grid.gap (Grid.cells cohort) := by
    simp only [Grid.rowEntries, screen, Screen.unmarked, List.map_map]
    refine List.map_congr_left fun cohort _ => ?_
    rfl
  have empty : (page.screen options last).rows = [] ↔ page.cohorts = [] := List.map_eq_nil_iff
  have drawn : Grid.tableEntries (page.screen options last) = page.table := by
    simp only [Grid.tableEntries, table, screen_cohorts, unmarked, empty]
  rw [Grid.pieces, drawn]
  rfl

theorem text_tells : page.Tells page.text := by
  let columnWidths := Grid.widths page.cohorts
  have entries : List.Forall₂
      (fun cohort shown => ∃ cells, Grid.ShowCohort cohort cells ∧
        Grid.Aligned columnWidths [' ', ' '] cells shown)
      page.cohorts
      (page.cohorts.map fun cohort => Grid.entry columnWidths Grid.gap (Grid.cells cohort)) := by
    rw [List.forall₂_map_right_iff, List.forall₂_same]
    exact fun cohort listed => ⟨Grid.cells cohort, Grid.cells_show_cohort cohort,
      Grid.aligned_entry rfl (Grid.cells_fit listed) Grid.gap_spaced⟩
  refine ⟨Grid.entry columnWidths Grid.gap Grid.header,
    Grid.entry columnWidths Grid.gap (Grid.rule columnWidths), _,
    String.ofList (Grid.statusLine page.query), ?_,
    Grid.aligned_entry rfl (Grid.header_fits page.cohorts) Grid.gap_spaced,
    Grid.aligned_entry rfl (Grid.rule_fits columnWidths) Grid.gap_spaced, entries,
    Grid.status_line_shows page.query⟩
  rw [String.toList_ofList]
  rfl

theorem shown_of_fits (fits : Grid.Fits page.cohorts) :
    Program.shown (page.screen options last) = page.outcome := by
  have drawable : Grid.drawable (page.screen options last) = true := by
    rw [Grid.drawable_iff, screen_cohorts]
    exact fits
  rw [Program.shown, Grid.render?, if_pos drawable, screen_pieces]
  rfl

theorem shown_eq_crashed_iff :
    Program.shown (page.screen options last) = .crashed ↔ ¬Grid.Fits page.cohorts := by
  constructor
  · intro crashed fits
    rw [shown_of_fits options last page fits] at crashed
    cases crashed
  · intro wide
    have stuck : ¬Grid.drawable (page.screen options last) = true := by
      rw [Grid.drawable_iff, screen_cohorts]
      exact wide
    rw [Program.shown, Grid.render?, if_neg stuck]

variable {page}

theorem exit_code_eq_zero_iff : page.outcome.exitCode = 0 ↔ page.error = none := by
  unfold outcome
  cases page.error with
  | none => exact iff_of_true rfl rfl
  | some message => simp only [Option.map_some, Outcome.exitCode, reduceCtorEq, iff_false]; decide

theorem printed_error_line (above : List (List Char)) (message : String) :
    printed (above ++ [Grid.errorLine message]) =
      printed above ++ "error: " ++ message ++ "\n" := by
  have line : Grid.errorLine message = "error: ".toList ++ message.toList := by
    unfold Grid.errorLine
    exact Eq.refl _
  have broken : "\n".toList = ['\n'] := by decide
  apply String.toList_inj.mp
  rw [printed, printed, String.toList_append, String.toList_append, String.toList_append,
    String.toList_ofList, String.toList_ofList, List.flatMap_append, List.flatMap_singleton, line,
    broken, List.append_assoc, List.append_assoc, List.append_assoc]

theorem complaint?_outcome : page.outcome.complaint?.map (·.message) = page.error := by
  rw [outcome, Outcome.complaint?, Option.map_map]
  exact Option.map_id'

/-- The error closes the page and is the complaint of the run. -/
theorem outcome_of_error {message : String} (shown : page.error = some message) :
    page.outcome.exitCode = 1 ∧ page.outcome.complaint? = some { message, cause := none } ∧
      page.outcome.output = printed page.body ++ "error: " ++ message ++ "\n" := by
  have pieces : page.pieces = page.body ++ [Grid.errorLine message] := by
    rw [Page.pieces, shown]
    rfl
  refine ⟨?_, ?_, ?_⟩
  · rw [outcome, shown]
    rfl
  · rw [outcome, shown]
    rfl
  · rw [outcome, Outcome.output, text, pieces, printed_error_line]

/-- The page of a run without a service. -/
example :
    (Page.mk Query.initial [] (some Failure.unavailable.message)).outcome =
      .finished
        ("  Name  Description  Type  Created\n" ++
          "  ----  -----------  ----  -------\n" ++
          "  (no cohorts)\n\n" ++
          "page 1 | 5 per page | order name\n" ++
          "error: cohort service unavailable\n")
        (some { message := "cohort service unavailable", cause := none }) := by
  decide +kernel

end Page

end CohortDesk
