import CohortDesk.Grid
import Mathlib.Data.List.Forall2
import Mathlib.Order.Bounds.Defs

/-!
# Widths of columns

A column is as wide as the longest of its title and its cells, counted in characters. A table can be
drawn unless a cell is too long for the widest column.
-/

namespace CohortDesk.Grid

set_option autoImplicit false

/-- Every cell fits into the widest column. -/
def Fits (cohorts : List Cohort) : Prop :=
  ∀ cohort ∈ cohorts, ∀ column : Column, (column.cell cohort).length ≤ widestColumn

/-- How many characters the title and the cells of a column have. -/
def lengths (cohorts : List Cohort) (column : Column) : List Nat :=
  column.title.toList.length :: cohorts.map fun cohort => (column.cell cohort).length

theorem foldl_max_le_iff (values : List Nat) (start bound : Nat) :
    values.foldl max start ≤ bound ↔ start ≤ bound ∧ ∀ value ∈ values, value ≤ bound := by
  induction values generalizing start with
  | nil => simp
  | cons value rest ih =>
      rw [List.foldl_cons, ih, Nat.max_le, List.forall_mem_cons, and_assoc]

theorem foldl_max_mem (values : List Nat) (start : Nat) :
    values.foldl max start ∈ start :: values := by
  induction values generalizing start with
  | nil => exact List.mem_singleton_self start
  | cons value rest ih =>
      rw [List.foldl_cons]
      rcases List.mem_cons.1 (ih (max start value)) with larger | later
      · rw [larger]
        rcases Nat.le_total start value with below | above
        · rw [Nat.max_eq_right below]
          exact List.mem_cons_of_mem _ List.mem_cons_self
        · rw [Nat.max_eq_left above]
          exact List.mem_cons_self
      · exact List.mem_cons_of_mem _ (List.mem_cons_of_mem _ later)

theorem is_greatest_width (cohorts : List Cohort) (column : Column) :
    IsGreatest {count | count ∈ lengths cohorts column} (width cohorts column) := by
  refine ⟨foldl_max_mem _ _, ?_⟩
  intro count member
  have bounds := (foldl_max_le_iff _ _ _).1 (Nat.le_refl (width cohorts column))
  rcases List.mem_cons.1 member with rfl | ofCell
  · exact bounds.1
  · exact bounds.2 count ofCell

theorem length_title_le (cohorts : List Cohort) (column : Column) :
    column.title.toList.length ≤ width cohorts column :=
  (is_greatest_width cohorts column).2 List.mem_cons_self

theorem length_cell_le {cohorts : List Cohort} {cohort : Cohort} (listed : cohort ∈ cohorts)
    (column : Column) : (column.cell cohort).length ≤ width cohorts column :=
  (is_greatest_width cohorts column).2
    (List.mem_cons_of_mem _ (List.mem_map_of_mem listed))

/-- Each cell of an entry fits into its column. -/
def CellsFit (columnWidths : List Nat) (entryCells : List (List Char)) : Prop :=
  List.Forall₂ (fun width cell => cell.length ≤ width) columnWidths entryCells

theorem CellsFit.length_eq {columnWidths : List Nat} {entryCells : List (List Char)}
    (fits : CellsFit columnWidths entryCells) : columnWidths.length = entryCells.length :=
  List.Forall₂.length_eq fits

theorem CellsFit.short {columnWidths : List Nat} {entryCells : List (List Char)}
    (fits : CellsFit columnWidths entryCells) {k width : Nat} {cell : List Char}
    (wide : columnWidths[k]? = some width) (held : entryCells[k]? = some cell) :
    cell.length ≤ width := by
  obtain ⟨insideWidths, rfl⟩ := List.getElem?_eq_some_iff.1 wide
  obtain ⟨insideCells, rfl⟩ := List.getElem?_eq_some_iff.1 held
  exact (List.forall₂_iff_get.1 fits).2 k insideWidths insideCells

theorem columns_fit {cohorts : List Cohort} {text : Column → List Char}
    (short : ∀ column, (text column).length ≤ width cohorts column) :
    CellsFit (widths cohorts) (Column.all.map text) := by
  unfold CellsFit widths
  rw [List.forall₂_map_left_iff, List.forall₂_map_right_iff, List.forall₂_same]
  exact fun column _ => short column

theorem header_fits (cohorts : List Cohort) : CellsFit (widths cohorts) header :=
  columns_fit (length_title_le cohorts)

theorem cells_fit {cohorts : List Cohort} {cohort : Cohort} (listed : cohort ∈ cohorts) :
    CellsFit (widths cohorts) (cells cohort) :=
  columns_fit (length_cell_le listed)

theorem rule_fits (columnWidths : List Nat) : CellsFit columnWidths (rule columnWidths) := by
  unfold CellsFit rule
  rw [List.forall₂_map_right_iff, List.forall₂_same]
  exact fun width _ => Nat.le_of_eq List.length_replicate

theorem title_narrow (column : Column) : column.title.toList.length ≤ widestColumn := by
  cases column <;> decide

theorem width_le_iff (cohorts : List Cohort) (column : Column) :
    width cohorts column ≤ widestColumn ↔
      ∀ cohort ∈ cohorts, (column.cell cohort).length ≤ widestColumn := by
  rw [width, foldl_max_le_iff, List.forall_mem_map]
  exact and_iff_right (title_narrow column)

theorem mem_all (column : Column) : column ∈ Column.all := by
  cases column <;> decide

theorem drawable_iff (screen : Screen) : drawable screen = true ↔ Fits screen.cohorts := by
  simp only [drawable, widths, List.all_map, List.all_eq_true, Function.comp, decide_eq_true_iff,
    width_le_iff]
  constructor
  · intro narrow cohort member column
    exact narrow column (mem_all column) cohort member
  · intro fits column _ cohort member
    exact fits cohort member column

end CohortDesk.Grid
