import CohortDesk.Instant.Printer
import CohortDesk.Screen.Basic
import CohortDesk.Text.Blank
/-!
# The cohort table

The columns of the table, and the screen drawn as text: a header, a rule, one entry per row, a
status line and the error. Entries are padded to the widths of their columns, counted in
characters, and lose their blanks at the end.
-/
namespace CohortDesk

inductive Column
  | name
  | description
  | kind
  | createdAt
  deriving DecidableEq, Repr

namespace Column

def all : List Column := [.name, .description, .kind, .createdAt]

def title : Column → String
  | .name => "Name"
  | .description => "Description"
  | .kind => "Type"
  | .createdAt => "Created"

def editable : Column → Bool
  | .createdAt => false
  | _ => true

def cell (column : Column) (cohort : Cohort) : List Char :=
  match column with
  | .name => cohort.name.toList
  | .description => (cohort.description.getD "").toList
  | .kind => (cohort.kind.getD "").toList
  | .createdAt => (cohort.createdAt.map Instant.cellText).getD []

end Column

namespace Grid

/-- Clicking a column sorts by it. -/
def sortable : Bool := true

/-- The widest column that can be drawn. -/
def widestColumn : Nat := 65535

def gap : List Char := [' ', ' ']

def header : List (List Char) := Column.all.map fun column => column.title.toList

def cells (cohort : Cohort) : List (List Char) := Column.all.map fun column => column.cell cohort

def width (cohorts : List Cohort) (column : Column) : Nat :=
  (cohorts.map fun cohort => (column.cell cohort).length).foldl max column.title.toList.length

def widths (cohorts : List Cohort) : List Nat := Column.all.map (width cohorts)

def rule (columnWidths : List Nat) : List (List Char) :=
  columnWidths.map fun count => List.replicate count '-'

def pad (count : Nat) (text : List Char) : List Char :=
  text ++ List.replicate (count - text.length) ' '

/-- A marker of two characters and the cells, each padded to its column, with gaps between. -/
def fullEntry (columnWidths : List Nat) (marker : List Char) (entryCells : List (List Char)) :
    List Char :=
  marker ++ gap.intercalate (List.zipWith pad columnWidths entryCells)

def entry (columnWidths : List Nat) (marker : List Char) (entryCells : List (List Char)) :
    List Char :=
  Text.trimEnd (fullEntry columnWidths marker entryCells)

/-- A removal in flight shows before a selection. -/
def marker (screen : Screen) (row : Row) : List Char :=
  if row.removing then ['-', ' ']
  else if row.name ∈ screen.selected then ['*', ' ']
  else [' ', ' ']

def headEntries (columnWidths : List Nat) : List (List Char) :=
  [entry columnWidths gap header, entry columnWidths gap (rule columnWidths)]

def rowEntries (screen : Screen) (columnWidths : List Nat) : List (List Char) :=
  screen.rows.map fun row => entry columnWidths (marker screen row) (cells row.cohort)

def noCohorts : List Char := "  (no cohorts)".toList

def tableEntries (screen : Screen) : List (List Char) :=
  let columnWidths := widths screen.cohorts
  headEntries columnWidths ++
    if screen.rows = [] then [noCohorts] else rowEntries screen columnWidths

def number (word : UInt32) : List Char := Text.digits word.toNat

def statusLine (query : Query) : List Char :=
  "page ".toList ++ number query.page ++ " | ".toList ++ number query.limit ++
    " per page | order ".toList ++ query.order.toList ++
    if query.filter = "" then [] else " | filter \"".toList ++ query.filter.toList ++ ['"']

def errorLine (message : String) : List Char := "error: ".toList ++ message.toList

/-- All that is printed, piece by piece; a line break follows each piece. -/
def pieces (screen : Screen) : List (List Char) :=
  tableEntries screen ++ [[], statusLine screen.query] ++
    (screen.error.map errorLine).toList

def drawable (screen : Screen) : Bool :=
  (widths screen.cohorts).all (· ≤ widestColumn)

/-- There is no drawing when a column is too wide. -/
def render? (screen : Screen) : Option (List Char) :=
  if drawable screen then some ((pieces screen).flatMap (· ++ ['\n'])) else none

end Grid

end CohortDesk
