import CohortDesk.Screen.Event
import CohortDesk.Screen.NameSet
/-!
# The cohorts screen

Everything the screen shows and remembers: the query, the rows with their removal marks, the
selection, the filter panel, the last error, and which request it waits for. A completion reported
by the worker is applied here.
-/
namespace CohortDesk

structure Row where
  cohort : Cohort
  removing : Bool
  deriving DecidableEq

abbrev Row.name (row : Row) : CohortName := row.cohort.name

structure FilterForm where
  draft : String
  dirty : Bool
  deriving DecidableEq, Repr

def FilterForm.fresh : FilterForm := { draft := "", dirty := false }

structure FilterPanel where
  shown : Bool
  form : Option FilterForm
  debounceMs : UInt64
  deriving DecidableEq, Repr

structure ViewOptions where
  pageSize : UInt32
  order : String
  debounceMs : UInt64
  deriving DecidableEq, Repr

def ViewOptions.standard : ViewOptions :=
  { pageSize := Query.defaultLimit, order := Query.defaultOrder, debounceMs := 500 }

structure Screen where
  query : Query
  rows : List Row
  selected : NameSet
  removing : NameSet
  filter : FilterPanel
  error : Option String
  lastRequest : RequestNumber
  pending : Option RequestNumber
  deriving DecidableEq

namespace Screen

def blank (options : ViewOptions) : Screen :=
  { query := { Query.withLimit options.pageSize with order := options.order }
    rows := []
    selected := .empty
    removing := .empty
    filter := { shown := false, form := none, debounceMs := options.debounceMs }
    error := none
    lastRequest := 0
    pending := none }

def cohorts (screen : Screen) : List Cohort := screen.rows.map (·.cohort)

/-- Whether a listing or a removal is in flight. -/
def isBusy (screen : Screen) : Bool := screen.pending.isSome || !screen.removing.isEmpty

def awaits (screen : Screen) (request : RequestNumber) : Bool := screen.pending == some request

/-- Changes the first row that qualifies. -/
def changeFirst (qualifies : Row → Bool) (change : Row → Row) : List Row → List Row
  | [] => []
  | row :: rest =>
    if qualifies row then change row :: rest else row :: changeFirst qualifies change rest

/-- A listing counts only while the screen waits for it. Cohorts that are being removed keep their
mark in a new listing, and a removal failure shown meanwhile is superseded by it. When the worker
has failed, nothing in flight will be answered. -/
def apply (screen : Screen) : Event → Screen
  | .loaded request cohorts =>
    if screen.awaits request then
      { screen with
        pending := none
        error := none
        rows := cohorts.map fun cohort => ⟨cohort, decide (cohort.name ∈ screen.removing)⟩ }
    else screen
  | .loadFailed request notice =>
    if screen.awaits request then { screen with pending := none, error := some notice.message }
    else screen
  | .removed name =>
    { screen with
      removing := screen.removing.erase name
      selected := screen.selected.erase name
      rows := screen.rows.eraseP (·.name == name) }
  | .removeFailed name notice =>
    { screen with
      removing := screen.removing.erase name
      rows := changeFirst (fun row => row.name == name && row.removing)
        (fun row => { row with removing := false }) screen.rows
      error := some notice.message }
  | .workerFailed notice =>
    { screen with
      pending := none
      removing := .empty
      rows := screen.rows.map fun row => { row with removing := false }
      error := some notice.message }

def applyAll (screen : Screen) (events : List Event) : Screen := events.foldl apply screen

end Screen

end CohortDesk
