import CohortDesk.Screen.Basic
/-!
# The desk

The screen together with the queue it fills. Gestures edit the query, the filter panel and the
selection, and queue commands; a command the queue refuses leaves the queue's message as the error.
-/
namespace CohortDesk

structure Desk where
  screen : Screen
  queue : CommandQueue
  deriving DecidableEq

inductive Gesture
  | search (predicate : String)
  | sort (order : String)
  | turnTo (page : UInt32)
  | resize (limit : UInt32)
  | refresh
  | showFilter
  | editFilter (text : String)
  | removeFilter
  | remove (name : CohortName)
  | toggle (name : CohortName)
  deriving DecidableEq, Repr

/-- What a gesture reports: the number of the request it queued, a verdict, or nothing. -/
inductive Response
  | requested (request : Option RequestNumber)
  | verdict (holds : Bool)
  | nothing
  deriving DecidableEq, Repr

namespace Desk

/-- Asks for a listing. A refused attempt uses up its number, and the screen then waits for no
listing at all. -/
def fetch (desk : Desk) (query : Option Query) : Desk × Option RequestNumber :=
  let request := desk.screen.lastRequest + 1
  match desk.queue.offer (.fetch request query) with
  | .ok queue =>
    ({ screen := { desk.screen with error := none, lastRequest := request, pending := some request }
       queue }, some request)
  | .error fault =>
    ({ desk with
       screen := { desk.screen with
         error := some fault.message, lastRequest := request, pending := none } }, none)

/-- A new desk asks for the listing without any query. -/
def start (queue : CommandQueue) (options : ViewOptions) : Desk :=
  (fetch { screen := .blank options, queue } none).1

def changeQuery (desk : Desk) (change : Query → Query) : Desk :=
  { desk with screen := { desk.screen with query := change desk.screen.query } }

def changeFilter (desk : Desk) (change : FilterPanel → FilterPanel) : Desk :=
  { desk with screen := { desk.screen with filter := change desk.screen.filter } }

def refresh (desk : Desk) : Desk × Option RequestNumber := desk.fetch (some desk.screen.query)

def search (desk : Desk) (predicate : String) : Desk × Option RequestNumber :=
  (desk.changeQuery fun query => { query with filter := predicate }).refresh

def sort (desk : Desk) (order : String) : Desk × Option RequestNumber :=
  (desk.changeQuery fun query => { query with order }).refresh

def turnTo (desk : Desk) (page : UInt32) : Desk × Option RequestNumber :=
  (desk.changeQuery fun query => { query with page }).refresh

/-- A new page size starts over at the first page. -/
def resize (desk : Desk) (limit : UInt32) : Desk × Option RequestNumber :=
  (desk.changeQuery fun query => { query with limit, page := Query.firstPage }).refresh

def showFilter (desk : Desk) : Desk :=
  desk.changeFilter fun panel =>
    { panel with shown := true, form := some (panel.form.getD .fresh) }

def editFilter (desk : Desk) (text : String) : Desk :=
  desk.changeFilter fun panel => { panel with form := some { draft := text, dirty := true } }

/-- Hides the panel, drops the predicate and clears a form that was edited. Nothing is fetched. -/
def removeFilter (desk : Desk) : Desk :=
  (desk.changeFilter fun panel =>
    { panel with
      shown := false
      form := panel.form.map fun form => if form.dirty then .fresh else form }).changeQuery
    fun query => { query with filter := "" }

/-- Asks for the removal of a cohort on the screen that is not being removed already. The row stays
until the removal is confirmed. -/
def remove (desk : Desk) (name : CohortName) : Desk × Bool :=
  let screen := desk.screen
  if name ∈ screen.removing then (desk, false)
  else if screen.rows.any (·.name == name) then
    match desk.queue.offer (.remove name) with
    | .ok queue =>
      ({ screen := { screen with
           rows := Screen.changeFirst (·.name == name) (fun row => { row with removing := true })
             screen.rows
           removing := screen.removing.insert name }
         queue }, true)
    | .error fault => ({ desk with screen := { screen with error := some fault.message } }, false)
  else (desk, false)

/-- Whether the name is selected afterwards. -/
def toggle (desk : Desk) (name : CohortName) : Desk × Bool :=
  let selected := desk.screen.selected
  if name ∈ selected then
    ({ desk with screen := { desk.screen with selected := selected.erase name } }, false)
  else ({ desk with screen := { desk.screen with selected := selected.insert name } }, true)

def perform (desk : Desk) : Gesture → Desk × Response
  | .search predicate => (desk.search predicate).map id .requested
  | .sort order => (desk.sort order).map id .requested
  | .turnTo page => (desk.turnTo page).map id .requested
  | .resize limit => (desk.resize limit).map id .requested
  | .refresh => desk.refresh.map id .requested
  | .showFilter => (desk.showFilter, .nothing)
  | .editFilter text => (desk.editFilter text, .nothing)
  | .removeFilter => (desk.removeFilter, .nothing)
  | .remove name => (desk.remove name).map id .verdict
  | .toggle name => (desk.toggle name).map id .verdict

def apply (desk : Desk) (event : Event) : Desk := { desk with screen := desk.screen.apply event }

end Desk

end CohortDesk
