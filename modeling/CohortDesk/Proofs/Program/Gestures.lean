import CohortDesk.Proofs.Desk.Requests
import CohortDesk.Proofs.Desk.Shown
import CohortDesk.Proofs.Program.Page

/-!
# The gestures of a run

A run makes one gesture after the other and waits for each answer, so between two gestures the desk
rests: its queue is empty and its screen shows a page. What remains of a run is the calls it makes
and the page that their answers turn the first one into, whatever carries the calls out.
-/

namespace CohortDesk

set_option autoImplicit false

namespace Query

/-- The queries that the gestures make, one after the other. -/
def edits (query : Query) : List Gesture → List Query
  | [] => []
  | made :: rest => query.edited made :: edits (query.edited made) rest

@[simp] theorem length_edits (query : Query) (gestures : List Gesture) :
    (query.edits gestures).length = gestures.length := by
  induction gestures generalizing query with
  | nil => rfl
  | cons made rest ih => rw [edits, List.length_cons, List.length_cons, ih]

theorem getLast?_edits (query : Query) (gestures : List Gesture) :
    (query :: query.edits gestures).getLast? = some (gestures.foldl edited query) := by
  induction gestures generalizing query with
  | nil => rfl
  | cons made rest ih => rw [edits, List.getLast?_cons_cons, ih, List.foldl_cons]

end Query

namespace Page

def initial (options : ViewOptions) : Page :=
  { query := (Screen.blank options).query, cohorts := [], error := none }

/-- The answer to a listing. A failure leaves the cohorts as they are. -/
def listed (page : Page) : Answer → Page
  | .success cohorts => { page with cohorts, error := none }
  | .failure failure => { page with error := some failure.message }

def asking (page : Page) (query : Query) : Page := { page with query }

theorem listed_asking (page : Page) (query : Query) (answer : Answer) :
    (page.listed answer).asking query = (page.asking query).listed answer := by
  cases answer <;> rfl

@[simp] theorem listed_query (page : Page) (answer : Answer) :
    (page.listed answer).query = page.query := by
  cases answer <;> rfl

/-- The answer to a removal. A cohort that does not exist is as good as removed. -/
def removed (name : CohortName) (page : Page) : Answer → Page
  | .success _ => { page with cohorts := withoutFirst page.cohorts name }
  | .failure failure =>
    if failure.isNotFound then { page with cohorts := withoutFirst page.cohorts name }
    else { page with error := some failure.message }

end Page

namespace Screen

variable (cohorts : List Cohort) (name : CohortName)

/-- Rows of which the first of the name is being removed. -/
def marked : List Row :=
  changeFirst (·.name == name) (fun row => { row with removing := true }) (unmarked cohorts)

theorem eraseP_marked :
    (marked cohorts name).eraseP (·.name == name) = unmarked (withoutFirst cohorts name) := by
  induction cohorts with
  | nil => rfl
  | cons cohort rest ih =>
      unfold marked unmarked withoutFirst at ih ⊢
      by_cases named : (cohort.name == name) = true
      · simp [changeFirst, named]
      · simp [changeFirst, named, ih]

theorem change_first_marked :
    changeFirst (fun row => row.name == name && row.removing)
      (fun row => { row with removing := false }) (marked cohorts name) = unmarked cohorts := by
  induction cohorts with
  | nil => rfl
  | cons cohort rest ih =>
      unfold marked unmarked at ih ⊢
      by_cases named : (cohort.name == name) = true
      · simp [changeFirst, named]
      · simp [changeFirst, named, ih]

end Screen

namespace Page

variable (options : ViewOptions) (last : RequestNumber) (page : Page) (name : CohortName)

/-- The screen of a page that waits for a listing. -/
def loading : Screen :=
  { page.screen options last with
    error := none
    lastRequest := last + 1
    pending := some (last + 1) }

/-- The screen of a page whose first cohort of the name is being removed. -/
def removing : Screen :=
  { page.screen options last with
    rows := Screen.marked page.cohorts name
    removing := NameSet.empty.insert name }

theorem removing_busy : (page.removing options last name).isBusy = true := by
  have held : ¬(NameSet.empty.insert name).isEmpty = true := fun empty =>
    NameSet.is_empty_iff.1 empty name (NameSet.mem_insert.2 (.inl rfl))
  simp [removing, screen, Screen.isBusy, held]

theorem loading_awaits : (page.loading options last).awaits (last + 1) = true :=
  beq_self_eq_true (some (last + 1))

theorem apply_loaded (cohorts : List Cohort) :
    (page.loading options last).apply (.loaded (last + 1) cohorts) =
      { page with cohorts, error := none }.screen options (last + 1) := by
  rw [Screen.apply_loaded (loading_awaits options last page)]
  rfl

theorem apply_load_failed (notice : Notice) :
    (page.loading options last).apply (.loadFailed (last + 1) notice) =
      { page with error := some notice.message }.screen options (last + 1) := by
  rw [Screen.apply, if_pos (loading_awaits options last page)]
  rfl

theorem erase_insert : (NameSet.empty.insert name).erase name = NameSet.empty := by
  refine NameSet.eq_empty fun other member => ?_
  rw [NameSet.mem_erase, NameSet.mem_insert] at member
  exact member.1.elim member.2 (NameSet.not_mem_empty other)

theorem apply_removed :
    (page.removing options last name).apply (.removed name) =
      { page with cohorts := withoutFirst page.cohorts name }.screen options last := by
  have unselected : NameSet.empty.erase name = NameSet.empty := rfl
  change { page.screen options last with
    rows := (Screen.marked page.cohorts name).eraseP (·.name == name)
    removing := (NameSet.empty.insert name).erase name
    selected := NameSet.empty.erase name } = _
  rw [Screen.eraseP_marked, erase_insert, unselected]
  rfl

theorem apply_remove_failed (notice : Notice) :
    (page.removing options last name).apply (.removeFailed name notice) =
      { page with error := some notice.message }.screen options last := by
  change { page.screen options last with
    rows := Screen.changeFirst (fun row => row.name == name && row.removing)
      (fun row => { row with removing := false }) (Screen.marked page.cohorts name)
    removing := (NameSet.empty.insert name).erase name
    error := some notice.message } = _
  rw [Screen.change_first_marked, erase_insert]
  rfl

/-- The answer to a listing brings a page that waits for it to rest. -/
theorem apply_listing_answer (query : Option Query) (answer : Answer) :
    (page.loading options last).apply ((Command.fetch (last + 1) query).completion answer) =
      (page.listed answer).screen options (last + 1) := by
  cases answer with
  | success cohorts => exact apply_loaded options last page cohorts
  | failure failure => exact apply_load_failed options last page ⟨.loading, failure.message⟩

theorem apply_removal_answer (answer : Answer) :
    (page.removing options last name).apply ((Command.remove name).completion answer) =
      (page.removed name answer).screen options last := by
  cases answer with
  | success cohorts => exact apply_removed options last page name
  | failure failure =>
      rw [Command.completion, removed]
      by_cases gone : failure.isNotFound = true
      · rw [if_pos gone, if_pos gone, apply_removed]
      · rw [if_neg gone, if_neg gone, apply_remove_failed]

end Page

namespace Desk

/-- A desk that shows a page and waits for nothing. -/
def resting (options : ViewOptions) (last : RequestNumber) (page : Page) : Desk :=
  { screen := page.screen options last, queue := .empty Program.commandCapacity }

/-- A desk with one command on its way. -/
def waiting (screen : Screen) (command : Command) : Desk :=
  { screen, queue := { CommandQueue.empty Program.commandCapacity with waiting := [command] } }

variable (options : ViewOptions) (last : RequestNumber) (page : Page)

theorem start_eq_fetch :
    start (.empty Program.commandCapacity) options =
      ((resting options 0 (.initial options)).fetch none).1 := rfl

theorem fetch_resting (query : Option Query) :
    ((resting options last page).fetch query).1 =
      waiting (page.loading options last) (.fetch (last + 1) query) := rfl

theorem perform_resting {made : Gesture} (retrieves : made.retrieves = true) :
    ((resting options last page).perform made).1 =
      ((resting options last (page.asking (page.query.edited made))).fetch
        (some (page.query.edited made))).1 := by
  cases made with
  | search predicate => rfl
  | sort order => rfl
  | turnTo number => rfl
  | resize limit => rfl
  | refresh => rfl
  | showFilter => cases retrieves
  | editFilter text => cases retrieves
  | removeFilter => cases retrieves
  | remove name => cases retrieves
  | toggle name => cases retrieves

theorem not_mem_removing (name : CohortName) :
    name ∉ (resting options last page).screen.removing := NameSet.not_mem_empty name

theorem remove_resting_of_absent {name : CohortName}
    (absent : page.cohorts.any (·.name == name) = false) :
    ((resting options last page).perform (.remove name)).1 = resting options last page := by
  have noRow : (resting options last page).screen.rows.any (·.name == name) = false := by
    rw [← absent]
    exact List.any_map
  change ((resting options last page).remove name).1 = _
  rw [remove, if_neg (not_mem_removing options last page name), noRow, if_neg Bool.false_ne_true]

theorem remove_resting_of_present {name : CohortName}
    (present : page.cohorts.any (·.name == name) = true) :
    ((resting options last page).perform (.remove name)).1 =
      waiting (page.removing options last name) (.remove name) := by
  have row : (resting options last page).screen.rows.any (·.name == name) = true := by
    rw [← present]
    exact List.any_map
  change ((resting options last page).remove name).1 = _
  rw [remove, if_neg (not_mem_removing options last page name), row, if_pos rfl]
  rfl

end Desk

namespace Program

variable {m : Type → Type} [Monad m] (service : Service) (send : Request → m Exchange)
  (options : ViewOptions) (last : RequestNumber) (page : Page)

/-- A desk with one command on its way makes the call and applies the answer. -/
theorem settled_waiting (screen : Screen) (command : Command) :
    settled service send (Desk.waiting screen command) =
      (do
        let answer ← service.answer send command.call
        pure
          { screen := screen.apply (command.completion answer)
            queue := .empty commandCapacity }) := rfl

theorem settled_fetch (query : Option Query) :
    settled service send ((Desk.resting options last page).fetch query).1 =
      (do
        let answer ← service.answer send (.list query)
        pure (Desk.resting options (last + 1) (page.listed answer))) := by
  rw [Desk.fetch_resting, settled_waiting]
  refine congrArg (service.answer send (.list query) >>= ·) (funext fun answer => ?_)
  rw [Page.apply_listing_answer]
  rfl

theorem make_gesture_retrieval {made : Gesture} (retrieves : made.retrieves = true) :
    makeGesture service send (Desk.resting options last page) made =
      (do
        let answer ← service.answer send (.list (some (page.query.edited made)))
        pure (Desk.resting options (last + 1)
          ((page.asking (page.query.edited made)).listed answer))) := by
  rw [makeGesture, Desk.perform_resting options last page retrieves, settled_fetch]

theorem make_gesture_remove_of_absent {name : CohortName}
    (absent : page.cohorts.any (·.name == name) = false) :
    makeGesture service send (Desk.resting options last page) (.remove name) =
      pure (Desk.resting options last page) := by
  rw [makeGesture, Desk.remove_resting_of_absent options last page absent]
  rfl

theorem make_gesture_remove_of_present {name : CohortName}
    (present : page.cohorts.any (·.name == name) = true) :
    makeGesture service send (Desk.resting options last page) (.remove name) =
      (do
        let answer ← service.answer send (.remove name)
        pure (Desk.resting options last (page.removed name answer))) := by
  rw [makeGesture, Desk.remove_resting_of_present options last page present, settled_waiting]
  refine congrArg (service.answer send (.remove name) >>= ·) (funext fun answer => ?_)
  rw [Page.apply_removal_answer]
  rfl

variable [LawfulMonad m]

/-- Gestures that ask for listings do nothing but call for these. -/
theorem foldlM_retrievals {gestures : List Gesture}
    (retrieve : ∀ made ∈ gestures, made.retrieves = true) :
    gestures.foldlM (makeGesture service send) (Desk.resting options last page) =
      (do
        let answers ← (page.query.edits gestures).mapM fun query =>
          service.answer send (.list (some query))
        pure (Desk.resting options (last + gestures.length)
          (answers.foldl Page.listed (page.asking (gestures.foldl Query.edited page.query))))) := by
  induction gestures generalizing last page with
  | nil =>
      rw [List.foldlM_nil, Query.edits, List.mapM_nil, pure_bind]
      rfl
  | cons made rest ih =>
      have here := retrieve made List.mem_cons_self
      have later := fun number page => ih number page fun next member =>
        retrieve next (List.mem_cons_of_mem _ member)
      rw [List.foldlM_cons, make_gesture_retrieval service send options last page here, Query.edits,
        List.mapM_cons]
      simp only [bind_assoc, pure_bind, later, Page.listed_query, Page.listed_asking,
        List.foldl_cons, List.length_cons, Nat.add_assoc, Nat.add_comm 1]
      rfl

/-- The listings that a run asks for: the first without a query, then one for each gesture. -/
def asked (options : ViewOptions) (gestures : List Gesture) : List (Option Query) :=
  none :: ((Page.initial options).query.edits gestures).map some

/-- A run that only asks for listings shows the first page as their answers change it, with the
query that the gestures have made. -/
theorem final_desk_of_retrievals {action : CommandLine.Action}
    (retrieve : ∀ made ∈ gestures action, made.retrieves = true) :
    finalDesk service send options action =
      (do
        let answers ← (asked options (gestures action)).mapM fun query =>
          service.answer send (.list query)
        pure (Desk.resting options (1 + (gestures action).length)
          (answers.foldl Page.listed
            ((Page.initial options).asking
              ((gestures action).foldl Query.edited (Page.initial options).query))))) := by
  rw [finalDesk, Desk.start_eq_fetch, settled_fetch, asked, List.mapM_cons, List.mapM_map]
  simp only [bind_assoc, pure_bind, foldlM_retrievals service send options _ _ retrieve,
    Page.listed_query, Page.listed_asking, List.foldl_cons, Nat.zero_add]
  rfl

/-- A run that removes a cohort asks for the removal if the first page has the name. -/
theorem final_desk_of_removal (name : CohortName) :
    finalDesk service send options (.remove name) =
      (do
        let first ← service.answer send (.list none)
        let page := (Page.initial options).listed first
        if page.cohorts.any (·.name == name) then do
          let second ← service.answer send (.remove name)
          pure (Desk.resting options 1 (page.removed name second))
        else pure (Desk.resting options 1 page)) := by
  rw [finalDesk, Desk.start_eq_fetch, settled_fetch]
  simp only [bind_assoc, pure_bind, gestures, List.foldlM_cons, List.foldlM_nil, bind_pure]
  refine congrArg (service.answer send (.list none) >>= ·) (funext fun first => ?_)
  cases present : ((Page.initial options).listed first).cohorts.any (·.name == name) with
  | true =>
      rw [make_gesture_remove_of_present service send options _ _ present, if_pos rfl]
  | false =>
      rw [make_gesture_remove_of_absent service send options _ _ present,
        if_neg Bool.false_ne_true]

end Program

end CohortDesk
