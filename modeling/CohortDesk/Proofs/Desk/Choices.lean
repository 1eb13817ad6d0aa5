import CohortDesk.Proofs.Desk.Run

/-!
# Choices

The query, the filter panel and the selection are what the gestures make of them; no listing and no
failure touches them. `Choices.after` replays a gesture without a screen, whether or not the queue
takes the command that goes with it.
-/

namespace CohortDesk

set_option autoImplicit false

structure Choices where
  query : Query
  filter : FilterPanel
  selected : NameSet
  deriving DecidableEq

def Screen.choices (screen : Screen) : Choices :=
  { query := screen.query, filter := screen.filter, selected := screen.selected }

namespace Choices

def after (choices : Choices) : Gesture → Choices
  | .search predicate => { choices with query := { choices.query with filter := predicate } }
  | .sort order => { choices with query := { choices.query with order } }
  | .turnTo page => { choices with query := { choices.query with page } }
  | .resize limit =>
    { choices with query := { choices.query with limit, page := Query.firstPage } }
  | .refresh | .remove _ => choices
  | .showFilter =>
    { choices with
      filter := { choices.filter with
        shown := true, form := some (choices.filter.form.getD .fresh) } }
  | .editFilter text =>
    { choices with
      filter := { choices.filter with form := some { draft := text, dirty := true } } }
  | .removeFilter =>
    { choices with
      query := { choices.query with filter := "" }
      filter := { choices.filter with
        shown := false
        form := choices.filter.form.map fun form => if form.dirty then .fresh else form } }
  | .toggle name =>
    { choices with
      selected :=
        if name ∈ choices.selected then choices.selected.erase name
        else choices.selected.insert name }

def replay (choices : Choices) (gestures : List Gesture) : Choices := gestures.foldl after choices

theorem replay_append (choices : Choices) (first second : List Gesture) :
    choices.replay (first ++ second) = (choices.replay first).replay second :=
  List.foldl_append

end Choices

namespace Screen

/-- The answer to a listing leaves the choices as they are. -/
theorem apply_choices (screen : Screen) {event : Event} {request : RequestNumber}
    (about : event.errand? = some (.listing request)) :
    (screen.apply event).choices = screen.choices := by
  cases event with
  | loaded number cohorts =>
      simp only [apply]
      split <;> rfl
  | loadFailed number notice =>
      simp only [apply]
      split <;> rfl
  | removed name => cases about
  | removeFailed name notice => cases about
  | workerFailed notice => cases about

/-- No event brings a name under removal. -/
theorem removing_of_apply {screen : Screen} {event : Event} {name : CohortName}
    (held : name ∈ (screen.apply event).removing) : name ∈ screen.removing := by
  cases event with
  | loaded request cohorts =>
      simp only [apply] at held
      split at held <;> exact held
  | loadFailed request notice =>
      simp only [apply] at held
      split at held <;> exact held
  | removed other => exact (NameSet.mem_erase.1 held).1
  | removeFailed other notice => exact (NameSet.mem_erase.1 held).1
  | workerFailed notice => exact absurd held (NameSet.not_mem_empty name)

end Screen

namespace Desk

@[simp] theorem fetch_choices (desk : Desk) (query : Option Query) :
    (desk.fetch query).1.screen.choices = desk.screen.choices := by
  simp only [fetch]
  split <;> rfl

@[simp] theorem fetch_removing (desk : Desk) (query : Option Query) :
    (desk.fetch query).1.screen.removing = desk.screen.removing := by
  simp only [fetch]
  split <;> rfl

theorem start_choices (queue : CommandQueue) (options : ViewOptions) :
    (start queue options).screen.choices = (Screen.blank options).choices :=
  fetch_choices _ none

theorem remove_choices (desk : Desk) (name : CohortName) :
    (desk.remove name).1.screen.choices = desk.screen.choices := by
  simp only [remove]
  split
  · rfl
  · split
    · split <;> rfl
    · rfl

/-- A gesture that neither retrieves nor removes makes a choice and does nothing else. -/
theorem perform_choice {desk : Desk} {gesture : Gesture}
    (keeps : gesture.retrieves = false) (spares : ∀ name, gesture ≠ .remove name) :
    let choices := desk.screen.choices.after gesture
    (desk.perform gesture).1.screen =
      { desk.screen with
        query := choices.query, filter := choices.filter, selected := choices.selected } := by
  cases gesture with
  | showFilter => rfl
  | editFilter text => rfl
  | removeFilter => rfl
  | toggle name =>
      simp only [perform, toggle, Choices.after]
      split <;> rename_i selected <;> simp [Screen.choices, selected]
  | remove name => exact absurd rfl (spares name)
  | search predicate => cases keeps
  | sort order => cases keeps
  | turnTo page => cases keeps
  | resize limit => cases keeps
  | refresh => cases keeps

theorem perform_choices (desk : Desk) (gesture : Gesture) :
    (desk.perform gesture).1.screen.choices = desk.screen.choices.after gesture := by
  cases gesture with
  | search predicate => exact fetch_choices _ _
  | sort order => exact fetch_choices _ _
  | turnTo page => exact fetch_choices _ _
  | resize limit => exact fetch_choices _ _
  | refresh => exact fetch_choices _ _
  | showFilter => rfl
  | editFilter text => rfl
  | removeFilter => rfl
  | remove name => exact remove_choices desk name
  | toggle name =>
      exact congrArg Screen.choices (perform_choice rfl fun other => Gesture.noConfusion)

theorem perform_removing (desk : Desk) (gesture : Gesture) :
    (desk.perform gesture).1.screen.removing = desk.screen.removing ∨
      ∃ name, gesture = .remove name ∧
        (desk.perform gesture).1.screen.removing = desk.screen.removing.insert name := by
  cases gesture with
  | search predicate => exact .inl (fetch_removing _ _)
  | sort order => exact .inl (fetch_removing _ _)
  | turnTo page => exact .inl (fetch_removing _ _)
  | resize limit => exact .inl (fetch_removing _ _)
  | refresh => exact .inl (fetch_removing _ _)
  | showFilter => exact .inl rfl
  | editFilter text => exact .inl rfl
  | removeFilter => exact .inl rfl
  | remove name =>
      simp only [perform, remove]
      split
      · exact .inl rfl
      · split
        · split
          · exact .inr ⟨name, rfl, rfl⟩
          · exact .inl rfl
        · exact .inl rfl
  | toggle name =>
      simp only [perform, toggle]
      split <;> exact .inl rfl

/-- A name comes under removal by the gesture that removes it. -/
theorem removing_of_perform {desk : Desk} {gesture : Gesture} {name : CohortName}
    (held : name ∈ (desk.perform gesture).1.screen.removing) :
    name ∈ desk.screen.removing ∨ gesture = .remove name := by
  rcases perform_removing desk gesture with same | ⟨other, made, grown⟩
  · exact .inl (same ▸ held)
  · rw [grown, NameSet.mem_insert] at held
    rcases held with rfl | before
    · exact .inr made
    · exact .inl before

theorem removing_of_move {desk : Desk} {next : DeskMove} {name : CohortName}
    (held : name ∈ (desk.move next).screen.removing) :
    name ∈ desk.screen.removing ∨ next = .gesture (.remove name) := by
  cases next with
  | gesture made =>
      rcases removing_of_perform held with before | rfl
      · exact .inl before
      · exact .inr rfl
  | apply event => exact .inl (Screen.removing_of_apply held)
  | await => exact .inl held
  | take => exact .inl (take_screen desk ▸ held)
  | disconnect => exact .inl held

theorem removing_of_run {desk : Desk} {moves : List DeskMove} {name : CohortName}
    (held : name ∈ (desk.run moves).screen.removing) :
    name ∈ desk.screen.removing ∨ .gesture (.remove name) ∈ moves := by
  induction moves generalizing desk with
  | nil => exact .inl held
  | cons next rest ih =>
      rcases ih held with before | later
      · rcases removing_of_move before with earlier | rfl
        · exact .inl earlier
        · exact .inr List.mem_cons_self
      · exact .inr (List.mem_cons_of_mem _ later)

end Desk

end CohortDesk
