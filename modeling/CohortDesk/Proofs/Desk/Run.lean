import CohortDesk.Desk

/-!
# Runs of a desk

A desk lives through gestures, events and whatever the reader of its queue does. `Effect` says
once what a gesture can do to a desk, guards included; every invariant of a run is derived from
it and from the one equation for each kind of event.
-/

namespace CohortDesk

set_option autoImplicit false

/-- Events may come from anywhere: repeated, out of order, or about requests never made. The
reader of the queue may wait, take a command or leave at any moment. -/
inductive DeskMove
  | gesture (gesture : Gesture)
  | apply (event : Event)
  | await
  | take
  | disconnect
  deriving DecidableEq

/-- Whether a gesture asks for a listing, with success or without. -/
def Gesture.retrieves : Gesture → Bool
  | .search _ | .sort _ | .turnTo _ | .resize _ | .refresh => true
  | _ => false

def DeskMove.retrieves : DeskMove → Bool
  | .gesture made => made.retrieves
  | _ => false

/-- What a command is about. Requests are told apart by their numbers, removals by their names. -/
inductive Errand
  | listing (request : RequestNumber)
  | removal (name : CohortName)
  deriving DecidableEq, Repr

def Command.errand : Command → Errand
  | .fetch request _ => .listing request
  | .remove name => .removal name

/-- What the command was about that an event answers; the failure of the worker answers none. -/
def Event.errand? : Event → Option Errand
  | .loaded request _ | .loadFailed request _ => some (.listing request)
  | .removed name | .removeFailed name _ => some (.removal name)
  | .workerFailed _ => none

theorem completion_errand (command : Command) (answer : Answer) :
    (command.completion answer).errand? = some command.errand := by
  cases command with
  | fetch request query => cases answer <;> rfl
  | remove name =>
      cases answer with
      | success cohorts => rfl
      | failure failure =>
          simp only [Command.completion]
          split <;> rfl

namespace CommandQueue

theorem offer_waiting {queue after : CommandQueue} {command : Command}
    (accepted : queue.offer command = .ok after) :
    after.waiting = queue.waiting ++ [command] := by
  unfold offer at accepted
  split at accepted
  · cases accepted
  · split at accepted
    · cases accepted
      rfl
    · cases accepted

end CommandQueue

namespace Screen

@[simp] theorem apply_last_request (screen : Screen) (event : Event) :
    (screen.apply event).lastRequest = screen.lastRequest := by
  cases event <;> simp only [apply] <;> split <;> rfl

theorem awaits_iff (screen : Screen) (request : RequestNumber) :
    screen.awaits request = true ↔ screen.pending = some request := by
  simp only [awaits, beq_iff_eq]

theorem apply_loaded {screen : Screen} {request : RequestNumber}
    (awaited : screen.awaits request = true) (cohorts : List Cohort) :
    screen.apply (.loaded request cohorts) =
      { screen with
        pending := none
        error := none
        rows := cohorts.map fun cohort => ⟨cohort, decide (cohort.name ∈ screen.removing)⟩ } :=
  if_pos awaited

/-- The answer to a listing touches no removal mark in the set, and ends the wait exactly when the
screen waits for this number. -/
theorem apply_listing (screen : Screen) {event : Event} {request : RequestNumber}
    (about : event.errand? = some (.listing request)) :
    (screen.apply event).removing = screen.removing ∧
      (screen.apply event).pending =
        if screen.pending = some request then none else screen.pending := by
  cases event with
  | loaded number cohorts =>
      cases about
      by_cases awaited : screen.pending = some request <;> simp [apply, awaits, awaited]
  | loadFailed number notice =>
      cases about
      by_cases awaited : screen.pending = some request <;> simp [apply, awaits, awaited]
  | removed name => cases about
  | removeFailed name notice => cases about
  | workerFailed notice => cases about

theorem apply_removal (screen : Screen) {event : Event} {name : CohortName}
    (about : event.errand? = some (.removal name)) :
    (screen.apply event).removing = screen.removing.erase name ∧
      (screen.apply event).pending = screen.pending := by
  cases event with
  | loaded number cohorts => cases about
  | loadFailed number notice => cases about
  | removed other =>
      cases about
      exact ⟨rfl, rfl⟩
  | removeFailed other notice =>
      cases about
      exact ⟨rfl, rfl⟩
  | workerFailed notice => cases about

theorem apply_unawaited (screen : Screen) {event : Event} {request : RequestNumber}
    (about : event.errand? = some (.listing request))
    (unawaited : screen.pending ≠ some request) : screen.apply event = screen := by
  have ignored : screen.awaits request = false := by
    rw [Bool.eq_false_iff]
    exact fun awaited => unawaited ((awaits_iff screen request).1 awaited)
  cases event with
  | loaded number cohorts =>
      cases about
      simp only [apply, ignored, Bool.false_eq_true, if_false]
  | loadFailed number notice =>
      cases about
      simp only [apply, ignored, Bool.false_eq_true, if_false]
  | removed name => cases about
  | removeFailed name notice => cases about
  | workerFailed notice => cases about

theorem apply_pending (screen : Screen) (event : Event) :
    (screen.apply event).pending = none ∨ (screen.apply event).pending = screen.pending := by
  cases event with
  | loaded number cohorts => simp only [apply]; split <;> simp
  | loadFailed number notice => simp only [apply]; split <;> simp
  | removed name => exact .inr rfl
  | removeFailed name notice => exact .inr rfl
  | workerFailed notice => exact .inl rfl

end Screen

namespace Desk

def move (desk : Desk) : DeskMove → Desk
  | .gesture gesture => (desk.perform gesture).1
  | .apply event => desk.apply event
  | .await => { desk with queue := desk.queue.await }
  | .take =>
    match desk.queue.take? with
    | some (_, queue) => { desk with queue }
    | none => desk
  | .disconnect => { desk with queue := desk.queue.disconnect }

def run (desk : Desk) (moves : List DeskMove) : Desk := moves.foldl move desk

/-- Attempts to retrieve a listing: the one a new desk makes, and one for each gesture that asks
for a listing, whether or not the queue takes the request. -/
def attempts (moves : List DeskMove) : Nat := 1 + moves.countP DeskMove.retrieves

/-- Everything a gesture can do to a desk. The flag says whether it asked for a listing. -/
inductive Effect (desk : Desk) : Bool → Desk → Prop
  | edited (query : Query) (filter : FilterPanel) (selected : NameSet) :
      Effect desk false
        { desk with screen := { desk.screen with query, filter, selected } }
  | requested (query : Query) (queue : CommandQueue)
      (accepted : desk.queue.offer (.fetch (desk.screen.lastRequest + 1) (some query)) =
        .ok queue) :
      Effect desk true
        { screen := { desk.screen with
            query, error := none, lastRequest := desk.screen.lastRequest + 1
            pending := some (desk.screen.lastRequest + 1) }
          queue }
  | declined (query : Query) (fault : QueueFault)
      (refused : desk.queue.offer (.fetch (desk.screen.lastRequest + 1) (some query)) =
        .error fault) :
      Effect desk true
        { desk with
          screen := { desk.screen with
            query, error := some fault.message, lastRequest := desk.screen.lastRequest + 1
            pending := none } }
  | marked (name : CohortName) (queue : CommandQueue)
      (idle : name ∉ desk.screen.removing)
      (shown : desk.screen.rows.any (·.name == name) = true)
      (accepted : desk.queue.offer (.remove name) = .ok queue) :
      Effect desk false
        { screen := { desk.screen with
            rows := Screen.changeFirst (·.name == name) (fun row => { row with removing := true })
              desk.screen.rows
            removing := desk.screen.removing.insert name }
          queue }
  | unmarked (name : CohortName) (fault : QueueFault)
      (idle : name ∉ desk.screen.removing)
      (shown : desk.screen.rows.any (·.name == name) = true)
      (refused : desk.queue.offer (.remove name) = .error fault) :
      Effect desk false
        { desk with screen := { desk.screen with error := some fault.message } }

theorem refresh_effect (desk : Desk) (query : Query) :
    Effect desk true
      (({ desk with screen := { desk.screen with query } } : Desk).refresh).1 := by
  simp only [refresh, fetch]
  cases answer : desk.queue.offer (.fetch (desk.screen.lastRequest + 1) (some query)) with
  | ok queue => exact .requested query queue answer
  | error fault => exact .declined query fault answer

theorem remove_effect (desk : Desk) (name : CohortName) :
    Effect desk false (desk.remove name).1 := by
  have unchanged : Effect desk false desk :=
    .edited desk.screen.query desk.screen.filter desk.screen.selected
  by_cases removing : name ∈ desk.screen.removing
  · simpa only [remove, removing, if_true] using unchanged
  · by_cases shown : desk.screen.rows.any (·.name == name) = true
    · simp only [remove, removing, if_false, shown, if_true]
      cases answer : desk.queue.offer (.remove name) with
      | ok queue => exact .marked name queue removing shown answer
      | error fault => exact .unmarked name fault removing shown answer
    · simpa only [remove, removing, if_false, shown, Bool.false_eq_true] using unchanged

theorem toggle_effect (desk : Desk) (name : CohortName) :
    Effect desk false (desk.toggle name).1 := by
  simp only [toggle]
  split
  · exact .edited desk.screen.query desk.screen.filter (desk.screen.selected.erase name)
  · exact .edited desk.screen.query desk.screen.filter (desk.screen.selected.insert name)

theorem perform_effect (desk : Desk) (gesture : Gesture) :
    Effect desk gesture.retrieves (desk.perform gesture).1 := by
  cases gesture with
  | search predicate => exact refresh_effect desk { desk.screen.query with filter := predicate }
  | sort order => exact refresh_effect desk { desk.screen.query with order }
  | turnTo page => exact refresh_effect desk { desk.screen.query with page }
  | resize limit =>
      exact refresh_effect desk { desk.screen.query with limit, page := Query.firstPage }
  | refresh => exact refresh_effect desk desk.screen.query
  | showFilter => exact .edited desk.screen.query _ desk.screen.selected
  | editFilter text => exact .edited desk.screen.query _ desk.screen.selected
  | removeFilter => exact .edited _ _ desk.screen.selected
  | remove name => exact remove_effect desk name
  | toggle name => exact toggle_effect desk name

@[simp] theorem start_last_request (queue : CommandQueue) (options : ViewOptions) :
    (start queue options).screen.lastRequest = 1 := by
  simp only [start, fetch, Screen.blank]
  split <;> rfl

theorem run_append (desk : Desk) (first second : List DeskMove) :
    desk.run (first ++ second) = (desk.run first).run second :=
  List.foldl_append

@[simp] theorem take_screen (desk : Desk) : (desk.move .take).screen = desk.screen := by
  simp only [move]
  split <;> rfl

theorem Effect.last_request {desk after : Desk} {retrieves : Bool}
    (effect : Effect desk retrieves after) :
    after.screen.lastRequest = desk.screen.lastRequest + if retrieves then 1 else 0 := by
  cases effect <;> rfl

theorem move_last_request (desk : Desk) (next : DeskMove) :
    (desk.move next).screen.lastRequest =
      desk.screen.lastRequest + if next.retrieves then 1 else 0 := by
  cases next with
  | gesture made => exact (perform_effect desk made).last_request
  | apply event => exact Screen.apply_last_request desk.screen event
  | await => rfl
  | take => rw [take_screen]; rfl
  | disconnect => rfl

theorem run_last_request (desk : Desk) (moves : List DeskMove) :
    (desk.run moves).screen.lastRequest =
      desk.screen.lastRequest + moves.countP DeskMove.retrieves := by
  induction moves generalizing desk with
  | nil => rfl
  | cons next rest ih =>
      rw [run, List.foldl_cons, ← run, ih, move_last_request, List.countP_cons]
      exact (Nat.add_assoc _ _ _).trans (congrArg _ (Nat.add_comm _ _))

theorem last_request_attempts (queue : CommandQueue) (options : ViewOptions)
    (moves : List DeskMove) :
    ((start queue options).run moves).screen.lastRequest = attempts moves := by
  rw [run_last_request, start_last_request, attempts]

/-- What a screen waits for is the listing asked for last. -/
def Latest (desk : Desk) : Prop :=
  ∀ request, desk.screen.pending = some request → request = desk.screen.lastRequest

theorem start_latest (queue : CommandQueue) (options : ViewOptions) :
    (start queue options).Latest := by
  intro request pending
  simp only [start, fetch, Screen.blank] at pending ⊢
  split at pending
  · exact (Option.some.inj pending).symm
  · cases pending

theorem Effect.pending {desk after : Desk} {retrieves : Bool} {request : RequestNumber}
    (effect : Effect desk retrieves after) (pending : after.screen.pending = some request) :
    (desk.screen.pending = some request ∧ after.screen.lastRequest = desk.screen.lastRequest) ∨
      (request = desk.screen.lastRequest + 1 ∧
        after.screen.lastRequest = desk.screen.lastRequest + 1) := by
  cases effect with
  | edited => exact .inl ⟨pending, rfl⟩
  | requested => exact .inr ⟨(Option.some.inj pending).symm, rfl⟩
  | declined => cases pending
  | marked => exact .inl ⟨pending, rfl⟩
  | unmarked => exact .inl ⟨pending, rfl⟩

/-- A listing that is waited for after a move was waited for before, or the move asked for it. -/
theorem move_pending {desk : Desk} {next : DeskMove} {request : RequestNumber}
    (pending : (desk.move next).screen.pending = some request) :
    (desk.screen.pending = some request ∧
        (desk.move next).screen.lastRequest = desk.screen.lastRequest) ∨
      (request = desk.screen.lastRequest + 1 ∧
        (desk.move next).screen.lastRequest = desk.screen.lastRequest + 1) := by
  cases next with
  | gesture made => exact (perform_effect desk made).pending pending
  | apply event =>
      change (desk.screen.apply event).pending = some request at pending
      have counted : (desk.move (.apply event)).screen.lastRequest = desk.screen.lastRequest :=
        Screen.apply_last_request desk.screen event
      rcases desk.screen.apply_pending event with ended | kept
      · rw [ended] at pending
        cases pending
      · exact .inl ⟨kept ▸ pending, counted⟩
  | await => exact .inl ⟨pending, rfl⟩
  | take =>
      rw [take_screen] at pending ⊢
      exact .inl ⟨pending, rfl⟩
  | disconnect => exact .inl ⟨pending, rfl⟩

theorem move_latest {desk : Desk} (latest : desk.Latest) (next : DeskMove) :
    (desk.move next).Latest := by
  intro request pending
  rcases move_pending pending with ⟨before, counted⟩ | ⟨number, counted⟩
  · rw [counted]
    exact latest request before
  · rw [counted]
    exact number

theorem run_latest {desk : Desk} (latest : desk.Latest) (moves : List DeskMove) :
    (desk.run moves).Latest := by
  induction moves generalizing desk with
  | nil => exact latest
  | cons next rest ih => exact ih (move_latest latest next)

theorem run_pending {desk : Desk} {moves : List DeskMove} {request : RequestNumber}
    (pending : (desk.run moves).screen.pending = some request) :
    desk.screen.pending = some request ∨ desk.screen.lastRequest < request := by
  induction moves generalizing desk with
  | nil => exact .inl pending
  | cons next rest ih =>
      have counted := move_last_request desk next
      rcases ih pending with waiting | newer
      · rcases move_pending waiting with ⟨before, _⟩ | ⟨number, _⟩
        · exact .inl before
        · exact .inr (number ▸ Nat.lt_succ_self _)
      · exact .inr (Nat.lt_of_le_of_lt (counted ▸ Nat.le_add_right _ _) newer)

end Desk

end CohortDesk
