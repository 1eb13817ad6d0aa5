import CohortDesk.Proofs.Worker.Arrival
import Mathlib.Data.List.Induction

/-!
# The screen after the last listing

A run without removals, in which every answer has been applied, ends with a screen that depends on
the gestures and on the answer to the last attempt alone. Other answers, the order in which answers
arrive and the attempts that the queue refused leave no trace.
-/

namespace CohortDesk

set_option autoImplicit false

/-- What the gestures and the last listing make of a new screen. -/
def Screen.settled (options : ViewOptions) (gestures : List Gesture) (cohorts : List Cohort) :
    Screen :=
  let choices := (Screen.blank options).choices.replay gestures
  { query := choices.query
    rows := cohorts.map fun cohort => ⟨cohort, false⟩
    selected := choices.selected
    removing := .empty
    filter := choices.filter
    error := none
    lastRequest := 1 + gestures.countP Gesture.retrieves
    pending := none }

/-- The screen shows a listing without any mark, waits for nothing and reports nothing. -/
structure Screen.Rests (screen : Screen) (cohorts : List Cohort) : Prop where
  rows : screen.rows = cohorts.map fun cohort => ⟨cohort, false⟩
  error : screen.error = none
  pending : screen.pending = none

theorem Screen.rests_of_loaded {screen : Screen} {request : RequestNumber}
    (pending : screen.pending = some request) (unmarked : ∀ name, name ∉ screen.removing)
    (cohorts : List Cohort) : (screen.apply (.loaded request cohorts)).Rests cohorts := by
  rw [Screen.apply_loaded ((screen.awaits_iff request).2 pending)]
  constructor
  · apply List.map_congr_left
    intro cohort _
    rw [decide_eq_false (unmarked cohort.name)]
  · rfl
  · rfl

namespace Worker

def gestures (moves : List Move) : List Gesture := moves.filterMap Move.gesture?

def answered? (worker : Worker) : Move → Option (Command × Answer)
  | .answer call answer => (worker.command? call).map (·, answer)
  | _ => none

/-- The commands that the service answers in a run, with its answers. -/
def answers (worker : Worker) : List Move → List (Command × Answer)
  | [] => []
  | next :: rest => (worker.answered? next).toList ++ (worker.move next).answers rest

/-- No cohort is removed, every answer has been applied, and the last attempt to retrieve a listing
was answered by these cohorts. Calls that are still without an answer do not matter. -/
structure Settles (worker : Worker) (moves : List Move) (cohorts : List Cohort) : Prop where
  keeps : ∀ name, .gesture (.remove name) ∉ moves
  applied : ∀ exchange ∈ worker.answers moves,
    .apply (exchange.1.completion exchange.2) ∈ worker.deskRun moves
  answered : ∃ query, (.fetch (attempts moves) query, .success cohorts) ∈ worker.answers moves

theorem attempts_gestures (moves : List Move) :
    attempts moves = 1 + (gestures moves).countP Gesture.retrieves := by
  rw [attempts, gestures, List.countP_filterMap]
  congr 2
  funext next
  cases next <;> rfl

theorem gestures_concat (moves : List Move) (next : Move) :
    gestures (moves ++ [next]) = gestures moves ++ next.gesture?.toList := by
  rw [gestures, List.filterMap_append, ← gestures]
  cases next <;> rfl

/-- An event that has been applied was the next to be applied at some moment. -/
theorem arriving_of_mem_desk_run {worker : Worker} {moves : List Move} {event : Event}
    (member : .apply event ∈ worker.deskRun moves) :
    ∃ before after, moves = before ++ .apply :: after ∧
      (worker.run before).arriving = some event := by
  induction moves generalizing worker with
  | nil => cases member
  | cons next rest ih =>
      rcases List.mem_append.1 member with here | later
      · cases next with
        | apply =>
            refine ⟨[], rest, rfl, ?_⟩
            simpa [deskMoves, arriving, run] using here
        | gesture made => simp [deskMoves] at here
        | await => simp [deskMoves] at here
        | start => simp [deskMoves] at here
        | answer call answer => cases here
        | deliver index => cases here
        | listen => cases here
        | hangUp => cases here
      · obtain ⟨before, after, split, arrives⟩ := ih later
        exact ⟨next :: before, after, congrArg _ split, arrives⟩

section Launched

variable {commands : CommandQueue} (unused : commands.waiting = []) {eventCapacity : Nat}
  {options : ViewOptions}

theorem removing_eq_empty {moves : List Move} (keeps : ∀ name, .gesture (.remove name) ∉ moves)
    (name : CohortName) :
    name ∉ ((launchOn commands eventCapacity options).run moves).desk.screen.removing := by
  intro held
  rcases removing_of_run held with before | made
  · change name ∈ (Desk.fetch _ none).1.screen.removing at before
    rw [Desk.fetch_removing] at before
    exact NameSet.not_mem_empty name before
  · exact keeps name made

include unused

/-- Without removals only answers to listings arrive. -/
theorem arriving_listing_of_keeps {moves : List Move}
    (keeps : ∀ name, .gesture (.remove name) ∉ moves) {event : Event}
    (arrives : ((launchOn commands eventCapacity options).run moves).arriving = some event) :
    ∃ request, event.errand? = some (.listing request) := by
  obtain ⟨_, _, errand, _, about⟩ := arriving_owed unused arrives
  cases errand with
  | listing request => exact ⟨request, about⟩
  | removal name =>
      exact absurd (arriving_removal unused arrives about) (removing_eq_empty keeps name)

theorem choices_run {moves : List Move} (keeps : ∀ name, .gesture (.remove name) ∉ moves) :
    ((launchOn commands eventCapacity options).run moves).desk.screen.choices =
      (Screen.blank options).choices.replay (gestures moves) := by
  induction moves using List.reverseRecOn with
  | nil => exact Desk.start_choices commands options
  | append_singleton moves next ih =>
      have earlier (name : CohortName) : .gesture (.remove name) ∉ moves :=
        fun member => keeps name (List.mem_append_left _ member)
      have before := ih earlier
      have effect := ((launchOn commands eventCapacity options).run moves).move_screen next
      rw [run_concat, gestures_concat, Choices.replay_append, ← before]
      generalize (((launchOn commands eventCapacity options).run moves).move next).desk.screen =
        screen at effect ⊢
      cases effect with
      | gesture made => exact Desk.perform_choices _ made
      | applied event arrives =>
          obtain ⟨request, about⟩ := arriving_listing_of_keeps unused earlier arrives
          exact Screen.apply_choices _ about
      | kept next plain => simp [plain, Choices.replay]

/-- Once the answer to the last attempt is applied, nothing that follows touches what it shows. -/
theorem rests_after {before after : List Move} {request : Nat} {cohorts : List Cohort}
    (keeps : ∀ name, .gesture (.remove name) ∉ before ++ .apply :: after)
    (arrives : ((launchOn commands eventCapacity options).run before).arriving =
      some (.loaded request cohorts))
    (last : request = attempts (before ++ .apply :: after)) :
    ((launchOn commands eventCapacity options).run (before ++ .apply :: after)).desk.screen.Rests
      cohorts := by
  induction after using List.reverseRecOn with
  | nil =>
      have earlier (name : CohortName) : .gesture (.remove name) ∉ before :=
        fun member => keeps name (List.mem_append_left _ member)
      rw [attempts_append] at last
      have pending := (arriving_listing unused arrives rfl).2.2 last
      rw [run_concat, apply_screen arrives]
      exact Screen.rests_of_loaded pending (removing_eq_empty earlier) cohorts
  | append_singleton after next ih =>
      have regroup :
          before ++ .apply :: (after ++ [next]) = (before ++ .apply :: after) ++ [next] := by
        simp
      rw [regroup] at keeps last ⊢
      have earlier (name : CohortName) : .gesture (.remove name) ∉ before ++ .apply :: after :=
        fun member => keeps name (List.mem_append_left _ member)
      have issued : request ≤ attempts before := (arriving_listing unused arrives rfl).1
      have grown := attempts_append before (.apply :: after)
      rw [attempts_append] at last
      have quiet : [next].countP Move.retrieves = 0 := by omega
      have shown := ih earlier (by omega)
      have effect := ((launchOn commands eventCapacity options).run
        (before ++ .apply :: after)).move_screen next
      rw [run_concat]
      generalize (((launchOn commands eventCapacity options).run
        (before ++ .apply :: after)).move next).desk.screen = screen at effect ⊢
      cases effect with
      | gesture made =>
          have plain : made.retrieves = false := by
            rw [Bool.eq_false_iff]
            exact List.countP_eq_zero.1 quiet _ (List.mem_singleton_self _)
          have spares (name : CohortName) : made ≠ .remove name := by
            rintro rfl
            exact keeps name (List.mem_append_right _ (List.mem_singleton_self _))
          rw [Desk.perform_choice plain spares]
          exact ⟨shown.rows, shown.error, shown.pending⟩
      | applied event later =>
          obtain ⟨number, about⟩ := arriving_listing_of_keeps unused earlier later
          have unawaited : ((launchOn commands eventCapacity options).run
              (before ++ .apply :: after)).desk.screen.pending ≠ some number := by
            intro waiting
            rw [shown.pending] at waiting
            cases waiting
          rw [Screen.apply_unawaited _ about unawaited]
          exact shown
      | kept next plain => exact shown

theorem settled_run {moves : List Move} {cohorts : List Cohort}
    (settles : (launchOn commands eventCapacity options).Settles moves cohorts) :
    ((launchOn commands eventCapacity options).run moves).desk.screen =
      .settled options (gestures moves) cohorts := by
  obtain ⟨query, answered⟩ := settles.answered
  obtain ⟨before, after, split, arrives⟩ :=
    arriving_of_mem_desk_run (settles.applied _ answered)
  have rests : ((launchOn commands eventCapacity options).run moves).desk.screen.Rests cohorts := by
    have keeps := settles.keeps
    rw [split] at keeps ⊢
    exact rests_after unused keeps arrives (congrArg attempts split)
  have choices : ((launchOn commands eventCapacity options).run moves).desk.screen.choices =
      (Screen.blank options).choices.replay (gestures moves) := choices_run unused settles.keeps
  have removing : ((launchOn commands eventCapacity options).run moves).desk.screen.removing =
      .empty := NameSet.eq_empty (removing_eq_empty settles.keeps)
  have counted := last_request_attempts commands eventCapacity options moves
  rw [attempts_gestures] at counted
  rw [Screen.settled, ← choices, ← rests.rows, ← rests.error, ← rests.pending, ← removing,
    ← counted]
  rfl

end Launched

/-- Gestures and the answer to the last attempt decide the screen: two runs that agree on these end
alike, whatever else was answered, in which order answers arrived, how much room the queues had and
which earlier attempts were refused. -/
theorem latest_listing_decides_the_screen (options : ViewOptions)
    {commandCapacity eventCapacity : Nat} {ready : Bool} {moves : List Move}
    {cohorts : List Cohort}
    (settles : (launchWith commandCapacity eventCapacity ready options).Settles moves cohorts) :
    let screen := ((launchWith commandCapacity eventCapacity ready options).run moves).desk.screen
    screen = .settled options (gestures moves) cohorts ∧ screen.isBusy = false ∧
      ∀ otherCommandCapacity otherEventCapacity otherReady otherMoves,
        let other := launchWith otherCommandCapacity otherEventCapacity otherReady options
        other.Settles otherMoves cohorts → gestures otherMoves = gestures moves →
          (other.run otherMoves).desk.screen = screen := by
  intro screen
  have settled : screen = .settled options (gestures moves) cohorts := settled_run rfl settles
  refine ⟨settled, ?_, ?_⟩
  · rw [settled]
    rfl
  · intro otherCommandCapacity otherEventCapacity otherReady otherMoves other agrees same
    have otherSettled : (other.run otherMoves).desk.screen =
        .settled options (gestures otherMoves) cohorts := settled_run rfl agrees
    rw [otherSettled, settled, same]

/-- The queue has no room for the second attempt, and the first is answered last. -/
def narrowOrder : List Move :=
  [.gesture (.turnTo 2), .gesture .showFilter, .start, .gesture (.turnTo 3), .start,
    .answer 1 (.success [.named "c"]), .deliver 0, .apply, .gesture (.toggle "c"),
    .answer 0 (.failure .unavailable), .deliver 0, .apply]

def wideOrder : List Move :=
  [.start, .gesture (.turnTo 2), .gesture .showFilter, .start, .answer 0 (.success [.named "a"]),
    .deliver 0, .apply, .gesture (.turnTo 3), .start, .answer 1 (.success [.named "b"]),
    .answer 2 (.success [.named "c"]), .deliver 1, .apply, .deliver 0, .gesture (.toggle "c"),
    .apply]

theorem narrow_and_wide_queue_end_alike :
    (launchWith 1 1 false .standard).Settles narrowOrder [.named "c"] ∧
      (launchWith 4 4 true .standard).Settles wideOrder [.named "c"] ∧
      gestures wideOrder = gestures narrowOrder ∧
      ((launchWith 4 4 true .standard).run wideOrder).desk.screen =
        ((launchWith 1 1 false .standard).run narrowOrder).desk.screen := by
  let query : Query := { Query.initial with page := 3 }
  have settles : (launchWith 1 1 false .standard).Settles narrowOrder [.named "c"] := by
    constructor
    · intro name
      simp [narrowOrder]
    · decide +kernel
    · exact ⟨some query, by decide +kernel⟩
  have agrees : (launchWith 4 4 true .standard).Settles wideOrder [.named "c"] := by
    constructor
    · intro name
      simp [wideOrder]
    · decide +kernel
    · exact ⟨some query, by decide +kernel⟩
  have same : gestures wideOrder = gestures narrowOrder := rfl
  have decided := (latest_listing_decides_the_screen .standard settles).2.2
  exact ⟨settles, agrees, same, decided 4 4 true wideOrder agrees same⟩

end Worker

end CohortDesk
