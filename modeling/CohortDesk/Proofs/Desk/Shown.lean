import CohortDesk.Proofs.Desk.Listings
import CohortDesk.Proofs.Desk.Rows

/-!
# The cohorts shown

The cohorts on the screen are those of one listing, less the ones whose removal was confirmed since.
The desk keeps no such history; `receipts` is the log of what it took over from the service, and the
rows, with all their changes of marks, refine the replay of that log.
-/

namespace CohortDesk

set_option autoImplicit false

/-- What a desk takes over from the service. -/
inductive Receipt
  | listing (cohorts : List Cohort)
  | removal (name : CohortName)
  deriving DecidableEq

/-- Where the cohorts shown come from: a listing, and the names confirmed as removed after it, in
the order of the confirmations. -/
structure Source where
  listing : List Cohort
  removed : List CohortName
  deriving DecidableEq

/-- The cohorts without the first one of a name, if there is one. -/
def withoutFirst (cohorts : List Cohort) (name : CohortName) : List Cohort :=
  cohorts.eraseP (·.name == name)

def Receipt.shown (cohorts : List Cohort) : Receipt → List Cohort
  | .listing listed => listed
  | .removal name => withoutFirst cohorts name

namespace Source

/-- A new listing makes all earlier removals irrelevant. -/
def after (source : Source) : Receipt → Source
  | .listing cohorts => { listing := cohorts, removed := [] }
  | .removal name => { source with removed := source.removed ++ [name] }

def ofReceipts (receipts : List Receipt) : Source :=
  receipts.foldl after { listing := [], removed := [] }

def cohorts (source : Source) : List Cohort := source.removed.foldl withoutFirst source.listing

theorem cohorts_after (source : Source) (receipt : Receipt) :
    (source.after receipt).cohorts = receipt.shown source.cohorts := by
  cases receipt with
  | listing cohorts => rfl
  | removal name => simp [after, cohorts, Receipt.shown, List.foldl_append]

theorem cohorts_replay (source : Source) (receipts : List Receipt) :
    (receipts.foldl after source).cohorts = receipts.foldl Receipt.shown source.cohorts := by
  induction receipts generalizing source with
  | nil => rfl
  | cons receipt rest ih => rw [List.foldl_cons, List.foldl_cons, ih, cohorts_after]

theorem cohorts_sublist (source : Source) : source.cohorts.Sublist source.listing := by
  obtain ⟨listing, removed⟩ := source
  change (removed.foldl withoutFirst listing).Sublist listing
  induction removed generalizing listing with
  | nil => exact .refl listing
  | cons name rest ih => exact (ih (withoutFirst listing name)).trans List.eraseP_sublist

end Source

namespace Screen

theorem cohorts_loaded {screen : Screen} {request : RequestNumber}
    (pending : screen.pending = some request) (cohorts : List Cohort) :
    (screen.apply (.loaded request cohorts)).cohorts = cohorts := by
  rw [apply_loaded ((screen.awaits_iff request).2 pending)]
  simp only [Screen.cohorts, List.map_map]
  exact List.map_id cohorts

theorem cohorts_removed (screen : Screen) (name : CohortName) :
    (screen.apply (.removed name)).cohorts = withoutFirst screen.cohorts name := by
  simp only [Screen.cohorts, apply, withoutFirst, List.eraseP_map]
  rfl

end Screen

namespace Desk

/-- A listing is taken over when the screen waits for its number; a confirmed removal is taken over
whether or not the desk asked for it. -/
def receipt? (desk : Desk) : DeskMove → Option Receipt
  | .apply (.loaded request cohorts) =>
    if desk.screen.pending = some request then some (.listing cohorts) else none
  | .apply (.removed name) => some (.removal name)
  | _ => none

def receipts (desk : Desk) : List DeskMove → List Receipt
  | [] => []
  | next :: rest => (desk.receipt? next).toList ++ (desk.move next).receipts rest

/-- A listing that is not taken over changes nothing at all, and one that is changes the desk. -/
theorem receipt?_loaded_eq_none_iff (desk : Desk) (request : RequestNumber)
    (cohorts : List Cohort) :
    desk.receipt? (.apply (.loaded request cohorts)) = none ↔
      desk.move (.apply (.loaded request cohorts)) = desk := by
  rw [move, apply_eq_self_iff desk rfl, receipt?]
  by_cases pending : desk.screen.pending = some request
  · simp [pending]
  · simp [pending]

theorem Effect.cohorts {desk after : Desk} {retrieves : Bool}
    (effect : Effect desk retrieves after) : after.screen.cohorts = desk.screen.cohorts := by
  cases effect with
  | edited => rfl
  | requested => rfl
  | declined => rfl
  | marked name => exact Screen.cohorts_change_first (fun row => by rfl) _ desk.screen.rows
  | unmarked => rfl

/-- The one way in which a move changes the cohorts shown is a receipt. -/
theorem move_cohorts (desk : Desk) (next : DeskMove) :
    (desk.move next).screen.cohorts =
      (desk.receipt? next).toList.foldl Receipt.shown desk.screen.cohorts := by
  cases next with
  | gesture made => exact (perform_effect desk made).cohorts
  | apply event =>
      cases event with
      | loaded request cohorts =>
          by_cases pending : desk.screen.pending = some request
          · simp only [move, receipt?, pending, if_true, Option.toList_some, List.foldl_cons,
              List.foldl_nil, Receipt.shown]
            exact Screen.cohorts_loaded pending cohorts
          · have same : desk.apply (.loaded request cohorts) = desk :=
              (apply_eq_self_iff desk rfl).2 pending
            simp only [move, receipt?, pending, same, if_false, Option.toList_none,
              List.foldl_nil]
      | loadFailed request notice =>
          simp only [move, apply, Screen.apply]
          split <;> rfl
      | removed name => exact desk.screen.cohorts_removed name
      | removeFailed name notice =>
          exact Screen.cohorts_change_first (fun row => by rfl) _ desk.screen.rows
      | workerFailed notice =>
          simp only [move, apply, Screen.apply, Screen.cohorts, List.map_map]
          rfl
  | await => rfl
  | take =>
      rw [take_screen]
      rfl
  | disconnect => rfl

theorem run_cohorts (desk : Desk) (moves : List DeskMove) :
    (desk.run moves).screen.cohorts =
      (desk.receipts moves).foldl Receipt.shown desk.screen.cohorts := by
  induction moves generalizing desk with
  | nil => rfl
  | cons next rest ih =>
      rw [receipts, List.foldl_append, ← move_cohorts, ← ih]
      rfl

theorem start_cohorts (queue : CommandQueue) (options : ViewOptions) :
    (start queue options).screen.cohorts = [] := by
  rw [Screen.cohorts, start_rows]
  rfl

/-- The cohorts shown are those of the listing accepted last, less the first remaining one of each
name confirmed as removed since; before any listing there are none. So they are always an ordered
part of one answer of the service, and whatever brings no receipt, be it a gesture, a failure or a
listing that comes too late, leaves them exactly as they are; such a listing leaves everything as it
is. -/
theorem shown_cohorts_are_the_last_listing_less_removals (queue : CommandQueue)
    (options : ViewOptions) (moves : List DeskMove) :
    let desk := start queue options
    let source := Source.ofReceipts (desk.receipts moves)
    let shown := (desk.run moves).screen.cohorts
    shown = source.removed.foldl withoutFirst source.listing ∧
      shown.Sublist source.listing ∧
      (∀ next, (desk.run moves).receipt? next = none →
        (desk.run (moves ++ [next])).screen.cohorts = shown) ∧
      ∀ request cohorts,
        (desk.run moves).receipt? (.apply (.loaded request cohorts)) = none ↔
          desk.run (moves ++ [.apply (.loaded request cohorts)]) = desk.run moves := by
  intro desk source shown
  have replayed : shown = source.cohorts := by
    simp only [shown, source, Source.ofReceipts, Source.cohorts_replay, run_cohorts, desk,
      start_cohorts]
    rfl
  refine ⟨replayed, ?_, ?_, ?_⟩
  · rw [replayed]
    exact source.cohorts_sublist
  · intro next none
    have kept := move_cohorts (desk.run moves) next
    rw [none] at kept
    rw [run_append]
    exact kept
  · intro request cohorts
    rw [run_append]
    exact receipt?_loaded_eq_none_iff (desk.run moves) request cohorts

/-- The second confirmation of `a` was never asked for and takes the second of its rows. -/
example :
    ((start (.empty 4) .standard).run
      [.apply (.loaded 1 [.named "a", .named "b", .named "a", .named "c"]),
        .gesture (.remove "a"), .apply (.removed "a"), .apply (.loaded 1 []),
        .apply (.removed "a"), .apply (.workerFailed ⟨.startup, "gone"⟩)]).screen.cohorts =
      [.named "b", .named "c"] := by
  decide

end Desk

end CohortDesk
