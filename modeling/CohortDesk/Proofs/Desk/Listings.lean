import CohortDesk.Proofs.Desk.Run

/-!
# Accepted listings

The answer to a listing is accepted when applying it changes the desk. Over every run of a desk,
with events of any origin and in any order, the accepted numbers increase strictly and each is the
number of the latest attempt at its moment; every other answer leaves screen and queue alone.
-/

namespace CohortDesk.Desk

set_option autoImplicit false

/-- The number of the listing whose answer a move makes the desk accept. -/
def acceptedBy (desk : Desk) : DeskMove → Option RequestNumber
  | .apply event =>
    match event.errand? with
    | some (.listing request) => if desk.apply event = desk then none else some request
    | _ => none
  | _ => none

/-- The accepted numbers of a run in their order. -/
def accepted (desk : Desk) : List DeskMove → List RequestNumber
  | [] => []
  | next :: rest => (desk.acceptedBy next).toList ++ (desk.move next).accepted rest

theorem apply_eq_self_iff (desk : Desk) {event : Event} {request : RequestNumber}
    (about : event.errand? = some (.listing request)) :
    desk.apply event = desk ↔ desk.screen.pending ≠ some request := by
  constructor
  · intro same pending
    have ended := (desk.screen.apply_listing about).2
    rw [if_pos pending] at ended
    have screens : desk.screen.apply event = desk.screen := congrArg Desk.screen same
    rw [screens, pending] at ended
    cases ended
  · intro unawaited
    rw [apply, Screen.apply_unawaited desk.screen about unawaited]

theorem accepted_by_eq_some {desk : Desk} {next : DeskMove} {request : RequestNumber}
    (taken : desk.acceptedBy next = some request) :
    desk.screen.pending = some request ∧ (desk.move next).screen.pending = none ∧
      (desk.move next).screen.lastRequest = desk.screen.lastRequest := by
  cases next with
  | apply event =>
      simp only [acceptedBy] at taken
      split at taken
      · rename_i number about
        split at taken
        · cases taken
        · rename_i changed
          cases taken
          have pending := Classical.not_not.1 fun unawaited =>
            changed ((apply_eq_self_iff desk about).2 unawaited)
          have ended := (desk.screen.apply_listing about).2
          rw [if_pos pending] at ended
          exact ⟨pending, ended, Screen.apply_last_request desk.screen event⟩
      · cases taken
  | gesture made => cases taken
  | await => cases taken
  | take => cases taken
  | disconnect => cases taken

theorem accepted_append (desk : Desk) (first second : List DeskMove) :
    desk.accepted (first ++ second) = desk.accepted first ++ (desk.run first).accepted second := by
  induction first generalizing desk with
  | nil => rfl
  | cons next rest ih =>
      rw [List.cons_append, accepted, accepted, ih, List.append_assoc]
      rfl

/-- An accepted listing was waited for at some moment of the run. -/
theorem mem_accepted {desk : Desk} {moves : List DeskMove} {request : RequestNumber}
    (member : request ∈ desk.accepted moves) :
    ∃ before, (desk.run before).screen.pending = some request := by
  induction moves generalizing desk with
  | nil => cases member
  | cons next rest ih =>
      rcases List.mem_append.1 member with now | later
      · exact ⟨[], (accepted_by_eq_some (Option.mem_toList.1 now)).1⟩
      · obtain ⟨before, pending⟩ := ih later
        exact ⟨next :: before, pending⟩

theorem accepted_increase {desk : Desk} (latest : desk.Latest) (moves : List DeskMove) :
    (desk.accepted moves).Pairwise (· < ·) := by
  induction moves generalizing desk with
  | nil => exact .nil
  | cons next rest ih =>
      have later := ih (move_latest latest next)
      rw [accepted]
      cases taken : desk.acceptedBy next with
      | none => exact later
      | some request =>
          obtain ⟨pending, ended, counted⟩ := accepted_by_eq_some taken
          refine List.pairwise_cons.2 ⟨?_, later⟩
          intro other member
          obtain ⟨before, waiting⟩ := mem_accepted member
          rcases run_pending waiting with early | newer
          · rw [ended] at early
            cases early
          · rw [counted, ← latest request pending] at newer
            exact newer

/-- An answer that the desk accepts adds its number to the accepted ones. -/
theorem accepted_snoc (desk : Desk) (moves : List DeskMove) {event : Event}
    {request : RequestNumber} (about : event.errand? = some (.listing request))
    (changed : (desk.run moves).apply event ≠ desk.run moves) :
    desk.accepted (moves ++ [.apply event]) = desk.accepted moves ++ [request] := by
  rw [accepted_append]
  simp only [accepted, acceptedBy, about, if_neg changed, Option.toList_some, List.append_nil]

/-- After a failure of the worker only listings asked for later are waited for. -/
theorem waits_only_for_later (desk : Desk) (earlier later : List DeskMove) (notice : Notice)
    {request : RequestNumber}
    (pending : (desk.run (earlier ++ .apply (.workerFailed notice) :: later)).screen.pending =
      some request) :
    (desk.run earlier).screen.lastRequest < request := by
  rw [run_append] at pending
  change (((desk.run earlier).apply (.workerFailed notice)).run later).screen.pending =
    some request at pending
  rcases run_pending pending with waiting | newer
  · cases waiting
  · exact newer

/-- No number is accepted twice, none after a newer attempt, be it one that the queue refused, and
none given out before a failure of the worker is accepted after it. Numbers do not run out, so the
length of the run does not matter. -/
theorem accepted_listings_are_the_latest (queue : CommandQueue) (options : ViewOptions)
    (moves : List DeskMove) :
    ((start queue options).accepted moves).Pairwise (· < ·) ∧
      ∀ before event after request, moves = before ++ .apply event :: after →
        event.errand? = some (.listing request) →
        let desk := (start queue options).run before
        (desk.apply event = desk ∨
          (request = attempts before ∧
            (start queue options).accepted (before ++ [.apply event]) =
              (start queue options).accepted before ++ [request])) ∧
        (request ∈ (start queue options).accepted before → desk.apply event = desk) ∧
        (request < attempts before → desk.apply event = desk) ∧
        ∀ earlier notice later, before = earlier ++ .apply (.workerFailed notice) :: later →
          request ≤ attempts earlier → desk.apply event = desk := by
  refine ⟨accepted_increase (start_latest queue options) moves, ?_⟩
  intro before event after request _ about desk
  have latest : desk.Latest := run_latest (start_latest queue options) before
  have counted : desk.screen.lastRequest = attempts before :=
    last_request_attempts queue options before
  have pending_of_changed (changed : desk.apply event ≠ desk) :
      desk.screen.pending = some request :=
    Classical.not_not.1 fun unawaited => changed ((apply_eq_self_iff desk about).2 unawaited)
  have number (changed : desk.apply event ≠ desk) : request = attempts before :=
    counted ▸ latest request (pending_of_changed changed)
  refine ⟨?_, ?_, ?_, ?_⟩
  · by_cases same : desk.apply event = desk
    · exact .inl same
    · exact .inr ⟨number same, accepted_snoc _ before about same⟩
  · intro member
    refine Decidable.byContradiction fun changed => ?_
    have increase := accepted_increase (start_latest queue options) (before ++ [.apply event])
    rw [accepted_snoc _ before about changed, List.pairwise_append] at increase
    exact Nat.lt_irrefl request (increase.2.2 request member request (List.mem_singleton_self _))
  · intro older
    refine Decidable.byContradiction fun changed => ?_
    rw [number changed] at older
    exact Nat.lt_irrefl _ older
  · intro earlier notice later split given
    refine Decidable.byContradiction fun changed => ?_
    have pending := pending_of_changed changed
    simp only [desk, split] at pending
    have newer := waits_only_for_later _ earlier later notice pending
    rw [last_request_attempts] at newer
    exact Nat.lt_irrefl _ (Nat.lt_of_lt_of_le newer given)

/-- An answer to a superseded request and a repeated answer pass without a trace. -/
example :
    (start (.empty 1) .standard).accepted
      [.apply (.loaded 1 []), .take, .gesture .refresh, .take, .gesture .refresh,
        .apply (.loaded 2 []), .apply (.loaded 3 []), .apply (.loaded 3 [])] = [1, 3] := by
  decide

end CohortDesk.Desk
