import CohortDesk.Proofs.Desk.Listings
import CohortDesk.Proofs.Desk.Requests

/-!
# Declined commands

What a gesture leaves behind whose command the queue does not take. A removal shows the queue's
message and can be tried again. A retrieval also ends the wait for earlier listings, and its edit of
the query waits for the next request that the queue takes.
-/

namespace CohortDesk

set_option autoImplicit false

/-- Whether a move leaves the query as it is. -/
def DeskMove.keepsQuery : DeskMove → Bool
  | .gesture (.search _) | .gesture (.sort _) | .gesture (.turnTo _) | .gesture (.resize _)
  | .gesture .removeFilter => false
  | _ => true

namespace Desk

variable {desk : Desk} {fault : QueueFault}

theorem move_keeps_query {next : DeskMove} (keeps : next.keepsQuery = true) :
    (desk.move next).screen.query = desk.screen.query := by
  cases next with
  | gesture made =>
      rw [move_query]
      cases made with
      | search predicate => cases keeps
      | sort order => cases keeps
      | turnTo page => cases keeps
      | resize limit => cases keeps
      | removeFilter => cases keeps
      | refresh => rfl
      | showFilter => rfl
      | editFilter text => rfl
      | remove name => rfl
      | toggle name => rfl
  | apply event => exact Screen.apply_query desk.screen event
  | await => rfl
  | take => rw [take_screen]
  | disconnect => rfl

theorem run_keeps_query {moves : List DeskMove} (keep : ∀ next ∈ moves, next.keepsQuery = true) :
    (desk.run moves).screen.query = desk.screen.query := by
  induction moves generalizing desk with
  | nil => rfl
  | cons next rest ih =>
      have here := keep next List.mem_cons_self
      have later : ((desk.move next).run rest).screen.query = (desk.move next).screen.query :=
        ih fun other member => keep other (List.mem_cons_of_mem _ member)
      exact later.trans (move_keeps_query here)

theorem Effect.removing {after : Desk} {retrieves : Bool} {name : CohortName}
    (effect : Effect desk retrieves after) (held : name ∈ after.screen.removing) :
    name ∈ desk.screen.removing ∨ after.queue.waiting = desk.queue.waiting ++ [.remove name] := by
  cases effect with
  | edited => exact .inl held
  | requested => exact .inl held
  | declined => exact .inl held
  | marked other queue idle shown accepted =>
      rcases NameSet.mem_insert.1 held with rfl | before
      · exact .inr (CommandQueue.offer_waiting accepted)
      · exact .inl before
  | unmarked => exact .inl held

/-- A name comes under removal only together with its command in the queue. -/
theorem entered_of_removing {moves : List DeskMove} {name : CohortName}
    (held : name ∈ (desk.run moves).screen.removing) :
    name ∈ desk.screen.removing ∨ .remove name ∈ desk.entered moves := by
  induction moves generalizing desk with
  | nil => exact .inl held
  | cons next rest ih =>
      rw [entered, List.mem_append]
      rcases ih held with before | later
      · cases next with
        | gesture made =>
            rcases (perform_effect desk made).removing before with earlier | grown
            · exact .inl earlier
            · rw [entering_gesture grown]
              exact .inr (.inl List.mem_cons_self)
        | apply event => exact .inl (Screen.removing_of_apply before)
        | await => exact .inl before
        | take => exact .inl (take_screen desk ▸ before)
        | disconnect => exact .inl before
      · exact .inr (.inr later)

/-- A refresh sends the query on the screen if the queue takes anything. -/
theorem refresh_cases (desk : Desk) :
    (∃ fault, desk.queue.Declines fault ∧ (desk.perform .refresh).2 = .requested none) ∨
      ((desk.perform .refresh).2 = .requested (some (desk.screen.lastRequest + 1)) ∧
        desk.entering (.gesture .refresh) =
          [.fetch (desk.screen.lastRequest + 1) (some desk.screen.query)]) := by
  rcases desk.queue.offer_cases (.fetch (desk.screen.lastRequest + 1) (some desk.screen.query)) with
    ⟨fault, declines, refused⟩ | ⟨queue, taken, waiting⟩
  · refine .inl ⟨fault, declines, ?_⟩
    simp only [perform, refresh, fetch, refused, Prod.map]
  · refine .inr ⟨?_, entering_gesture ?_⟩
    · simp only [perform, refresh, fetch, taken, Prod.map]
    · simp only [perform, refresh, fetch, taken, Prod.map, id, waiting]

/-- A cohort that is shown and not under removal is asked to be removed if the queue takes
anything. -/
theorem remove_cases {name : CohortName} (idle : name ∉ desk.screen.removing)
    (shown : desk.screen.rows.any (·.name == name) = true) :
    (∃ fault, desk.queue.Declines fault ∧ (desk.perform (.remove name)).2 = .verdict false) ∨
      ((desk.perform (.remove name)).2 = .verdict true ∧
        desk.entering (.gesture (.remove name)) = [.remove name]) := by
  rcases desk.queue.offer_cases (.remove name) with
    ⟨fault, declines, refused⟩ | ⟨queue, taken, waiting⟩
  · refine .inl ⟨fault, declines, ?_⟩
    simp only [perform, remove, idle, shown, refused, if_false, if_true, Prod.map]
  · refine .inr ⟨?_, entering_gesture ?_⟩
    · simp only [perform, remove, idle, shown, taken, if_false, if_true, Prod.map]
    · simp only [perform, remove, idle, shown, taken, if_false, if_true, Prod.map, id, waiting]

/-- A removal that the queue declines changes the error only, so it is tried again by the next
gesture for the name, unless one of them has got through in between. -/
structure DeclinedRemoval (desk : Desk) (name : CohortName) (fault : QueueFault) : Prop where
  outcome : desk.perform (.remove name) =
    ({ desk with screen := { desk.screen with error := some fault.message } }, .verdict false)
  again : ∀ moves,
    let after := (desk.perform (.remove name)).1
    let later := after.run moves
    .remove name ∉ after.entered moves → later.screen.rows.any (·.name == name) = true →
      (∃ fault, later.queue.Declines fault ∧ (later.perform (.remove name)).2 = .verdict false) ∨
        ((later.perform (.remove name)).2 = .verdict true ∧
          later.entering (.gesture (.remove name)) = [.remove name])

/-- A retrieval that the queue declines keeps its edit of the query and uses up its number. The next
refresh that the queue takes sends the edited query, and no listing asked for before is accepted any
more. -/
structure DeclinedRetrieval (desk : Desk) (made : Gesture) (fault : QueueFault) : Prop where
  outcome : desk.perform made =
    ({ desk with
       screen := { desk.screen with
         query := desk.screen.query.edited made, error := some fault.message
         lastRequest := desk.screen.lastRequest + 1, pending := none } }, .requested none)
  sends : ∀ moves, (∀ next ∈ moves, next.keepsQuery = true) →
    let later := (desk.perform made).1.run moves
    (∃ fault, later.queue.Declines fault ∧ (later.perform .refresh).2 = .requested none) ∨
      ((later.perform .refresh).2 = .requested (some (later.screen.lastRequest + 1)) ∧
        later.entering (.gesture .refresh) =
          [.fetch (later.screen.lastRequest + 1) (some (desk.screen.query.edited made))])
  forgets : ∀ moves event request, event.errand? = some (.listing request) →
    request ≤ desk.screen.lastRequest →
    let later := (desk.perform made).1.run moves
    later.apply event = later

theorem declined_removal {name : CohortName} (declines : desk.queue.Declines fault)
    (idle : name ∉ desk.screen.removing)
    (shown : desk.screen.rows.any (·.name == name) = true) :
    desk.DeclinedRemoval name fault := by
  have outcome : desk.perform (.remove name) =
      ({ desk with screen := { desk.screen with error := some fault.message } },
        .verdict false) := by
    simp only [perform, remove, idle, shown, declines.offer, if_false, if_true, Prod.map, id]
  refine ⟨outcome, ?_⟩
  intro moves after later unsent present
  refine remove_cases (fun held => ?_) present
  rcases entered_of_removing held with before | sent
  · rw [show after.screen.removing = desk.screen.removing by simp only [after, outcome]] at before
    exact idle before
  · exact unsent sent

theorem declined_retrieval {made : Gesture} (declines : desk.queue.Declines fault)
    (retrieves : made.retrieves = true) : desk.DeclinedRetrieval made fault := by
  have outcome : desk.perform made =
      ({ desk with
         screen := { desk.screen with
           query := desk.screen.query.edited made, error := some fault.message
           lastRequest := desk.screen.lastRequest + 1, pending := none } }, .requested none) := by
    rw [perform_retrieval desk retrieves]
    simp only [fetch, changeQuery, declines.offer, Prod.map, id]
  refine ⟨outcome, ?_, ?_⟩
  · intro moves keep later
    have kept : later.screen.query = desk.screen.query.edited made := by
      rw [run_keeps_query keep, outcome]
    rw [← kept]
    exact refresh_cases later
  · intro moves event request about old later
    refine (apply_eq_self_iff later about).2 fun pending => ?_
    rcases run_pending pending with waiting | newer
    · rw [outcome] at waiting
      cases waiting
    · rw [outcome] at newer
      exact Nat.lt_irrefl _ (Nat.lt_of_lt_of_le newer (Nat.le_succ_of_le old))

/-- In any state that a run of a desk reaches, while the queue takes nothing: a retrieval and a
removal are declined as described, whatever they are, and nothing enters the queue. -/
theorem declined_gestures_keep_the_rest (queue : CommandQueue) (options : ViewOptions)
    (before : List DeskMove) {fault : QueueFault}
    (declines : ((start queue options).run before).queue.Declines fault) :
    let desk := (start queue options).run before
    desk.screen.lastRequest = attempts before ∧
      (∀ made, made.retrieves = true →
        desk.DeclinedRetrieval made fault ∧ desk.entering (.gesture made) = []) ∧
      ∀ name, name ∉ desk.screen.removing → desk.screen.rows.any (·.name == name) = true →
        desk.DeclinedRemoval name fault ∧ desk.entering (.gesture (.remove name)) = [] := by
  intro desk
  have nothing {made : Gesture} {screen : Screen} {response : Response}
      (outcome : desk.perform made = ({ desk with screen }, response)) :
      desk.entering (.gesture made) = [] := by
    apply entering_gesture
    rw [outcome, List.append_nil]
  refine ⟨last_request_attempts queue options before, ?_, ?_⟩
  · intro made retrieves
    have declined := declined_retrieval declines retrieves
    exact ⟨declined, nothing declined.outcome⟩
  · intro name idle shown
    have declined := declined_removal declines idle shown
    exact ⟨declined, nothing declined.outcome⟩

/-- A desk with one cohort, whose queue of capacity one still holds the first request. -/
def congested : List DeskMove := [.apply (.loaded 1 [.named "a"])]

/-- A sort and a removal are declined. When the queue has room again, a refresh sends the new order
and the removal gets through, although the worker has failed and the filter was looked at. -/
theorem declined_sort_goes_out_later :
    let desk := (start (.empty 1) .standard).run congested
    let recovery : List DeskMove :=
      [.take, .apply (.workerFailed ⟨.startup, "lost"⟩), .gesture .showFilter]
    desk.queue.Declines .full ∧
      (desk.perform (.sort "-name")).2 = .requested none ∧
      ((desk.perform (.sort "-name")).1.run recovery).entering (.gesture .refresh) =
        [.fetch 3 (some { Query.initial with order := "-name" })] ∧
      (desk.perform (.remove "a")).2 = .verdict false ∧
      ((desk.perform (.remove "a")).1.run recovery).entering (.gesture (.remove "a")) =
        [.remove "a"] := by
  intro desk recovery
  have declines : desk.queue.Declines .full := .full rfl rfl (Nat.le_refl 1)
  obtain ⟨-, retrieval, removal⟩ :=
    declined_gestures_keep_the_rest (.empty 1) .standard congested declines
  have sort := (retrieval (.sort "-name") rfl).1
  have remove := (removal "a" (by decide) rfl).1
  refine ⟨declines, congrArg Prod.snd sort.outcome, ?_, congrArg Prod.snd remove.outcome, ?_⟩
  · rcases sort.sends recovery (by decide) with ⟨fault, still, -⟩ | ⟨-, sent⟩
    · exact absurd still (CommandQueue.not_declines_of_room rfl (by decide))
    · exact sent
  · rcases remove.again recovery (by decide) rfl with ⟨fault, still, -⟩ | ⟨-, sent⟩
    · exact absurd still (CommandQueue.not_declines_of_room rfl (by decide))
    · exact sent

end Desk

end CohortDesk
