import CohortDesk.Screen.Settle

/-!
# Settling with what waits

`RestsAfter` is the shortest beginning of the waiting events that brings a screen to rest, and
`NeverRests` says that there is none. Which of the two holds decides what settling does, whatever
the time allowed; draining what it leaves has the effect of draining everything at once.
-/

namespace CohortDesk

set_option autoImplicit false

/-- The text of a fault tells whether the worker has stopped. -/
theorem SettleFault.message_timed_out_ne (nanos : Nat) :
    (timedOut nanos).message ≠ workerStopped.message := by
  intro same
  have starts := congrArg (fun text => text.toList.head?) same
  simp [message] at starts

namespace Screen

/-- The events `used` bring the screen to rest, fewer from the front do not, and `left` are the
events behind them. -/
structure RestsAfter (screen : Screen) (events used left : List Event) : Prop where
  split : events = used ++ left
  rests : (screen.applyAll used).isBusy = false
  earlier : ∀ fewer, fewer <+: used → fewer ≠ used → (screen.applyAll fewer).isBusy = true

/-- However many of the events are applied from the front, the screen stays busy. -/
def NeverRests (screen : Screen) (events : List Event) : Prop :=
  ∀ some, some <+: events → (screen.applyAll some).isBusy = true

variable {screen : Screen} {event : Event} {events used left : List Event}

theorem apply_all_append (screen : Screen) (first second : List Event) :
    screen.applyAll (first ++ second) = (screen.applyAll first).applyAll second :=
  List.foldl_append

theorem rests_after_nil (rests : screen.isBusy = false) (events : List Event) :
    screen.RestsAfter events [] events where
  split := rfl
  rests := rests
  earlier := by
    intro fewer begins other
    exact absurd (List.prefix_nil.1 begins) other

theorem RestsAfter.cons (busy : screen.isBusy = true)
    (later : (screen.apply event).RestsAfter events used left) :
    screen.RestsAfter (event :: events) (event :: used) left where
  split := congrArg (event :: ·) later.split
  rests := later.rests
  earlier := by
    intro fewer begins other
    cases fewer with
    | nil => exact busy
    | cons first rest =>
        obtain ⟨rfl, shorter⟩ := List.cons_prefix_cons.1 begins
        exact later.earlier rest shorter fun same => other (same ▸ rfl)

theorem never_rests_nil (busy : screen.isBusy = true) : screen.NeverRests [] := by
  intro some begins
  rw [List.prefix_nil.1 begins]
  exact busy

theorem NeverRests.cons (busy : screen.isBusy = true)
    (later : (screen.apply event).NeverRests events) : screen.NeverRests (event :: events) := by
  intro some begins
  cases some with
  | nil => exact busy
  | cons first rest =>
      obtain ⟨rfl, shorter⟩ := List.cons_prefix_cons.1 begins
      exact later rest shorter

theorem settle_with_cases (screen : Screen) (events : List Event) :
    (∃ used left, screen.RestsAfter events used left ∧
        screen.settleWith events = (screen.applyAll used, left, true)) ∨
      (screen.NeverRests events ∧
        screen.settleWith events = (screen.applyAll events, [], false)) := by
  induction events generalizing screen with
  | nil =>
      cases busy : screen.isBusy with
      | false => exact .inl ⟨[], [], rests_after_nil busy [], by rw [settleWith, busy]; rfl⟩
      | true => exact .inr ⟨never_rests_nil busy, by rw [settleWith, busy]; rfl⟩
  | cons event rest ih =>
      cases busy : screen.isBusy with
      | false =>
          refine .inl ⟨[], event :: rest, rests_after_nil busy _, ?_⟩
          rw [settleWith, busy, if_neg Bool.false_ne_true]
          rfl
      | true =>
          have step : screen.settleWith (event :: rest) = (screen.apply event).settleWith rest := by
            rw [settleWith, busy, if_pos rfl]
          rw [step]
          rcases ih (screen.apply event) with ⟨used, left, rests, settled⟩ | ⟨never, settled⟩
          · exact .inl ⟨event :: used, left, rests.cons busy, settled⟩
          · exact .inr ⟨never.cons busy, settled⟩

/-- Settling applies the shortest beginning of the waiting events that brings the screen to rest and
leaves the others waiting in their order. Without one it applies them all and fails, with the fault
that says whether the worker has stopped. Either way, draining afterwards ends where draining at
once does, and the two together apply every waiting event once. -/
theorem settling_uses_fewest_events (screen : Screen) (queue : EventQueue) (nanos : Nat) :
    let settled := screen.settleWithin queue nanos
    let drained := settled.1.drain settled.2.1
    ((∃ used left, screen.RestsAfter queue.waiting used left ∧
          settled = (screen.applyAll used, { queue with waiting := left }, .ok ())) ∨
        (screen.NeverRests queue.waiting ∧
          ∃ fault,
            settled =
                (screen.applyAll queue.waiting, { queue with waiting := [] }, .error fault) ∧
              fault = (if queue.senderAlive then .timedOut nanos else .workerStopped) ∧
              (fault.message = SettleFault.workerStopped.message ↔
                queue.senderAlive = false))) ∧
      drained.1 = (screen.drain queue).1 ∧ drained.2.1 = (screen.drain queue).2.1 ∧
      ∃ used,
        queue.waiting = used ++ settled.2.1.waiting ∧ settled.1 = screen.applyAll used ∧
          used.length + drained.2.2 = (screen.drain queue).2.2 := by
  intro settled drained
  rcases screen.settle_with_cases queue.waiting with ⟨used, left, rests, found⟩ | ⟨never, found⟩
  · have outcome :
        settled = (screen.applyAll used, { queue with waiting := left }, .ok ()) := by
      simp only [settled, settleWithin, found]
    refine ⟨.inl ⟨used, left, rests, outcome⟩, ?_⟩
    simp only [drained, outcome, drain, ← apply_all_append, ← rests.split, true_and]
    exact ⟨used, rests.split, rfl, by rw [rests.split, List.length_append]⟩
  · have outcome :
        settled =
          (screen.applyAll queue.waiting, { queue with waiting := [] },
            .error (if queue.senderAlive then .timedOut nanos else .workerStopped)) := by
      simp only [settled, settleWithin, found]
    refine ⟨.inr ⟨never, _, outcome, rfl, ?_⟩, ?_⟩
    · cases queue.senderAlive with
      | true => simpa using SettleFault.message_timed_out_ne nanos
      | false => simp
    · simp only [drained, outcome, drain, ← apply_all_append, List.append_nil, true_and]
      exact ⟨queue.waiting, rfl, rfl, rfl⟩

/-- A late answer to another request is used up on the way, and the event behind the awaited answer
stays, in no time at all and without a worker. -/
example :
    let screen := { blank .standard with pending := some 2 }
    let queue : EventQueue :=
      { capacity := 3, waiting := [.loaded 1 [], .loaded 2 [], .removed "a"]
        senderAlive := false, awaited := false }
    screen.settleWithin queue 0 =
      (blank .standard, { queue with waiting := [.removed "a"] }, .ok ()) :=
  rfl

end Screen

end CohortDesk
