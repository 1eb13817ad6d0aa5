import CohortDesk.Proofs.Desk.Choices
import CohortDesk.Proofs.Worker.Outstanding

/-!
# What an arriving event finds

The event that is next to be applied answers a command that is still outstanding. If it answers a
listing, the screen waits for it exactly if no later attempt was made; if it answers a removal, the
name is under removal. Nothing arrives once the screen has ceased to listen.
-/

namespace CohortDesk

set_option autoImplicit false

/-- The listing asked for last, once owed, is also waited for. -/
def Screen.Expects (screen : Screen) (errands : List Errand) : Prop :=
  .listing screen.lastRequest ∈ errands → screen.pending = some screen.lastRequest

theorem expects_perm {screen : Screen} {errands others : List Errand}
    (same : errands.Perm others) (expects : screen.Expects errands) : screen.Expects others :=
  fun member => expects (same.mem_iff.2 member)

theorem expects_effect {desk after : Desk} {retrieves : Bool} {errands : List Errand}
    {added : List Command} (effect : Desk.Effect desk retrieves after)
    (owes : desk.screen.Owes errands) (expects : desk.screen.Expects errands)
    (grown : after.queue.waiting = desk.queue.waiting ++ added) :
    after.screen.Expects (errands ++ added.map Command.errand) := by
  intro member
  cases effect with
  | edited query filter selected =>
      have none : added = [] := List.self_eq_append_right.1 grown
      rw [none, List.map_nil, List.append_nil] at member
      exact expects member
  | requested query queue accepted => rfl
  | declined query fault refused =>
      -- The number is used up without a command, so no errand carries it.
      have none : added = [] := List.self_eq_append_right.1 grown
      rw [none, List.map_nil, List.append_nil] at member
      exact absurd (owes.issued _ member) (Nat.not_succ_le_self _)
  | marked name queue idle shown accepted =>
      rw [CommandQueue.offer_waiting accepted, List.append_cancel_left_eq] at grown
      subst grown
      simp only [List.map_cons, List.map_nil, List.mem_append, List.mem_singleton] at member
      rcases member with before | other
      · exact expects before
      · cases other
  | unmarked name fault idle shown refused =>
      have none : added = [] := List.self_eq_append_right.1 grown
      rw [none, List.map_nil, List.append_nil] at member
      exact expects member

theorem expects_apply {screen : Screen} {event : Event} {errand : Errand} {errands : List Errand}
    (about : event.errand? = some errand) (owes : screen.Owes (errand :: errands))
    (expects : screen.Expects (errand :: errands)) : (screen.apply event).Expects errands := by
  intro member
  rw [Screen.apply_last_request] at member ⊢
  have waiting := expects (List.mem_cons_of_mem _ member)
  cases errand with
  | listing number =>
      have other : screen.pending ≠ some number := by
        rw [waiting]
        intro same
        rw [Option.some.inj same] at member
        exact (List.nodup_cons.1 owes.distinct).1 member
      rw [(screen.apply_listing about).2, if_neg other, waiting]
  | removal name => rw [(screen.apply_removal about).2, waiting]

def Move.gesture? : Move → Option Gesture
  | .gesture made => some made
  | _ => none

namespace Worker

def Expects (worker : Worker) : Prop := worker.desk.screen.Expects worker.underWay

theorem expects_carry {before after : Worker} (carries : before.Carries after)
    (expects : before.Expects) : after.Expects := by
  rw [Expects, carries.screen]
  exact expects_perm carries.underWay.symm expects

theorem expects_launch_on {commands : CommandQueue} (unused : commands.waiting = [])
    (eventCapacity : Nat) (options : ViewOptions) :
    (launchOn commands eventCapacity options).Expects := by
  intro member
  simp only [underWay, launchOn, EventQueue.empty, Desk.start, Desk.fetch] at member ⊢
  cases answer : commands.offer (.fetch ((Screen.blank options).lastRequest + 1) none) with
  | ok queue => simp
  | error fault =>
      simp only [answer, unused] at member
      simp at member

/-- A new worker, which may or may not wait already when the screen asks for its first listing. -/
def launchWith (commandCapacity eventCapacity : Nat) (ready : Bool) (options : ViewOptions) :
    Worker :=
  launchOn { CommandQueue.empty commandCapacity with awaited := ready } eventCapacity options

theorem run_append (worker : Worker) (first second : List Move) :
    worker.run (first ++ second) = (worker.run first).run second :=
  List.foldl_append

/-- The event that is applied next. -/
def arriving (worker : Worker) : Option Event := worker.events.waiting.head?

theorem run_concat (worker : Worker) (moves : List Move) (next : Move) :
    worker.run (moves ++ [next]) = (worker.run moves).move next :=
  worker.run_append moves [next]

theorem apply_screen {worker : Worker} {event : Event}
    (arrives : worker.arriving = some event) :
    (worker.move .apply).desk.screen = worker.desk.screen.apply event := by
  obtain ⟨rest, waiting⟩ := List.head?_eq_some_iff.1 arrives
  simp only [move, applyNext, waiting, Desk.apply]

/-- All that the screen goes through: gestures, and the events that arrive. -/
inductive ScreenEffect (worker : Worker) : Move → Screen → Prop
  | gesture (made : Gesture) :
      ScreenEffect worker (.gesture made) (worker.desk.perform made).1.screen
  | applied (event : Event) (arrives : worker.arriving = some event) :
      ScreenEffect worker .apply (worker.desk.screen.apply event)
  | kept (next : Move) (plain : next.gesture? = none) :
      ScreenEffect worker next worker.desk.screen

theorem move_screen (worker : Worker) (next : Move) :
    worker.ScreenEffect next (worker.move next).desk.screen := by
  cases next with
  | gesture made => exact .gesture made
  | await => exact .kept _ rfl
  | start =>
      rw [move_desk]
      change ScreenEffect worker .start (worker.desk.move .take).screen
      rw [Desk.take_screen]
      exact .kept _ rfl
  | answer call answer =>
      rw [move, answer_desk]
      exact .kept _ rfl
  | deliver index =>
      rw [move, deliver_desk]
      exact .kept _ rfl
  | listen => exact .kept _ rfl
  | apply =>
      cases arrives : worker.arriving with
      | none =>
          have waiting : worker.events.waiting = [] := List.head?_eq_none_iff.1 arrives
          simp only [move, applyNext, waiting]
          exact .kept _ rfl
      | some event =>
          rw [apply_screen arrives]
          exact .applied event arrives
  | hangUp => exact .kept _ rfl

theorem removing_of_run {worker : Worker} {moves : List Move} {name : CohortName}
    (held : name ∈ (worker.run moves).desk.screen.removing) :
    name ∈ worker.desk.screen.removing ∨ .gesture (.remove name) ∈ moves := by
  rw [run_desk] at held
  rcases Desk.removing_of_run held with before | later
  · exact .inl before
  · exact .inr (gesture_of_mem_desk_run later)

/-- The screen has ceased to listen, and nothing is left for it. -/
structure Deaf (worker : Worker) : Prop where
  listening : worker.listening = false
  waiting : worker.events.waiting = []

theorem deaf_move {worker : Worker} (deaf : worker.Deaf) (next : Move) :
    (worker.move next).Deaf := by
  obtain ⟨listening, waiting⟩ := deaf
  cases next with
  | gesture made => exact ⟨listening, waiting⟩
  | await => exact ⟨listening, waiting⟩
  | start =>
      simp only [move, start]
      split <;> exact ⟨listening, waiting⟩
  | answer call answer =>
      simp only [move, Worker.answer]
      split <;> exact ⟨listening, waiting⟩
  | deliver index =>
      simp only [move, deliver, listening, Bool.not_false, if_true]
      split
      · exact ⟨listening, waiting⟩
      · exact ⟨rfl, waiting⟩
  | listen => exact ⟨listening, waiting⟩
  | apply =>
      simp only [move, applyNext, waiting]
      exact ⟨listening, waiting⟩
  | hangUp => exact ⟨rfl, rfl⟩

theorem deaf_run {worker : Worker} (deaf : worker.Deaf) (moves : List Move) :
    (worker.run moves).Deaf := by
  induction moves generalizing worker with
  | nil => exact deaf
  | cons next rest ih => exact ih (deaf_move deaf next)

theorem not_mem_hang_up_of_arriving {worker : Worker} {moves : List Move} {event : Event}
    (arrives : (worker.run moves).arriving = some event) : .hangUp ∉ moves := by
  intro member
  obtain ⟨early, late, rfl⟩ := List.append_of_mem member
  have deaf : (worker.run (early ++ .hangUp :: late)).Deaf := by
    have here : (worker.run early).hangUp.Deaf := ⟨rfl, rfl⟩
    rw [run_append]
    exact deaf_run here late
  rw [arriving, deaf.waiting] at arrives
  cases arrives

theorem expects_move {ledger : Ledger} (balanced : ledger.Balanced)
    (expects : ledger.worker.Expects) {next : Move} (listens : next ≠ .hangUp) :
    (ledger.worker.move next).Expects := by
  have owes : ledger.worker.desk.screen.Owes ledger.worker.underWay :=
    owes_perm balanced.underWay balanced.owed
  cases next with
  | gesture made =>
      have effect := Desk.perform_effect ledger.worker.desk made
      obtain ⟨added, grown, _⟩ := owes_effect effect owes
      exact expects_perm (ledger.worker.under_way_gesture made grown).symm
        (expects_effect effect owes expects grown)
  | await => exact expects
  | start => exact expects_carry ledger.worker.carries_start expects
  | answer call answer => exact expects_carry (ledger.worker.carries_answer call answer) expects
  | deliver index => exact expects_carry (carries_deliver balanced.listening index) expects
  | listen => exact expects
  | apply =>
      cases waiting : ledger.worker.events.waiting with
      | nil =>
          have idle : ledger.worker.applyNext = ledger.worker := by
            simp only [applyNext, waiting]
          rw [move, idle]
          exact expects
      | cons event rest =>
          have known : event.errand?.isSome := balanced.answering event
            (List.mem_append_right _ (waiting ▸ List.mem_cons_self))
          obtain ⟨errand, about⟩ := Option.isSome_iff_exists.1 known
          have settles := under_way_apply waiting about
          have applied := expects_apply about (owes_perm settles owes)
            (expects_perm settles expects)
          have arrives : ledger.worker.arriving = some event := by rw [arriving, waiting]; rfl
          rw [Expects, apply_screen arrives]
          exact applied
  | hangUp => exact absurd rfl listens

theorem expects_run {ledger : Ledger} (balanced : ledger.Balanced)
    (expects : ledger.worker.Expects) {moves : List Move} (listens : .hangUp ∉ moves) :
    (ledger.worker.run moves).Expects := by
  induction moves generalizing ledger with
  | nil => exact expects
  | cons next rest ih =>
      have here : next ≠ .hangUp := fun same => listens (same ▸ List.mem_cons_self)
      exact ih (Ledger.balanced_move balanced here) (expects_move balanced expects here)
        fun later => listens (List.mem_cons_of_mem _ later)

section Launched

variable {commands : CommandQueue} (unused : commands.waiting = []) {eventCapacity : Nat}
  {options : ViewOptions} {moves : List Move} {event : Event}

include unused

theorem arriving_owed
    (arrives : ((launchOn commands eventCapacity options).run moves).arriving = some event) :
    let worker := (launchOn commands eventCapacity options).run moves
    worker.Expects ∧ worker.desk.screen.Owes worker.underWay ∧
      ∃ errand ∈ worker.underWay, event.errand? = some errand := by
  have listens := not_mem_hang_up_of_arriving arrives
  have launched := Ledger.balanced_launch unused eventCapacity options
  have expects := expects_run launched (expects_launch_on unused eventCapacity options) listens
  have balanced := Ledger.balanced_run launched listens
  have same := Ledger.run_worker (Ledger.launchOn commands eventCapacity options) moves
  obtain ⟨rest, waiting⟩ := List.head?_eq_some_iff.1 arrives
  change ((Ledger.launchOn commands eventCapacity options).worker.run moves).events.waiting =
    _ at waiting
  rw [← same] at waiting
  have present : event ∈ ((Ledger.launchOn commands eventCapacity options).run
      moves).worker.events.waiting := waiting ▸ List.mem_cons_self
  obtain ⟨errand, about⟩ := Option.isSome_iff_exists.1
    (balanced.answering event (List.mem_append_right _ present))
  have owes := owes_perm balanced.underWay balanced.owed
  rw [same] at present owes
  refine ⟨expects, owes, errand, ?_, about⟩
  exact List.mem_append_right _ (List.mem_filterMap.2 ⟨event, present, about⟩)

/-- No listing arrives that was not asked for, and the screen waits for it unless a later attempt
was made. -/
theorem arriving_listing {request : RequestNumber}
    (arrives : ((launchOn commands eventCapacity options).run moves).arriving = some event)
    (about : event.errand? = some (.listing request)) :
    request ≤ attempts moves ∧
      (((launchOn commands eventCapacity options).run moves).desk.screen.pending = some request ↔
        request = attempts moves) := by
  obtain ⟨expects, owes, errand, present, same⟩ := arriving_owed unused arrives
  rw [about] at same
  cases same
  have counted := last_request_attempts commands eventCapacity options moves
  have issued := owes.issued request present
  rw [counted] at issued
  refine ⟨issued, fun pending => ?_, fun latest => ?_⟩
  · rw [← counted]
    exact (owes.awaited request pending).1
  · rw [latest, ← counted] at present ⊢
    exact expects present

theorem arriving_removal {name : CohortName}
    (arrives : ((launchOn commands eventCapacity options).run moves).arriving = some event)
    (about : event.errand? = some (.removal name)) :
    name ∈ ((launchOn commands eventCapacity options).run moves).desk.screen.removing := by
  obtain ⟨_, owes, errand, present, same⟩ := arriving_owed unused arrives
  rw [about] at same
  cases same
  exact (owes.removing name).1 present

end Launched

end Worker

end CohortDesk
