import CohortDesk.Proofs.Worker.Run
import Mathlib.Data.List.Nodup
import Mathlib.Data.List.Perm.Basic

/-!
# Outstanding commands

A command is outstanding from the moment the queue takes it until the event that answers it has
been applied. A ledger keeps the outstanding commands beside the worker. The invariant has two
halves: the ledger holds what is under way in queue, calls and events, and the screen waits for
exactly what the ledger holds.
-/

namespace CohortDesk

set_option autoImplicit false

/-- What a screen knows about the errands that are not answered yet. -/
structure Screen.Owes (screen : Screen) (errands : List Errand) : Prop where
  distinct : errands.Nodup
  issued : ∀ request, .listing request ∈ errands → request ≤ screen.lastRequest
  awaited : ∀ request, screen.pending = some request →
    request = screen.lastRequest ∧ .listing request ∈ errands
  removing : ∀ name, .removal name ∈ errands ↔ name ∈ screen.removing

theorem owes_perm {screen : Screen} {errands others : List Errand}
    (same : errands.Perm others) (owes : screen.Owes errands) : screen.Owes others where
  distinct := same.nodup owes.distinct
  issued request member := owes.issued request (same.mem_iff.2 member)
  awaited request pending :=
    ⟨(owes.awaited request pending).1, same.mem_iff.1 (owes.awaited request pending).2⟩
  removing name := same.symm.mem_iff.trans (owes.removing name)

private theorem nodup_snoc {errand : Errand} {errands : List Errand} (absent : errand ∉ errands)
    (distinct : errands.Nodup) : (errands ++ [errand]).Nodup :=
  (List.perm_append_singleton errand errands).symm.nodup (List.nodup_cons.2 ⟨absent, distinct⟩)

/-- A gesture owes exactly what it puts on the queue in addition. -/
theorem owes_effect {desk after : Desk} {retrieves : Bool} {errands : List Errand}
    (effect : Desk.Effect desk retrieves after) (owes : desk.screen.Owes errands) :
    ∃ added, after.queue.waiting = desk.queue.waiting ++ added ∧
      after.screen.Owes (errands ++ added.map Command.errand) := by
  have fresh : Errand.listing (desk.screen.lastRequest + 1) ∉ errands := fun member =>
    Nat.lt_irrefl _ (owes.issued _ member)
  cases effect with
  | edited query filter selected =>
      refine ⟨[], (List.append_nil _).symm, ?_⟩
      rw [List.map_nil, List.append_nil]
      exact ⟨owes.distinct, owes.issued, owes.awaited, owes.removing⟩
  | requested query queue accepted =>
      refine ⟨_, CommandQueue.offer_waiting accepted, ?_, ?_, ?_, ?_⟩
      · exact nodup_snoc fresh owes.distinct
      · intro request member
        rcases List.mem_append.1 member with earlier | now
        · exact Nat.le_succ_of_le (owes.issued request earlier)
        · cases List.mem_singleton.1 now
          exact Nat.le_refl _
      · intro request pending
        cases pending
        exact ⟨rfl, List.mem_append_right _ (List.mem_singleton_self _)⟩
      · intro name
        rw [← owes.removing name]
        simp [Command.errand]
  | declined query fault refused =>
      -- The number is used up, so the errands owed stay below the last one.
      refine ⟨[], (List.append_nil _).symm, ?_⟩
      rw [List.map_nil, List.append_nil]
      refine ⟨owes.distinct, fun request member => ?_, fun request pending => ?_, owes.removing⟩
      · exact Nat.le_succ_of_le (owes.issued request member)
      · cases pending
  | marked name queue idle shown accepted =>
      have absent : Errand.removal name ∉ errands := fun member =>
        idle ((owes.removing name).1 member)
      refine ⟨_, CommandQueue.offer_waiting accepted, ?_, ?_, ?_, ?_⟩
      · exact nodup_snoc absent owes.distinct
      · intro request member
        exact owes.issued request (by simpa [Command.errand] using member)
      · intro request pending
        obtain ⟨number, member⟩ := owes.awaited request pending
        exact ⟨number, List.mem_append_left _ member⟩
      · intro other
        rw [NameSet.mem_insert, ← owes.removing other]
        simp [Command.errand, or_comm]
  | unmarked name fault idle shown refused =>
      refine ⟨[], (List.append_nil _).symm, ?_⟩
      rw [List.map_nil, List.append_nil]
      exact ⟨owes.distinct, owes.issued, owes.awaited, owes.removing⟩

/-- An applied answer settles its errand and no other. -/
theorem owes_apply {screen : Screen} {event : Event} {errand : Errand} {errands : List Errand}
    (about : event.errand? = some errand) (owes : screen.Owes (errand :: errands)) :
    (screen.apply event).Owes errands := by
  have absent : errand ∉ errands := (List.nodup_cons.1 owes.distinct).1
  have distinct : errands.Nodup := (List.nodup_cons.1 owes.distinct).2
  have issued (request : RequestNumber) (member : .listing request ∈ errands) :
      request ≤ (screen.apply event).lastRequest := by
    rw [Screen.apply_last_request]
    exact owes.issued request (List.mem_cons_of_mem _ member)
  cases errand with
  | listing number =>
      obtain ⟨removing, pending⟩ := screen.apply_listing about
      refine ⟨distinct, issued, fun request waiting => ?_, fun name => ?_⟩
      · rw [pending] at waiting
        rw [Screen.apply_last_request]
        split at waiting
        · cases waiting
        · rename_i different
          obtain ⟨last, member⟩ := owes.awaited request waiting
          refine ⟨last, (List.mem_cons.1 member).resolve_left ?_⟩
          intro same
          cases same
          exact different waiting
      · rw [removing, ← owes.removing name]
        simp
  | removal name =>
      obtain ⟨removing, pending⟩ := screen.apply_removal about
      refine ⟨distinct, issued, fun request waiting => ?_, fun other => ?_⟩
      · rw [pending] at waiting
        rw [Screen.apply_last_request]
        obtain ⟨last, member⟩ := owes.awaited request waiting
        exact ⟨last, (List.mem_cons.1 member).resolve_left (fun same => by cases same)⟩
      · rw [removing, NameSet.mem_erase, ← owes.removing other]
        constructor
        · intro member
          refine ⟨List.mem_cons_of_mem _ member, ?_⟩
          rintro rfl
          exact absent member
        · rintro ⟨member, different⟩
          refine (List.mem_cons.1 member).resolve_left ?_
          intro same
          cases same
          exact different rfl

theorem perm_cons_eraseP {Item : Type} {holds : Item → Bool} {items : List Item}
    {item : Item} (found : items.find? holds = some item) :
    items.Perm (item :: items.eraseP holds) := by
  induction items with
  | nil => cases found
  | cons head tail ih =>
      by_cases here : holds head = true
      · rw [List.find?_cons_of_pos here] at found
        cases found
        rw [List.eraseP_cons_of_pos here]
      · rw [List.find?_cons_of_neg here] at found
        rw [List.eraseP_cons_of_neg here]
        exact ((ih found).cons head).trans (List.Perm.swap item head _)

def Desk.queued (desk : Desk) (gesture : Gesture) : List Command :=
  (desk.perform gesture).1.queue.waiting.drop desk.queue.waiting.length

def Event.answers (event : Event) (command : Command) : Bool :=
  event.errand? == some command.errand

def Command.carries (request : RequestNumber) : Command → Bool
  | .fetch number _ => number == request
  | .remove _ => false

/-- The errands in the queue, those in calls without an answer, and those of events on their way to
the screen. -/
def Worker.underWay (worker : Worker) : List Errand :=
  worker.desk.queue.waiting.map Command.errand ++ worker.unanswered.map (·.2.errand) ++
    worker.delivering.filterMap Event.errand? ++ worker.events.waiting.filterMap Event.errand?

namespace Worker

theorem under_way_gesture (worker : Worker) (made : Gesture) {added : List Command}
    (grown : (worker.desk.perform made).1.queue.waiting = worker.desk.queue.waiting ++ added) :
    (worker.move (.gesture made)).underWay.Perm (worker.underWay ++ added.map Command.errand) := by
  rw [List.perm_iff_count]
  intro errand
  simp only [underWay, move, grown, List.map_append, List.count_append]
  omega

theorem under_way_start (worker : Worker) : worker.start.underWay.Perm worker.underWay := by
  rw [List.perm_iff_count]
  intro errand
  cases waiting : worker.desk.queue.waiting with
  | nil => simp only [start, CommandQueue.take?, waiting]
  | cons command rest =>
      simp only [underWay, start, CommandQueue.take?, waiting, List.map_append, List.map_cons,
        List.map_nil, List.count_append, List.count_cons, List.count_nil]
      omega

/-- An answered call turns into the event that reports it. -/
theorem under_way_answer (worker : Worker) (call : Nat) (answer : Answer) :
    (worker.answer call answer).underWay.Perm worker.underWay := by
  rw [List.perm_iff_count]
  intro errand
  unfold Worker.answer command?
  cases found : worker.unanswered.find? (·.1 == call) with
  | none => rfl
  | some entry =>
      have calls := (perm_cons_eraseP found).map (·.2.errand)
      have counted := calls.count_eq errand
      simp only [List.map_cons, List.count_cons] at counted
      simp only [underWay, Option.map_some, List.filterMap_append, List.filterMap_cons,
        completion_errand, List.filterMap_nil, List.count_append, List.count_cons, List.count_nil]
      omega

theorem under_way_deliver {worker : Worker} (listening : worker.listening = true) (index : Nat) :
    (worker.deliver index).underWay.Perm worker.underWay := by
  rw [List.perm_iff_count]
  intro errand
  unfold deliver
  cases found : worker.delivering[index]? with
  | none => rfl
  | some event =>
      obtain ⟨bound, same⟩ := List.getElem?_eq_some_iff.1 found
      have events := (List.getElem_cons_eraseIdx_perm bound).filterMap Event.errand?
      have counted := events.count_eq errand
      rw [same] at counted
      simp only [listening, Bool.not_true, Bool.false_eq_true, if_false, EventQueue.send]
      by_cases room : (worker.events.senderAlive && worker.events.hasRoom) = true
      · simp only [if_pos room, underWay, List.filterMap_append, List.count_append]
        rw [← counted, List.filterMap_cons, List.filterMap_cons, List.filterMap_nil]
        cases event.errand? with
        | none => simp only [List.count_nil]; omega
        | some errand => simp only [List.count_cons, List.count_nil]; omega
      · simp only [if_neg room]

theorem under_way_apply {worker : Worker} {event : Event} {rest : List Event} {errand : Errand}
    (waiting : worker.events.waiting = event :: rest) (about : event.errand? = some errand) :
    worker.underWay.Perm (errand :: worker.applyNext.underWay) := by
  rw [List.perm_iff_count]
  intro other
  simp only [underWay, applyNext, waiting, Desk.apply, List.filterMap_cons, about,
    List.count_append, List.count_cons]
  omega

/-- What the moves do that neither take a command nor apply an event. -/
structure Carries (before after : Worker) : Prop where
  listening : after.listening = before.listening
  screen : after.desk.screen = before.desk.screen
  underWay : after.underWay.Perm before.underWay
  events : ∀ event ∈ after.delivering ++ after.events.waiting,
    event ∈ before.delivering ++ before.events.waiting ∨ event.errand?.isSome

theorem Carries.refl (worker : Worker) : worker.Carries worker :=
  ⟨rfl, rfl, .refl _, fun _ member => .inl member⟩

theorem carries_start (worker : Worker) : worker.Carries worker.start := by
  have carried := worker.under_way_start
  unfold start at carried ⊢
  cases taken : worker.desk.queue.take? with
  | none => exact .refl worker
  | some next =>
      rw [taken] at carried
      exact ⟨rfl, rfl, carried, fun event member => .inl member⟩

theorem carries_answer (worker : Worker) (call : Nat) (answer : Answer) :
    worker.Carries (worker.answer call answer) := by
  have carried := worker.under_way_answer call answer
  unfold Worker.answer at carried ⊢
  cases found : worker.command? call with
  | none => exact .refl worker
  | some command =>
      rw [found] at carried
      refine ⟨rfl, rfl, carried, fun event member => ?_⟩
      simp only [List.mem_append, List.mem_singleton] at member ⊢
      rcases member with (before | rfl) | waiting
      · exact .inl (.inl before)
      · exact .inr (completion_errand command answer ▸ rfl)
      · exact .inl (.inr waiting)

theorem carries_deliver {worker : Worker} (listening : worker.listening = true) (index : Nat) :
    worker.Carries (worker.deliver index) := by
  have carried := under_way_deliver listening index
  unfold deliver at carried ⊢
  cases found : worker.delivering[index]? with
  | none => exact .refl worker
  | some arrived =>
      simp only [found, listening, Bool.not_true, Bool.false_eq_true, if_false,
        EventQueue.send] at carried ⊢
      by_cases room : (worker.events.senderAlive && worker.events.hasRoom) = true
      · simp only [if_pos room] at carried ⊢
        refine ⟨listening.symm, rfl, carried, fun event member => .inl ?_⟩
        simp only [List.mem_append, List.mem_singleton] at member ⊢
        rcases member with kept | waiting | rfl
        · exact .inl (List.mem_of_mem_eraseIdx kept)
        · exact .inr waiting
        · exact .inl (List.mem_of_getElem? found)
      · simp only [if_neg room]
        exact .refl worker

end Worker

structure Ledger where
  worker : Worker
  outstanding : List Command
  deriving DecidableEq

namespace Ledger

def launchOn (commands : CommandQueue) (eventCapacity : Nat) (options : ViewOptions) : Ledger :=
  let worker := Worker.launchOn commands eventCapacity options
  { worker, outstanding := worker.desk.queue.waiting.drop commands.waiting.length }

/-- A command enters the ledger when the queue takes it, and leaves it when an event that answers it
is applied. -/
def move (ledger : Ledger) (next : Move) : Ledger :=
  { worker := ledger.worker.move next
    outstanding :=
      match next with
      | .gesture made => ledger.outstanding ++ ledger.worker.desk.queued made
      | .apply =>
        match ledger.worker.events.waiting with
        | event :: _ => ledger.outstanding.eraseP event.answers
        | [] => ledger.outstanding
      | _ => ledger.outstanding }

def run (ledger : Ledger) (moves : List Move) : Ledger := moves.foldl move ledger

theorem run_worker (ledger : Ledger) (moves : List Move) :
    (ledger.run moves).worker = ledger.worker.run moves := by
  induction moves generalizing ledger with
  | nil => rfl
  | cons next rest ih => exact ih (ledger.move next)

/-- While the screen listens, nothing under way is lost, and every event on its way answers a
command. -/
structure Balanced (ledger : Ledger) : Prop where
  listening : ledger.worker.listening = true
  answering : ∀ event ∈ ledger.worker.delivering ++ ledger.worker.events.waiting,
    event.errand?.isSome
  underWay : (ledger.outstanding.map Command.errand).Perm ledger.worker.underWay
  owed : ledger.worker.desk.screen.Owes (ledger.outstanding.map Command.errand)

theorem balanced_gesture {ledger : Ledger} (balanced : ledger.Balanced) (made : Gesture) :
    (ledger.move (.gesture made)).Balanced := by
  obtain ⟨added, grown, owed⟩ :=
    owes_effect (Desk.perform_effect ledger.worker.desk made) balanced.owed
  have queued : ledger.worker.desk.queued made = added := by
    rw [Desk.queued, grown, List.drop_left]
  have outstanding : (ledger.move (.gesture made)).outstanding = ledger.outstanding ++ added :=
    congrArg (ledger.outstanding ++ ·) queued
  refine ⟨balanced.listening, balanced.answering, ?_, ?_⟩
  · rw [outstanding, List.map_append]
    exact (balanced.underWay.append_right _).trans
      (ledger.worker.under_way_gesture made grown).symm
  · rw [outstanding, List.map_append]
    exact owed

theorem balanced_carry {ledger : Ledger} (balanced : ledger.Balanced) {worker : Worker}
    (carries : ledger.worker.Carries worker) :
    Balanced { worker, outstanding := ledger.outstanding } where
  listening := carries.listening.trans balanced.listening
  answering event member := (carries.events event member).elim (balanced.answering event) id
  underWay := balanced.underWay.trans carries.underWay.symm
  owed := carries.screen ▸ balanced.owed

theorem balanced_apply {ledger : Ledger} (balanced : ledger.Balanced) :
    (ledger.move .apply).Balanced := by
  cases waiting : ledger.worker.events.waiting with
  | nil =>
      have idle : ledger.worker.applyNext = ledger.worker := by
        simp only [Worker.applyNext, waiting]
      have same : ledger.move .apply = ledger := by
        simp only [move, Worker.move, waiting, idle]
      rw [same]
      exact balanced
  | cons event rest =>
      have known : event.errand?.isSome := balanced.answering event
        (List.mem_append_right _ (waiting ▸ List.mem_cons_self))
      obtain ⟨errand, about⟩ := Option.isSome_iff_exists.1 known
      have settles := Worker.under_way_apply waiting about
      have noted : errand ∈ ledger.outstanding.map Command.errand :=
        balanced.underWay.mem_iff.2 (settles.mem_iff.2 List.mem_cons_self)
      -- The ledger strikes out the first command with this errand, perhaps another than `command`;
      -- the errands left are the same.
      obtain ⟨command, member, same⟩ := List.mem_map.1 noted
      have answered : event.answers command = true := by
        rw [Event.answers, about, same, beq_self_eq_true]
      obtain ⟨first, found⟩ := Option.isSome_iff_exists.1
        (List.find?_isSome.2 ⟨command, member, answered⟩)
      have firstErrand : first.errand = errand := by
        have holds := List.find?_some found
        rw [Event.answers, about, beq_iff_eq] at holds
        exact (Option.some.inj holds).symm
      have left : (ledger.outstanding.map Command.errand).Perm
          (errand :: (ledger.outstanding.eraseP event.answers).map Command.errand) := by
        have erased := (perm_cons_eraseP found).map Command.errand
        rw [List.map_cons, firstErrand] at erased
        exact erased
      have outstanding : (ledger.move .apply).outstanding =
          ledger.outstanding.eraseP event.answers := by
        simp only [move, waiting]
      have screen : (ledger.move .apply).worker.desk.screen =
          ledger.worker.desk.screen.apply event := by
        simp only [move, Worker.move, Worker.applyNext, waiting, Desk.apply]
      refine ⟨?_, ?_, ?_, ?_⟩
      · simp only [move, Worker.move, Worker.applyNext, waiting, balanced.listening]
      · intro other present
        simp only [move, Worker.move, Worker.applyNext, waiting] at present
        refine balanced.answering other ?_
        rw [waiting]
        rcases List.mem_append.1 present with delivering | later
        · exact List.mem_append_left _ delivering
        · exact List.mem_append_right _ (List.mem_cons_of_mem _ later)
      · rw [outstanding]
        exact (left.symm.trans (balanced.underWay.trans settles)).cons_inv
      · rw [outstanding, screen]
        exact owes_apply about (owes_perm left balanced.owed)

theorem balanced_move {ledger : Ledger} (balanced : ledger.Balanced) {next : Move}
    (listens : next ≠ .hangUp) : (ledger.move next).Balanced := by
  cases next with
  | gesture made => exact balanced_gesture balanced made
  | await => exact ⟨balanced.listening, balanced.answering, balanced.underWay, balanced.owed⟩
  | start => exact balanced_carry balanced ledger.worker.carries_start
  | answer call answer => exact balanced_carry balanced (ledger.worker.carries_answer call answer)
  | deliver index =>
      exact balanced_carry balanced (Worker.carries_deliver balanced.listening index)
  | listen => exact ⟨balanced.listening, balanced.answering, balanced.underWay, balanced.owed⟩
  | apply => exact balanced_apply balanced
  | hangUp => exact absurd rfl listens

theorem balanced_run {ledger : Ledger} (balanced : ledger.Balanced) {moves : List Move}
    (listens : .hangUp ∉ moves) : (ledger.run moves).Balanced := by
  induction moves generalizing ledger with
  | nil => exact balanced
  | cons next rest ih =>
      have here : next ≠ .hangUp := fun same => listens (same ▸ List.mem_cons_self)
      exact ih (balanced_move balanced here) fun later => listens (List.mem_cons_of_mem _ later)

theorem balanced_launch {commands : CommandQueue} (unused : commands.waiting = [])
    (eventCapacity : Nat) (options : ViewOptions) :
    (launchOn commands eventCapacity options).Balanced := by
  have fresh : (launchOn commands eventCapacity options).outstanding =
      (Desk.start commands options).queue.waiting := by
    simp only [launchOn, Worker.launchOn, unused, List.length_nil, List.drop_zero]
  have unmarked (name : CohortName) : name ∉ (Screen.blank options).removing :=
    NameSet.not_mem_empty name
  refine ⟨rfl, fun event member => absurd member List.not_mem_nil, ?_, ?_⟩
  · rw [fresh]
    simp [launchOn, Worker.underWay, Worker.launchOn, EventQueue.empty]
  · rw [fresh]
    change (Desk.start commands options).screen.Owes _
    unfold Desk.start Desk.fetch
    cases answer : commands.offer (.fetch ((Screen.blank options).lastRequest + 1) none) with
    | ok queue =>
        have taken := CommandQueue.offer_waiting answer
        rw [unused, List.nil_append] at taken
        simp only [answer, taken, List.map_cons, List.map_nil, Command.errand]
        refine ⟨List.pairwise_singleton _ _, fun request member => ?_, fun request pending => ?_,
          fun name => ?_⟩
        · cases List.mem_singleton.1 member
          exact Nat.le_refl _
        · cases pending
          exact ⟨rfl, List.mem_singleton_self _⟩
        · simp [unmarked name]
    | error fault =>
        simp only [answer, unused, List.map_nil]
        refine ⟨.nil, fun request member => absurd member List.not_mem_nil,
          fun request pending => ?_, fun name => ?_⟩
        · cases pending
        · simp [unmarked name]

theorem countP_carries (commands : List Command) (request : RequestNumber) :
    commands.countP (Command.carries request) =
      (commands.map Command.errand).count (.listing request) := by
  rw [List.count_eq_countP, List.countP_map]
  congr 1
  funext command
  cases command with
  | fetch number query =>
      rw [Bool.eq_iff_iff]
      simp [Command.carries, Command.errand]
  | remove name => rfl

theorem count_remove (commands : List Command) (name : CohortName) :
    commands.count (.remove name) = (commands.map Command.errand).count (.removal name) := by
  rw [List.count_eq_countP, List.count_eq_countP, List.countP_map]
  congr 1
  funext command
  cases command with
  | fetch number query => rfl
  | remove other =>
      rw [Bool.eq_iff_iff]
      simp [Command.errand]

/-- Whatever the order of gestures, calls and answers, and whatever the queue refuses: the screen
waits for no listing or for the one asked for last, which one outstanding command asks for; and it
marks a name for removal exactly while one outstanding command removes it. So a screen with nothing
outstanding is never busy. -/
theorem screen_awaits_exactly_the_outstanding (commandCapacity eventCapacity : Nat)
    (ready : Bool) (options : ViewOptions) (moves : List Move) (listens : .hangUp ∉ moves) :
    let commands := { CommandQueue.empty commandCapacity with awaited := ready }
    let ledger := (launchOn commands eventCapacity options).run moves
    let screen := ledger.worker.desk.screen
    ledger.worker = (Worker.launchOn commands eventCapacity options).run moves ∧
      (screen.pending = none ∨
        (screen.pending = some (Worker.attempts moves) ∧
          ledger.outstanding.countP (Command.carries (Worker.attempts moves)) = 1)) ∧
      (∀ name, ledger.outstanding.count (.remove name) =
        if name ∈ screen.removing then 1 else 0) ∧
      (ledger.outstanding = [] → screen.isBusy = false) := by
  intro commands ledger screen
  have same : ledger.worker = (Worker.launchOn commands eventCapacity options).run moves :=
    run_worker _ moves
  have counted : screen.lastRequest = Worker.attempts moves := by
    simp only [screen, same]
    exact Worker.last_request_attempts commands eventCapacity options moves
  have owed : screen.Owes (ledger.outstanding.map Command.errand) :=
    (balanced_run (balanced_launch rfl eventCapacity options) listens).owed
  have listing : screen.pending = none ∨
      (screen.pending = some (Worker.attempts moves) ∧
        ledger.outstanding.countP (Command.carries (Worker.attempts moves)) = 1) := by
    cases pending : screen.pending with
    | none => exact .inl rfl
    | some request =>
        obtain ⟨last, member⟩ := owed.awaited request pending
        rw [counted] at last
        subst last
        rw [countP_carries]
        exact .inr ⟨rfl, List.count_eq_one_of_mem owed.distinct member⟩
  have removals (name : CohortName) : ledger.outstanding.count (.remove name) =
      if name ∈ screen.removing then 1 else 0 := by
    rw [count_remove]
    split
    · rename_i marked
      exact List.count_eq_one_of_mem owed.distinct ((owed.removing name).2 marked)
    · rename_i unmarked
      exact List.count_eq_zero.2 fun member => unmarked ((owed.removing name).1 member)
  refine ⟨same, listing, removals, ?_⟩
  intro settled
  have idle : screen.pending = none := by
    rcases listing with idle | ⟨_, one⟩
    · exact idle
    · rw [settled] at one
      cases one
  have unmarked : screen.removing.isEmpty = true := by
    rw [NameSet.is_empty_iff]
    intro name marked
    have none := removals name
    rw [settled, if_pos marked] at none
    cases none
  rw [Screen.isBusy, idle, unmarked]
  rfl

/-- Through a queue without any room of its own: the third request overtakes the removal, and the
second, which the queue refused, leaves no trace. -/
theorem screen_awaits_third_request_beside_removal :
    let moves : List Move :=
      [.start, .answer 0 (.success [.named "a"]), .deliver 0, .apply, .await,
        .gesture (.remove "a"), .gesture .refresh, .start, .await, .gesture .refresh]
    let ledger := (launchOn { CommandQueue.empty 0 with awaited := true } 8 .standard).run moves
    .hangUp ∉ moves ∧ ledger.worker.desk.screen.pending = some 3 ∧
      ledger.outstanding.countP (Command.carries 3) = 1 ∧
      ledger.outstanding.count (.remove "a") = 1 := by
  intro moves ledger
  have quiet : .hangUp ∉ moves := by decide
  have held := screen_awaits_exactly_the_outstanding 0 8 true .standard moves quiet
  have busy : ledger.worker.desk.screen.pending ≠ none := by decide
  have marked : "a" ∈ ledger.worker.desk.screen.removing := by decide
  obtain ⟨pending, one⟩ := held.2.1.resolve_left busy
  exact ⟨quiet, pending, one, (held.2.2.1 "a").trans (if_pos marked)⟩

end Ledger

end CohortDesk
