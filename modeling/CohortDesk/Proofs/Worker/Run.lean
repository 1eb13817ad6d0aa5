import CohortDesk.Proofs.Desk.Run
import CohortDesk.Worker

/-!
# The desk inside a run of the worker

Seen from the desk, a run of the whole is a run of the desk alone: the worker is the reader of its
queue, and the events it applies are the ones that reached the event queue. What holds over every
run of a desk therefore holds for the desk of every run of the whole.
-/

namespace CohortDesk

set_option autoImplicit false

def Move.retrieves : Move → Bool
  | .gesture made => made.retrieves
  | _ => false

namespace Worker

/-- What the desk notices of a move. -/
def deskMoves (worker : Worker) : Move → List DeskMove
  | .gesture made => [.gesture made]
  | .await => [.await]
  | .start => [.take]
  | .apply => (worker.events.waiting.head?.map DeskMove.apply).toList
  | .answer _ _ | .deliver _ | .listen | .hangUp => []

def deskRun (worker : Worker) : List Move → List DeskMove
  | [] => []
  | next :: rest => worker.deskMoves next ++ (worker.move next).deskRun rest

@[simp] theorem answer_desk (worker : Worker) (call : Nat) (answer : Answer) :
    (worker.answer call answer).desk = worker.desk := by
  unfold Worker.answer
  split <;> rfl

@[simp] theorem deliver_desk (worker : Worker) (index : Nat) :
    (worker.deliver index).desk = worker.desk := by
  unfold deliver
  split
  · rfl
  · split
    · rfl
    · split <;> rfl

theorem move_desk (worker : Worker) (next : Move) :
    (worker.move next).desk = worker.desk.run (worker.deskMoves next) := by
  cases next with
  | gesture made => rfl
  | await => rfl
  | start =>
      change worker.start.desk = worker.desk.move .take
      unfold start Desk.move
      cases worker.desk.queue.take? <;> rfl
  | answer call answer => exact worker.answer_desk call answer
  | deliver index => exact worker.deliver_desk index
  | listen => rfl
  | apply =>
      change worker.applyNext.desk = _
      unfold applyNext deskMoves
      cases worker.events.waiting <;> rfl
  | hangUp => rfl

theorem run_desk (worker : Worker) (moves : List Move) :
    (worker.run moves).desk = worker.desk.run (worker.deskRun moves) := by
  induction moves generalizing worker with
  | nil => rfl
  | cons next rest ih =>
      rw [deskRun, Desk.run_append, ← move_desk, ← ih]
      rfl

theorem desk_moves_retrieves (worker : Worker) (next : Move) :
    (worker.deskMoves next).countP DeskMove.retrieves = if next.retrieves then 1 else 0 := by
  cases next with
  | gesture made => exact List.countP_singleton
  | apply =>
      unfold deskMoves
      cases worker.events.waiting <;> rfl
  | await => rfl
  | start => rfl
  | answer call answer => rfl
  | deliver index => rfl
  | listen => rfl
  | hangUp => rfl

theorem desk_run_retrieves (worker : Worker) (moves : List Move) :
    (worker.deskRun moves).countP DeskMove.retrieves = moves.countP Move.retrieves := by
  induction moves generalizing worker with
  | nil => rfl
  | cons next rest ih =>
      rw [deskRun, List.countP_append, desk_moves_retrieves, ih, List.countP_cons, Nat.add_comm]

theorem gesture_of_mem_desk_run {worker : Worker} {moves : List Move} {made : Gesture}
    (member : .gesture made ∈ worker.deskRun moves) : .gesture made ∈ moves := by
  induction moves generalizing worker with
  | nil => cases member
  | cons next rest ih =>
      rcases List.mem_append.1 member with here | later
      · cases next <;> simp_all [deskMoves]
      · exact List.mem_cons_of_mem _ (ih later)

/-- Attempts to retrieve a listing since the launch, the first one included. -/
def attempts (moves : List Move) : Nat := 1 + moves.countP Move.retrieves

theorem attempts_append (first second : List Move) :
    attempts (first ++ second) = attempts first + second.countP Move.retrieves := by
  rw [attempts, attempts, List.countP_append, Nat.add_assoc]

theorem last_request_attempts (commands : CommandQueue) (eventCapacity : Nat)
    (options : ViewOptions) (moves : List Move) :
    ((launchOn commands eventCapacity options).run moves).desk.screen.lastRequest =
      attempts moves := by
  rw [run_desk, Desk.run_last_request, desk_run_retrieves]
  exact congrArg (· + _) (Desk.start_last_request commands options)

end Worker

end CohortDesk
