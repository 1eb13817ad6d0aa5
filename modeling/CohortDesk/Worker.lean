import CohortDesk.Desk
import CohortDesk.Screen.Settle
/-!
# The desk with its worker

The worker takes commands off the queue and starts a call to the service for each; calls run side
by side and are answered in any order. The event that reports an answer waits until the event queue
has room, and is dropped when nobody listens any more.
-/
namespace CohortDesk

/-- What the service is asked. -/
inductive Call
  | list (query : Option Query)
  | remove (name : CohortName)
  deriving DecidableEq, Repr

def Command.call : Command → Call
  | .fetch _ query => .list query
  | .remove name => .remove name

structure Worker where
  desk : Desk
  calls : List Call
  unanswered : List (Nat × Command)
  delivering : List Event
  events : EventQueue
  listening : Bool
  deriving DecidableEq

/-- One move of the whole: a gesture, the worker waiting for a command or starting the next one, the
service answering a call, a finished event finding room in the queue, the screen waiting for an
event or applying the next one, or the screen ceasing to listen. -/
inductive Move
  | gesture (gesture : Gesture)
  | await
  | start
  | answer (call : Nat) (answer : Answer)
  | deliver (index : Nat)
  | listen
  | apply
  | hangUp
  deriving DecidableEq

namespace Worker

/-- The worker may or may not be waiting already when the screen asks for its first listing. -/
def launchOn (commands : CommandQueue) (eventCapacity : Nat) (options : ViewOptions) : Worker :=
  { desk := Desk.start commands options
    calls := []
    unanswered := []
    delivering := []
    events := .empty eventCapacity
    listening := true }

def launch (commandCapacity eventCapacity : Nat) (options : ViewOptions) : Worker :=
  launchOn (.empty commandCapacity) eventCapacity options

def await (worker : Worker) : Worker :=
  { worker with desk := { worker.desk with queue := worker.desk.queue.await } }

/-- Calls are numbered in the order in which they start. -/
def start (worker : Worker) : Worker :=
  match worker.desk.queue.take? with
  | none => worker
  | some (command, queue) =>
    { worker with
      desk := { worker.desk with queue }
      calls := worker.calls ++ [command.call]
      unanswered := worker.unanswered ++ [(worker.calls.length, command)] }

def command? (worker : Worker) (call : Nat) : Option Command :=
  (worker.unanswered.find? (·.1 == call)).map (·.2)

def answer (worker : Worker) (call : Nat) (answer : Answer) : Worker :=
  match worker.command? call with
  | none => worker
  | some command =>
    { worker with
      unanswered := worker.unanswered.eraseP (·.1 == call)
      delivering := worker.delivering ++ [command.completion answer] }

/-- Without a listener the event is dropped, without room it keeps waiting. -/
def deliver (worker : Worker) (index : Nat) : Worker :=
  match worker.delivering[index]? with
  | none => worker
  | some event =>
    if !worker.listening then { worker with delivering := worker.delivering.eraseIdx index }
    else
      match worker.events.send event with
      | (events, true) => { worker with delivering := worker.delivering.eraseIdx index, events }
      | (_, false) => worker

def listen (worker : Worker) : Worker := { worker with events := worker.events.await }

def applyNext (worker : Worker) : Worker :=
  match worker.events.waiting with
  | [] => worker
  | event :: rest =>
    { worker with
      desk := worker.desk.apply event
      events := { worker.events with waiting := rest } }

def hangUp (worker : Worker) : Worker :=
  { worker with
    listening := false
    events := { worker.events with waiting := [], awaited := false } }

def move (worker : Worker) : Move → Worker
  | .gesture gesture => { worker with desk := (worker.desk.perform gesture).1 }
  | .await => worker.await
  | .start => worker.start
  | .answer call answer => worker.answer call answer
  | .deliver index => worker.deliver index
  | .listen => worker.listen
  | .apply => worker.applyNext
  | .hangUp => worker.hangUp

def run (worker : Worker) (moves : List Move) : Worker := moves.foldl move worker

end Worker

end CohortDesk
