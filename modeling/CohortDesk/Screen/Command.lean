import CohortDesk.Cohort
import CohortDesk.Query
import CohortDesk.Text.Decimal
/-!
# Commands and their queue

What the screen asks the worker to do, and the bounded queue between the two. A queue without room
refuses a command, as does one whose reader is gone. A reader that waits for the next command gets
it whatever the capacity, which is the only way through a queue of capacity zero.
-/
namespace CohortDesk

/-- Attempts to retrieve a listing are numbered from one. A number has no upper bound here, where 64
bits are usual for it, so what is said of numbers holds for a desk with fewer than 2 ^ 64
attempts. -/
abbrev RequestNumber := Nat

def RequestNumber.label (request : RequestNumber) : String :=
  "#" ++ String.ofList (Text.digits request)

inductive Command
  | fetch (request : RequestNumber) (query : Option Query)
  | remove (name : CohortName)
  deriving DecidableEq, Repr

inductive QueueFault
  | full
  | disconnected
  deriving DecidableEq, Repr

def QueueFault.message : QueueFault → String
  | .full => "Command queue is full; please retry"
  | .disconnected => "Cohort service worker is not running; restart the application"

structure CommandQueue where
  capacity : Nat
  waiting : List Command
  connected : Bool
  awaited : Bool
  deriving DecidableEq, Repr

namespace CommandQueue

def empty (capacity : Nat) : CommandQueue :=
  { capacity, waiting := [], connected := true, awaited := false }

def hasRoom (queue : CommandQueue) : Bool :=
  queue.awaited || queue.waiting.length < queue.capacity

/-- A missing reader counts before a full queue. -/
def offer (queue : CommandQueue) (command : Command) : Except QueueFault CommandQueue :=
  if !queue.connected then .error .disconnected
  else if queue.hasRoom then
    .ok { queue with waiting := queue.waiting ++ [command], awaited := false }
  else .error .full

/-- The reader waits, unless there is something to read already. -/
def await (queue : CommandQueue) : CommandQueue :=
  { queue with awaited := queue.connected && queue.waiting.isEmpty }

def take? (queue : CommandQueue) : Option (Command × CommandQueue) :=
  match queue.waiting with
  | [] => none
  | command :: rest => some (command, { queue with waiting := rest })

def takeAll (queue : CommandQueue) : List Command × CommandQueue :=
  (queue.waiting, { queue with waiting := [] })

/-- The reader leaves; what waited for it is lost. -/
def disconnect (queue : CommandQueue) : CommandQueue :=
  { queue with waiting := [], connected := false, awaited := false }

end CommandQueue

end CohortDesk
