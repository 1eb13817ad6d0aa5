import CohortDesk.Screen.Basic
/-!
# Settling

Events are fed to the screen until nothing is in flight. Waiting events are used whatever the time
allowed; when they run out, the wait ends in a fault.
-/
namespace CohortDesk

inductive SettleFault
  | timedOut (nanos : Nat)
  | workerStopped
  deriving DecidableEq, Repr

namespace SettleFault

def trimZeros (text : List Char) : List Char := (text.reverse.dropWhile (· == '0')).reverse

def withFraction (whole fraction places : Nat) : List Char :=
  let shown := trimZeros (Text.padded places fraction)
  Text.digits whole ++ if shown = [] then [] else '.' :: shown

/-- A span of time in the largest unit that has a whole part, with the fraction it needs. -/
def spanText (nanos : Nat) : List Char :=
  if 1000000000 ≤ nanos then
    withFraction (nanos / 1000000000) (nanos % 1000000000) 9 ++ ['s']
  else if 1000000 ≤ nanos then withFraction (nanos / 1000000) (nanos % 1000000) 6 ++ ['m', 's']
  else if 1000 ≤ nanos then withFraction (nanos / 1000) (nanos % 1000) 3 ++ ['\u00B5', 's']
  else Text.digits nanos ++ ['n', 's']

def message : SettleFault → String
  | .timedOut nanos =>
    "timed out after " ++ String.ofList (spanText nanos) ++ " waiting for the cohort service"
  | .workerStopped => "cohort service worker stopped before answering"

end SettleFault

/-- The events on their way to the screen, whether more can come, and whether the screen is waiting
for the next one, which it then gets whatever the capacity. -/
structure EventQueue where
  capacity : Nat
  waiting : List Event
  senderAlive : Bool
  awaited : Bool
  deriving DecidableEq

namespace EventQueue

def empty (capacity : Nat) : EventQueue :=
  { capacity, waiting := [], senderAlive := true, awaited := false }

def hasRoom (queue : EventQueue) : Bool := queue.awaited || queue.waiting.length < queue.capacity

/-- Whether the event was taken. -/
def send (queue : EventQueue) (event : Event) : EventQueue × Bool :=
  if queue.senderAlive && queue.hasRoom then
    ({ queue with waiting := queue.waiting ++ [event], awaited := false }, true)
  else (queue, false)

/-- The screen waits, unless there is something to read already. -/
def await (queue : EventQueue) : EventQueue :=
  { queue with awaited := queue.waiting.isEmpty }

/-- No event will follow; those that wait stay readable. -/
def close (queue : EventQueue) : EventQueue := { queue with senderAlive := false }

end EventQueue

namespace Screen

/-- Applies every waiting event; the count says how many there were. -/
def drain (screen : Screen) (queue : EventQueue) : Screen × EventQueue × Nat :=
  (screen.applyAll queue.waiting, { queue with waiting := [] }, queue.waiting.length)

/-- Applies events while the screen is busy. Returns the events left over, and whether the screen
came to rest. -/
def settleWith (screen : Screen) : List Event → Screen × List Event × Bool
  | [] => (screen, [], !screen.isBusy)
  | event :: rest =>
    if screen.isBusy then (screen.apply event).settleWith rest else (screen, event :: rest, true)

def settleWithin (screen : Screen) (queue : EventQueue) (nanos : Nat) :
    Screen × EventQueue × Except SettleFault Unit :=
  match screen.settleWith queue.waiting with
  | (settled, left, true) => (settled, { queue with waiting := left }, .ok ())
  | (settled, left, false) =>
    (settled, { queue with waiting := left },
      .error (if queue.senderAlive then .timedOut nanos else .workerStopped))

/-- For a time allowed in whole microseconds. -/
def settle (screen : Screen) (queue : EventQueue) (micros : Nat) :
    Screen × EventQueue × Except SettleFault Unit :=
  screen.settleWithin queue (1000 * micros)

end Screen

end CohortDesk
