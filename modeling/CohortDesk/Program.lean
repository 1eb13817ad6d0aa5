import CohortDesk.CommandLine.Arguments
import CohortDesk.Grid
import CohortDesk.Service.Client
import CohortDesk.Settings.Basic
import CohortDesk.Worker
/-!
# The program

One run from the command line: settings are loaded, the first listing is asked for, the gestures
that the arguments ask for are made one after the other, each waiting for its answer, and the
screen is printed. The last error on the screen is the program's.
-/
namespace CohortDesk

/-- Where cohorts are kept, if anywhere. -/
inductive Service
  | remote (client : Client)
  | missing
  deriving DecidableEq

namespace Service

/-- How the service answers a call. -/
def answer {m : Type → Type} [Monad m] (service : Service) (send : Request → m Exchange)
    (call : Call) : m Answer :=
  match service, call with
  | .missing, _ => pure (.failure .unavailable)
  | .remote client, .list query => do
    match ← client.list send query with
    | .ok cohorts => pure (.success cohorts)
    | .error failure => pure (.failure failure)
  | .remote client, .remove name => do
    match ← client.remove send name with
    | .ok _ => pure (.success [])
    | .error failure => pure (.failure failure)

def of? (settings : Settings) : Except Failure Service :=
  match settings.serverUrl with
  | some url => (Client.of? url).map .remote
  | none => .ok .missing

end Service

/-- An error that ends the program, with what caused it. -/
structure Complaint where
  message : String
  cause : Option String
  deriving DecidableEq, Repr

/-- The cause as it is printed: four blanks before each of its lines. -/
def Complaint.causeText (complaint : Complaint) : String :=
  match complaint.cause with
  | some cause =>
    String.ofList ("    ".toList ++
      cause.toList.flatMap fun c => if c = '\n' then "\n    ".toList else [c])
  | none => ""

/-- How the program ends. A crash prints nothing. -/
inductive Outcome
  | finished (output : String) (complaint : Option Complaint)
  | misused
  | crashed
  deriving DecidableEq, Repr

namespace Outcome

def exitCode : Outcome → UInt8
  | .finished _ none => 0
  | .finished _ (some _) => 1
  | .misused => 2
  | .crashed => 101

def output : Outcome → String
  | .finished output _ => output
  | _ => ""

def complaint? : Outcome → Option Complaint
  | .finished _ complaint => complaint
  | _ => none

end Outcome

namespace Program

open CommandLine

def commandCapacity : Nat := 256

/-- The last second that the clock can tell. -/
def clockLimit : Nat := 9223372036854775807

/-- Whether a clock that reads `clock` seconds can tell the end of the wait. -/
def canWait (clock : Nat) (settings : Settings) : Bool :=
  settings.settleTimeout?.any (clock + · ≤ clockLimit)

/-- In the order in which they are made. -/
def gestures : Action → List Gesture
  | .list filter order limit page =>
    (limit.map .resize).toList ++ (filter.map .search).toList ++ (order.map .sort).toList ++
      (page.map .turnTo).toList
  | .remove name => [.remove name]

/-- Passes the waiting command to the service and applies the answer. -/
def settled {m : Type → Type} [Monad m] (service : Service) (send : Request → m Exchange)
    (desk : Desk) : m Desk :=
  match desk.queue.take? with
  | none => pure desk
  | some (command, queue) => do
    let answer ← service.answer send command.call
    pure ({ desk with queue }.apply (command.completion answer))

def makeGesture {m : Type → Type} [Monad m] (service : Service) (send : Request → m Exchange)
    (desk : Desk) (gesture : Gesture) : m Desk :=
  settled service send (desk.perform gesture).1

def finalDesk {m : Type → Type} [Monad m] (service : Service) (send : Request → m Exchange)
    (options : ViewOptions) (action : Action) : m Desk := do
  let first ← settled service send (Desk.start (.empty commandCapacity) options)
  (gestures action).foldlM (makeGesture service send) first

/-- What the screen leaves behind. -/
def shown (screen : Screen) : Outcome :=
  match Grid.render? screen with
  | some text =>
    .finished (String.ofList text)
      (screen.error.map fun message => { message, cause := none })
  | none => .crashed

def unconfigured (settings : Settings) (failure : Failure) : Complaint :=
  { message :=
      "failed to configure cohort service client for '" ++ settings.serverUrl.getD "" ++ "'"
    cause := some failure.message }

/-- A run with settings that could be loaded. -/
def runWith {m : Type → Type} [Monad m] (clock : Nat) (send : Request → m Exchange)
    (settings : Settings) (action : Action) : m Outcome :=
  match Service.of? settings with
  | .error failure => pure (.finished "" (some (unconfigured settings failure)))
  | .ok service =>
    if canWait clock settings then do
      let desk ← finalDesk service send settings.viewOptions action
      pure (shown desk.screen)
    else pure .crashed

/-- A run, given what stands at the path of the settings file, and what the clock reads, in whole
seconds, when the run waits for the last time: if that wait has an end, so have those before it. -/
def run {m : Type → Type} [Monad m] (clock : Nat) (send : Request → m Exchange)
    (arguments : Arguments) (place : Settings.Place) (environment : Environment) : m Outcome :=
  match Settings.load arguments.settingsPath place environment with
  | .error fault => pure (.finished "" (some { message := fault.message, cause := none }))
  | .ok settings => runWith clock send (settings.overrideUrl arguments.serverUrl) arguments.action

end Program

end CohortDesk
