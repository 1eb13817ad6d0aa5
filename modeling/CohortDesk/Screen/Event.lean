import CohortDesk.Screen.Command
import CohortDesk.Service.Failure
/-!
# Events

What the worker reports back to the screen: the completion of a command, or its own failure.
-/
namespace CohortDesk

/-- What was being done when something went wrong. -/
inductive Concern
  | startup
  | loading
  | removal
  deriving DecidableEq, Repr

structure Notice where
  concern : Concern
  message : String
  deriving DecidableEq, Repr

inductive Event
  | loaded (request : RequestNumber) (cohorts : List Cohort)
  | loadFailed (request : RequestNumber) (notice : Notice)
  | removed (name : CohortName)
  | removeFailed (name : CohortName) (notice : Notice)
  | workerFailed (notice : Notice)
  deriving DecidableEq

/-- How the service answered a call. The cohorts of a success are those of a listing; for a removal
they mean nothing. -/
inductive Answer
  | success (cohorts : List Cohort)
  | failure (failure : Failure)
  deriving DecidableEq

/-- The event that reports the answer to a command. Removing a cohort that does not exist leaves
the same outcome as removing it. -/
def Command.completion (command : Command) (answer : Answer) : Event :=
  match command, answer with
  | .fetch request _, .success cohorts => .loaded request cohorts
  | .fetch request _, .failure failure => .loadFailed request ⟨.loading, failure.message⟩
  | .remove name, .success _ => .removed name
  | .remove name, .failure failure =>
    if failure.isNotFound then .removed name else .removeFailed name ⟨.removal, failure.message⟩

end CohortDesk
