import CohortDesk.Refusal
import CohortDesk.Text.Decimal
/-!
# Failures of a service call

Why a call to the cohort service brought no result, with the text shown for it.
-/
namespace CohortDesk

/-- An exchange with the service that ended without a usable answer. -/
inductive TransportFault
  | unbuildable (url : String)
  | unsent (url : String)
  | unreadableBody
  deriving DecidableEq, Repr

def TransportFault.message : TransportFault → String
  | .unbuildable url => "builder error for url (" ++ url ++ ")"
  | .unsent url => "error sending request for url (" ++ url ++ ")"
  | .unreadableBody => "error decoding response body"

inductive Failure
  | invalidUrl (url reason : String)
  | transport (fault : TransportFault)
  | rejected (refusal : Refusal)
  | status (code : Nat) (message : String)
  | unavailable
  deriving DecidableEq, Repr

namespace Failure

def message : Failure → String
  | .invalidUrl url reason => "invalid cohort service url '" ++ url ++ "': " ++ reason
  | .transport fault => "cohort service request failed: " ++ fault.message
  | .rejected refusal => refusal.message
  | .status code message =>
    "cohort service returned " ++ String.ofList (Text.digits code) ++ ": " ++ message
  | .unavailable => "cohort service unavailable"

/-- Whether the cohort the call was about does not exist. -/
def isNotFound : Failure → Bool
  | .rejected refusal => refusal.isNotFound
  | .status code _ => code == 404
  | _ => false

end Failure

end CohortDesk
