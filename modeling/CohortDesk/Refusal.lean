/-!
# Refusals

What the service answers when it turns a request down: a code and a message. Codes the desk does
not know count as `other`.
-/
namespace CohortDesk

inductive RefusalCode
  | notFound
  | conflict
  | other
  deriving DecidableEq, Repr

namespace RefusalCode

def name : RefusalCode → String
  | .notFound => "not_found"
  | .conflict => "conflict"
  | .other => "other"

def ofName (name : String) : RefusalCode :=
  if name = "not_found" then .notFound
  else if name = "conflict" then .conflict
  else .other

theorem of_name_name (code : RefusalCode) : ofName code.name = code := by
  cases code <;> decide

end RefusalCode

structure Refusal where
  code : RefusalCode
  message : String
  deriving DecidableEq, Repr

def Refusal.isNotFound (refusal : Refusal) : Bool := refusal.code == .notFound

end CohortDesk
