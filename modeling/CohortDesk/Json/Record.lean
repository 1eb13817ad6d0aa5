import CohortDesk.Json.Value
/-!
# Records in JSON

A record is an object whose members have the field names, in any order and among other members, or
an array of the fields in their order, of which the last may be missing. A field name must not
occur twice, and every name in the object must be text.
-/
namespace CohortDesk.Json

namespace Value

/-- The members of one name: none when it occurs more than once. -/
def member? (members : List (Option String × Value)) (name : String) : Option (Option Value) :=
  match members.filter fun member => member.1 == some name with
  | [] => some none
  | [(_, value)] => some (some value)
  | _ => none

/-- The fields of a record, each with its value if it has one. -/
def fields? (names : List String) : Value → Option (List (Option Value))
  | .array values =>
    if values.length ≤ names.length then
      some (values.map some ++ List.replicate (names.length - values.length) none)
    else none
  | .object members =>
    if members.all fun member => member.1.isSome then names.mapM (member? members) else none
  | _ => none

/-- A field that may be absent or null. -/
def optional? {α : Type} (read : Value → Option α) : Option Value → Option (Option α)
  | none => some none
  | some .null => some none
  | some value => (read value).map some

def required? {α : Type} (read : Value → Option α) (field : Option Value) : Option α :=
  field.bind read

def text? : Value → Option String
  | .string text => text
  | _ => none

def whole? : Value → Option Int
  | .number whole => whole
  | _ => none

/-- A whole number of 32 bits without sign. -/
def word? (value : Value) : Option UInt32 := do
  let whole ← value.whole?
  if 0 ≤ whole ∧ whole < UInt32.size then some (UInt32.ofNat whole.toNat) else none

/-- A whole number of 64 bits with sign. -/
def longWord? (value : Value) : Option Int64 := do
  let whole ← value.whole?
  if Text.fitsSigned whole then some (Int64.ofInt whole) else none

end Value

end CohortDesk.Json
