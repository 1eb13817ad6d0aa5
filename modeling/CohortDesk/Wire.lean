import CohortDesk.Cohort
import CohortDesk.Instant.Printer
import CohortDesk.Instant.Reader
import CohortDesk.Json.Record
import CohortDesk.Json.Writer
import CohortDesk.Query
import CohortDesk.Refusal
/-!
# The service's JSON

How cohorts, queries and refusals are written as JSON and read from it. Reading takes what writing
produces and more: members in any order, members it does not know, null for an absent field.
-/
namespace CohortDesk

open Json

def Instant.ofJson? (value : Value) : Option Instant := do
  let text ← value.text?
  Instant.read? text.toList

def Instant.toJson (instant : Instant) : Value := .string (some (String.ofList instant.text))

namespace Cohort

def fieldNames : List String := ["id", "name", "description", "type", "created_at"]

def ofJson? (value : Value) : Option Cohort := do
  match ← value.fields? fieldNames with
  | [id, name, description, kind, createdAt] =>
    let id ← Value.optional? Value.longWord? id
    let name ← Value.required? Value.text? name
    let description ← Value.optional? Value.text? description
    let kind ← Value.optional? Value.text? kind
    let createdAt ← Value.optional? Instant.ofJson? createdAt
    pure { id, name, description, kind, createdAt }
  | _ => none

def orNull {α : Type} (write : α → Value) : Option α → Value
  | some value => write value
  | none => .null

/-- An absent id is left out; the other fields are always written. -/
def toJson (cohort : Cohort) : Value :=
  let idMember := match cohort.id with
    | some id => [(some "id", Value.number (some id.toInt))]
    | none => []
  .object (idMember ++
    [(some "name", .string (some cohort.name)),
      (some "description", orNull (fun text => .string (some text)) cohort.description),
      (some "type", orNull (fun text => .string (some text)) cohort.kind),
      (some "created_at", orNull Instant.toJson cohort.createdAt)])

def listOfJson? : Value → Option (List Cohort)
  | .array values => values.mapM ofJson?
  | _ => none

def listToJson (cohorts : List Cohort) : Value := .array (cohorts.map toJson)

end Cohort

namespace Query

def fieldNames : List String := ["filter", "order", "limit", "page"]

def ofJson? (value : Value) : Option Query := do
  match ← value.fields? fieldNames with
  | [filter, order, limit, page] =>
    let filter ← Value.required? Value.text? filter
    let order ← Value.required? Value.text? order
    let limit ← Value.required? Value.word? limit
    let page ← Value.required? Value.word? page
    pure { filter, order, limit, page }
  | _ => none

def toJson (query : Query) : Value :=
  .object
    [(some "filter", .string (some query.filter)), (some "order", .string (some query.order)),
      (some "limit", .number (some query.limit.toNat)),
      (some "page", .number (some query.page.toNat))]

end Query

namespace RefusalCode

/-- A code's name, alone or as the name of a single null member. -/
def ofJson? : Value → Option RefusalCode
  | .string (some name) => some (ofName name)
  | .object [(some name, .null)] => some (ofName name)
  | _ => none

def toJson (code : RefusalCode) : Value := .string (some code.name)

end RefusalCode

namespace Refusal

def fieldNames : List String := ["code", "message"]

def ofJson? (value : Value) : Option Refusal := do
  match ← value.fields? fieldNames with
  | [code, message] =>
    let code ← Value.required? RefusalCode.ofJson? code
    let message ← Value.required? Value.text? message
    pure { code, message }
  | _ => none

def toJson (refusal : Refusal) : Value :=
  .object [(some "code", refusal.code.toJson), (some "message", .string (some refusal.message))]

end Refusal

/-- The value that a whole text stands for. -/
def decode? {α : Type} (ofJson? : Value → Option α) (text : String) : Option α :=
  (Json.read? text.toList).bind ofJson?

/-- The value that all the bytes stand for. Bytes of no character may be in a string that is not
looked at. -/
def decodeBytes? {α : Type} (ofJson? : Value → Option α) (bytes : List UInt8) : Option α :=
  (Json.readBytes? bytes).bind ofJson?

def encode {α : Type} (toJson : α → Value) (value : α) : String :=
  String.ofList (Json.write (toJson value))

end CohortDesk
