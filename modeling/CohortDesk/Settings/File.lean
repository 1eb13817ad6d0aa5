import CohortDesk.Settings.Entry
import CohortDesk.Text.Utf8
/-!
# The settings file

A settings file may give a server URL, a page size, an order, a delay for the filter and a time
limit for requests, each at most once and nothing else.
-/
namespace CohortDesk.Settings

structure File where
  serverUrl : Option String
  pageSize : Option UInt32
  defaultOrder : Option String
  filterDebounceMs : Option UInt64
  requestTimeoutSecs : Option UInt64
  deriving DecidableEq, Repr

def keys : List String :=
  ["server_url", "page_size", "default_order", "filter_debounce_ms", "request_timeout_secs"]

def Value.text? : Value → Option String
  | .text content => some (String.ofList content)
  | .number _ => none

/-- A number below `bound` that is not negative. -/
def Value.below? (bound : Nat) : Value → Option Nat
  | .number value => if 0 ≤ value ∧ value < bound then some value.toNat else none
  | .text _ => none

def Value.word? (value : Value) : Option UInt32 := (value.below? UInt32.size).map UInt32.ofNat

def Value.longWord? (value : Value) : Option UInt64 := (value.below? UInt64.size).map UInt64.ofNat

/-- The value of a key that may be missing but not occur twice. -/
def setting? {α : Type} (read : Value → Option α) (entries : List Entry) (key : String) :
    Option (Option α) :=
  match entries.filter fun entry => entry.key == key.toList with
  | [] => some none
  | [entry] => (read entry.value).map some
  | _ => none

namespace File

def ofEntries? (entries : List Entry) : Option File := do
  if entries.all fun entry => keys.any fun key => entry.key == key.toList then
    let serverUrl ← setting? Value.text? entries "server_url"
    let pageSize ← setting? Value.word? entries "page_size"
    let defaultOrder ← setting? Value.text? entries "default_order"
    let filterDebounceMs ← setting? Value.longWord? entries "filter_debounce_ms"
    let requestTimeoutSecs ← setting? Value.longWord? entries "request_timeout_secs"
    pure { serverUrl, pageSize, defaultOrder, filterDebounceMs, requestTimeoutSecs }
  else none

def read? (text : List Char) : Option File := do
  let entries ← entries? text
  ofEntries? entries

end File

end CohortDesk.Settings
