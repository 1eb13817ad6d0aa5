import CohortDesk.Json.Token
import CohortDesk.Text.Utf8
/-!
# JSON values

A value as a tree, read from tokens. Members of an object keep their order and their repetitions;
nesting has no limit.
-/
namespace CohortDesk.Json

inductive Value
  | null
  | bool (truth : Bool)
  | number (whole : Option Int)
  | string (text : Option String)
  | array (elements : List Value)
  | object (members : List (Option String × Value))

namespace Value

mutual

/-- The value at the front of the tokens, and the tokens after it. A step into a list and the step
to a value in it take a token between them, so twice the number of tokens is bound enough. -/
def first? : Nat → List Token → Option (Value × List Token)
  | _, [] => none
  | 0, _ => none
  | bound + 1, token :: rest =>
    match token with
    | .null => some (.null, rest)
    | .true => some (.bool true, rest)
    | .false => some (.bool false, rest)
    | .number whole => some (.number whole, rest)
    | .string text => some (.string text, rest)
    | .leftBracket =>
      match rest with
      | .rightBracket :: after => some (.array [], after)
      | _ => (elements? bound rest).map fun (values, after) => (.array values, after)
    | .leftBrace =>
      match rest with
      | .rightBrace :: after => some (.object [], after)
      | _ => (members? bound rest).map fun (members, after) => (.object members, after)
    | _ => none

/-- One or more values with commas between them, up to the closing bracket. -/
def elements? : Nat → List Token → Option (List Value × List Token)
  | 0, _ => none
  | bound + 1, tokens => do
    let (value, rest) ← first? bound tokens
    match rest with
    | .comma :: after => do
      let (values, tail) ← elements? bound after
      pure (value :: values, tail)
    | .rightBracket :: after => pure ([value], after)
    | _ => none

/-- One or more named values with commas between them, up to the closing brace. -/
def members? : Nat → List Token → Option (List (Option String × Value) × List Token)
  | bound + 1, .string name :: .colon :: rest => do
    let (value, rest) ← first? bound rest
    match rest with
    | .comma :: after => do
      let (members, tail) ← members? bound after
      pure ((name, value) :: members, tail)
    | .rightBrace :: after => pure ([(name, value)], after)
    | _ => none
  | _, _ => none

end

def ofTokens? (tokens : List Token) : Option Value :=
  match first? (2 * tokens.length) tokens with
  | some (value, []) => some value
  | _ => none

end Value

def read? (text : List Char) : Option Value := do
  let tokens ← tokens? text
  Value.ofTokens? tokens

/-- What bytes of no character count as: part of a string that is no text, and an error anywhere
else. The lone surrogate takes the text from a string. The characters around it keep it from joining
a surrogate or an escape next to it, and begin no token. -/
def broken : List Char := ['x', '\\', 'u', 'd', '8', '0', '0', 'x']

def readBytes? (bytes : List UInt8) : Option Value := read? (Text.Utf8.decodeMarking broken bytes)

end CohortDesk.Json
