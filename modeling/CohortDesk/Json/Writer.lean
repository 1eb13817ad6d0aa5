import CohortDesk.Json.Value
/-!
# Written JSON

Compact text of a value: no space between tokens, and only quotes, backslashes and control
characters escaped.
-/
namespace CohortDesk.Json

open Text

def hexLower (value : Nat) : Char :=
  if value < 10 then Char.ofNat ('0'.toNat + value) else Char.ofNat ('a'.toNat + value - 10)

def escapeChar (c : Char) : List Char :=
  if c = '"' then ['\\', '"']
  else if c = '\\' then ['\\', '\\']
  else if c = '\x08' then ['\\', 'b']
  else if c = '\x0C' then ['\\', 'f']
  else if c = '\n' then ['\\', 'n']
  else if c = '\r' then ['\\', 'r']
  else if c = '\t' then ['\\', 't']
  else if c.toNat < 0x20 then
    ['\\', 'u', '0', '0', hexLower (c.toNat / 16), hexLower (c.toNat % 16)]
  else [c]

def quoted (text : List Char) : List Char := '"' :: (text.flatMap escapeChar ++ ['"'])

/-- A number that is not whole and a string that is not text are written as `null`. -/
def Token.text : Token → List Char
  | .leftBrace => ['{']
  | .rightBrace => ['}']
  | .leftBracket => ['[']
  | .rightBracket => [']']
  | .colon => [':']
  | .comma => [',']
  | .true => ['t', 'r', 'u', 'e']
  | .false => ['f', 'a', 'l', 's', 'e']
  | .number (some whole) => signedDigits whole
  | .string (some text) => quoted text.toList
  | .null | .number none | .string none => ['n', 'u', 'l', 'l']

namespace Value

mutual

def tokens : Value → List Token
  | .null => [.null]
  | .bool truth => [if truth then .true else .false]
  | .number whole => [.number whole]
  | .string text => [.string text]
  | .array elements => .leftBracket :: elementTokens elements
  | .object members => .leftBrace :: memberTokens members

def elementTokens : List Value → List Token
  | [] => [.rightBracket]
  | [value] => value.tokens ++ [.rightBracket]
  | value :: rest => value.tokens ++ .comma :: elementTokens rest

def memberTokens : List (Option String × Value) → List Token
  | [] => [.rightBrace]
  | [(name, value)] => .string name :: .colon :: (value.tokens ++ [.rightBrace])
  | (name, value) :: rest =>
    .string name :: .colon :: (value.tokens ++ .comma :: memberTokens rest)

end

end Value

def write (value : Value) : List Char := value.tokens.flatMap Token.text

end CohortDesk.Json
