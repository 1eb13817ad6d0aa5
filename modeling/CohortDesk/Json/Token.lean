import CohortDesk.Text.Decimal
/-!
# JSON tokens

A text is cut into punctuation, words, numbers and strings. A number keeps its value when it is
written as a whole number; a string keeps its text when its escapes form Unicode characters.
-/
namespace CohortDesk.Json

open Text

inductive Token
  | leftBrace | rightBrace | leftBracket | rightBracket | colon | comma
  | null | true | false
  | number (whole : Option Int)
  | string (text : Option String)
  deriving DecidableEq, Repr

/-- A character of a string, or a 16-bit unit that an escape names. -/
inductive Piece
  | char (c : Char)
  | unit (code : Nat)
  deriving DecidableEq, Repr

def isSpace (c : Char) : Bool := c == ' ' || c == '\t' || c == '\n' || c == '\r'

def isHighSurrogate (code : Nat) : Bool := 0xD800 ≤ code && code < 0xDC00
def isLowSurrogate (code : Nat) : Bool := 0xDC00 ≤ code && code < 0xE000

/-- A high and a low unit next to each other are one character; a unit of either kind alone is
none. -/
def join : List Piece → Option (List Char)
  | [] => some []
  | .char c :: rest => (join rest).map (c :: ·)
  | [.unit code] =>
    if isHighSurrogate code || isLowSurrogate code then none else some [Char.ofNat code]
  | .unit code :: .unit low :: rest =>
    if isHighSurrogate code then
      if isLowSurrogate low then
        (join rest).map (Char.ofNat (0x10000 + (code - 0xD800) * 0x400 + (low - 0xDC00)) :: ·)
      else none
    else if isLowSurrogate code then none
    else (join (.unit low :: rest)).map (Char.ofNat code :: ·)
  | .unit code :: .char c :: rest =>
    if isHighSurrogate code || isLowSurrogate code then none
    else (join (.char c :: rest)).map (Char.ofNat code :: ·)

def escape? : Char → Option Char
  | '"' => some '"'
  | '\\' => some '\\'
  | '/' => some '/'
  | 'b' => some '\x08'
  | 'f' => some '\x0C'
  | 'n' => some '\n'
  | 'r' => some '\r'
  | 't' => some '\t'
  | _ => none

def unitCode? (h1 h2 h3 h4 : Char) : Option Nat := do
  let d1 ← hexDigit? h1
  let d2 ← hexDigit? h2
  let d3 ← hexDigit? h3
  let d4 ← hexDigit? h4
  pure (((d1 * 16 + d2) * 16 + d3) * 16 + d4)

/-- The pieces of a string after its opening quote, and what follows the closing one. Control
characters have to be escaped. -/
def stringBody? : List Char → Option (List Piece × List Char)
  | [] => none
  | c :: rest =>
    if c = '"' then some ([], rest)
    else if c = '\\' then
      match rest with
      | 'u' :: h1 :: h2 :: h3 :: h4 :: after => do
        let code ← unitCode? h1 h2 h3 h4
        let (pieces, tail) ← stringBody? after
        pure (.unit code :: pieces, tail)
      | e :: after => do
        let meant ← escape? e
        let (pieces, tail) ← stringBody? after
        pure (.char meant :: pieces, tail)
      | [] => none
    else if c.toNat < 0x20 then none
    else do
      let (pieces, tail) ← stringBody? rest
      pure (.char c :: pieces, tail)

/-- The digits before fraction and exponent: a zero alone or no leading zero. -/
def wholeDigits? : List Char → Option (List Char × List Char)
  | '0' :: rest => some (['0'], rest)
  | text => leadingDigits? text.length text

/-- What follows the fraction, and whether there is one. -/
def fraction? : List Char → Option (Bool × List Char)
  | '.' :: rest => (leadingDigits? rest.length rest).map fun (_, after) => (Bool.true, after)
  | rest => some (Bool.false, rest)

/-- What follows the exponent, and whether there is one. -/
def exponent? : List Char → Option (Bool × List Char)
  | c :: rest =>
    if c = 'e' ∨ c = 'E' then
      let unsigned := match rest with
        | '+' :: after => after
        | '-' :: after => after
        | _ => rest
      (leadingDigits? unsigned.length unsigned).map fun (_, after) => (Bool.true, after)
    else some (Bool.false, c :: rest)
  | [] => some (Bool.false, [])

/-- The size of a number without its sign; none for one with fraction or exponent. -/
def size? (text : List Char) : Option (Option Nat × List Char) := do
  let (found, rest) ← wholeDigits? text
  let (fractional, rest) ← fraction? rest
  let (scaled, rest) ← exponent? rest
  pure (if fractional || scaled then none else some (Nat.ofDigitChars 10 found 0), rest)

/-- Zero with a minus sign is not a whole number. -/
def negated (size : Option Nat) : Option Int :=
  (size.filter (· ≠ 0)).map fun value => -Int.ofNat value

/-- The token at the front of a text that does not start with space. -/
def token? : List Char → Option (Token × List Char)
  | '{' :: rest => some (.leftBrace, rest)
  | '}' :: rest => some (.rightBrace, rest)
  | '[' :: rest => some (.leftBracket, rest)
  | ']' :: rest => some (.rightBracket, rest)
  | ':' :: rest => some (.colon, rest)
  | ',' :: rest => some (.comma, rest)
  | 'n' :: 'u' :: 'l' :: 'l' :: rest => some (.null, rest)
  | 't' :: 'r' :: 'u' :: 'e' :: rest => some (.true, rest)
  | 'f' :: 'a' :: 'l' :: 's' :: 'e' :: rest => some (.false, rest)
  | '"' :: rest => (stringBody? rest).map fun (pieces, tail) =>
      (.string ((join pieces).map String.ofList), tail)
  | '-' :: rest => (size? rest).map fun (size, tail) => (.number (negated size), tail)
  | text => (size? text).map fun (size, tail) => (.number (size.map Int.ofNat), tail)

/-- At most `bound` tokens, one per step; every token takes a character at least, so the length of
the text is bound enough. -/
def tokensWithin : Nat → List Char → Option (List Token)
  | 0, text => if text.dropWhile isSpace = [] then some [] else none
  | bound + 1, text =>
    match text.dropWhile isSpace with
    | [] => some []
    | c :: rest => do
      let (first, after) ← token? (c :: rest)
      let others ← tokensWithin bound after
      pure (first :: others)

def tokens? (text : List Char) : Option (List Token) := tokensWithin text.length text

end CohortDesk.Json
