import CohortDesk.Settings.Quoted
/-!
# Entries of a settings file

A settings file is a sequence of lines, each empty or an entry, with a comment at the end if need
be. An entry is a key, an equals sign, and a text or a whole number.
-/
namespace CohortDesk.Settings

inductive Value
  | text (content : List Char)
  | number (value : Int)
  deriving DecidableEq, Repr

structure Entry where
  key : List Char
  value : Value
  deriving DecidableEq, Repr

def isKeyChar (c : Char) : Bool := c.isAlphanum || c == '_' || c == '-'

/-- A bare key or a quoted one. -/
def key? (text : List Char) : Option (List Char × List Char) :=
  let bare := text.takeWhile isKeyChar
  if bare = [] then lineText? text else some (bare, text.drop bare.length)

/-- Digits with single underscores between them. -/
def grouped? (base : Nat) (text : List Char) : Option Nat :=
  let groups := text.splitOn '_'
  if groups.all (· ≠ []) then Text.numeral? base groups.flatten else none

/-- A decimal number has no leading zeros. -/
def decimal? (text : List Char) : Option Nat :=
  if text.length > 1 ∧ text.head? = some '0' then none else grouped? 10 text

/-- A whole number of 64 bits: decimal with or without a sign, or in another base without one. -/
def number? (text : List Char) : Option Int :=
  let value : Option Int := match text with
    | '0' :: 'x' :: rest => (grouped? 16 rest).map Int.ofNat
    | '0' :: 'o' :: rest => (grouped? 8 rest).map Int.ofNat
    | '0' :: 'b' :: rest => (grouped? 2 rest).map Int.ofNat
    | '+' :: rest => (decimal? rest).map Int.ofNat
    | '-' :: rest => (decimal? rest).map fun size => -Int.ofNat size
    | _ => (decimal? text).map Int.ofNat
  value.filter Text.fitsSigned

def endsWord (c : Char) : Bool := isBlank c || c == '\n' || c == '\r' || c == '#'

def value? (text : List Char) : Option (Value × List Char) :=
  match text with
  | c :: _ =>
    if c = quote ∨ c = apostrophe then
      (quoted? text).map fun (content, rest) => (.text content, rest)
    else
      let word := text.takeWhile fun c => !endsWord c
      (number? word).map fun value => (.number value, text.drop word.length)
  | [] => none

/-- What follows the end of a line, if this is one. -/
def lineEnd? : List Char → Option (List Char)
  | [] => some []
  | '\n' :: rest => some rest
  | '\r' :: '\n' :: rest => some rest
  | _ => none

/-- What follows the line, if nothing but a comment stands on the rest of it. -/
def remainder? (text : List Char) : Option (List Char) :=
  match text.dropWhile isBlank with
  | '#' :: rest => lineEnd? (rest.dropWhile isTextChar)
  | rest => lineEnd? rest

/-- The entry at the front of a text and what follows its line. -/
def entry? (text : List Char) : Option (Entry × List Char) := do
  let (key, rest) ← key? text
  match rest.dropWhile isBlank with
  | '=' :: rest => do
    let (value, rest) ← value? (rest.dropWhile isBlank)
    let rest ← remainder? rest
    pure ({ key, value }, rest)
  | _ => none

/-- The entries of at most `bound` lines. -/
def entriesWithin : Nat → List Char → Option (List Entry)
  | 0, text => if text = [] then some [] else none
  | bound + 1, text =>
    if text = [] then some []
    else
      match remainder? text with
      | some rest => entriesWithin bound rest
      | none => do
        let (first, rest) ← entry? (text.dropWhile isBlank)
        let others ← entriesWithin bound rest
        pure (first :: others)

/-- All entries. Every line has a character at least, so the length of the text is bound enough. A
mark of byte order may stand in front. -/
def entries? (text : List Char) : Option (List Entry) :=
  let body := if text.head? = some '\uFEFF' then text.drop 1 else text
  entriesWithin body.length body

end CohortDesk.Settings
