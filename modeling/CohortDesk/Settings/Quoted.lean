import CohortDesk.Text.Decimal
/-!
# Quoted texts of a settings file

A text stands between quotes or between apostrophes, on one line or as a block between three of
them. Between quotes a backslash starts an escape; between apostrophes it is a character like any
other. A block drops a line break at its start and may hold up to two of its marks in a row.
-/
namespace CohortDesk.Settings

/-- A form of quoting: its mark, whether a backslash escapes, whether it is a block. -/
structure Quoting where
  mark : Char
  escapes : Bool
  block : Bool
  deriving DecidableEq, Repr

def quote : Char := '"'
def apostrophe : Char := '\x27'

def isBlank (c : Char) : Bool := c == ' ' || c == '\t'

/-- Any character but a control; a tab is none here. -/
def isTextChar (c : Char) : Bool := c == '\t' || (0x20 ≤ c.toNat && c.toNat != 0x7F)

/-- How many characters at the front are blanks and line breaks. -/
def gapLength : List Char → Nat
  | ' ' :: rest => gapLength rest + 1
  | '\t' :: rest => gapLength rest + 1
  | '\n' :: rest => gapLength rest + 1
  | '\r' :: '\n' :: rest => gapLength rest + 2
  | _ => 0

/-- The character that hexadecimal digits at the front name. -/
def namedChar? (count : Nat) (text : List Char) : Option (List Char × Nat) := do
  let written := text.take count
  let code ← Text.numeral? 16 written
  if written.length = count ∧ code.isValidChar then some ([Char.ofNat code], count + 1) else none

/-- What an escape stands for, and its length after the backslash. In a block a backslash takes
away the line break after it, with the blanks around that. -/
def escape? (block : Bool) : List Char → Option (List Char × Nat)
  | 'b' :: _ => some (['\x08'], 1)
  | 't' :: _ => some (['\t'], 1)
  | 'n' :: _ => some (['\n'], 1)
  | 'f' :: _ => some (['\x0C'], 1)
  | 'r' :: _ => some (['\r'], 1)
  | '"' :: _ => some (['"'], 1)
  | '\\' :: _ => some (['\\'], 1)
  | 'u' :: rest => namedChar? 4 rest
  | 'U' :: rest => namedChar? 8 rest
  | rest =>
    let gap := gapLength rest
    if block && (rest.take gap).contains '\n' then some ([], gap) else none

/-- The text up to the closing mark and what follows that. The first `skip` characters belong to an
escape read before. -/
def body? (quoting : Quoting) : Nat → List Char → Option (List Char × List Char)
  | _, [] => none
  | skip + 1, _ :: rest => body? quoting skip rest
  | 0, c :: rest =>
    let more := fun (found : List Char) (skip : Nat) =>
      (body? quoting skip rest).map fun (text, after) => (found ++ text, after)
    if c = quoting.mark then
      if quoting.block then
        let run := (rest.takeWhile (· == c)).length + 1
        if run < 3 then more [c] 0
        else some (List.replicate (min run 5 - 3) c, rest.drop (min run 5 - 1))
      else some ([], rest)
    else if c = '\\' ∧ quoting.escapes then
      match escape? quoting.block rest with
      | some (meant, used) => more meant used
      | none => none
    else if c = '\n' then
      if quoting.block then more [c] 0 else none
    else if c = '\r' then
      if quoting.block ∧ rest.head? = some '\n' then more [] 0 else none
    else if isTextChar c then more [c] 0
    else none

def dropLineBreak : List Char → List Char
  | '\n' :: rest => rest
  | '\r' :: '\n' :: rest => rest
  | text => text

/-- A text on one line, for a reader that stands at its opening mark. -/
def lineText? : List Char → Option (List Char × List Char)
  | c :: rest =>
    if c = quote ∨ c = apostrophe then body? ⟨c, c == quote, false⟩ 0 rest else none
  | [] => none

/-- A text of any form. -/
def quoted? : List Char → Option (List Char × List Char)
  | first :: second :: third :: rest =>
    if (first = quote ∨ first = apostrophe) ∧ second = first ∧ third = first then
      body? ⟨first, first == quote, true⟩ 0 (dropLineBreak rest)
    else lineText? (first :: second :: third :: rest)
  | text => lineText? text

end CohortDesk.Settings
