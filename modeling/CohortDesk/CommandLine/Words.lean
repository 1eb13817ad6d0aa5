/-!
# Words of a command line

The words after a command are options with a value each, a request for help, or operands. A word of
two dashes ends the options. An option's value is checked when the next option, operand or end is
reached, so the first mistake from the left decides, and help counts only if it comes before.
-/
namespace CohortDesk.CommandLine

inductive Word
  | escape
  | long (name : String) (attached : Option String)
  | short (letters : List Char)
  | plain (text : String)
  deriving DecidableEq, Repr

/-- A value may be attached to a long option with an equals sign. A single dash is plain. -/
def Word.of (text : String) : Word :=
  match text.toList with
  | ['-', '-'] => .escape
  | '-' :: '-' :: rest =>
    let name := String.ofList (rest.takeWhile (· ≠ '='))
    match rest.dropWhile (· ≠ '=') with
    | _ :: value => .long name (some (String.ofList value))
    | [] => .long name none
  | '-' :: first :: rest => .short (first :: rest)
  | _ => .plain text

/-- Why the words are not read to the end. -/
inductive Stop
  | help
  | misuse
  deriving DecidableEq, Repr

/-- What a command takes: options with the values they accept, commands below it, and how many
operands. -/
structure Usage where
  options : List (String × (String → Bool))
  commands : List String
  operands : Nat

/-- What has been read: options with their values, the option read last with its value if that has
come, and the operands. -/
structure Progress where
  given : List (String × String)
  pending : Option (String × Option String)
  operands : List String
  deriving DecidableEq, Repr

namespace Progress

def start : Progress := { given := [], pending := none, operands := [] }

/-- Whether the next word can be the value of an option. -/
def awaitsValue (progress : Progress) : Bool := progress.pending.any (·.2.isNone)

/-- Checks the option read last: it needs a value that it accepts and must not be repeated. -/
def resolve (usage : Usage) (progress : Progress) : Except Stop Progress :=
  match progress.pending with
  | none => .ok progress
  | some (_, none) => .error .misuse
  | some (name, some value) =>
    let accepted := (usage.options.lookup name).any fun accepts => accepts value
    if accepted && !progress.given.any (·.1 == name) then
      .ok { progress with given := progress.given ++ [(name, value)], pending := none }
    else .error .misuse

def addOperand (usage : Usage) (progress : Progress) (text : String) :
    Except Stop Progress := do
  let resolved ← progress.resolve usage
  if resolved.operands.length < usage.operands then
    pure { resolved with operands := resolved.operands ++ [text] }
  else throw .misuse

/-- An attached value is checked at once. -/
def addOption (usage : Usage) (progress : Progress) (name : String)
    (attached : Option String) : Except Stop Progress := do
  let resolved ← progress.resolve usage
  let started := { resolved with pending := some (name, attached) }
  if attached.isSome then started.resolve usage else pure started

/-- Help is given unless the words before it are wrong. -/
def askHelp (usage : Usage) (progress : Progress) : Except Stop Progress := do
  let _ ← progress.resolve usage
  throw .help

def addWord (usage : Usage) (progress : Progress) : Word → Except Stop Progress
  | .escape => pure progress
  | .long name attached =>
    if name = "help" then
      if attached.isSome then throw .misuse else progress.askHelp usage
    else if (usage.options.lookup name).isSome then progress.addOption usage name attached
    else throw .misuse
  | .short letters =>
    if letters.head? = some 'h' then progress.askHelp usage else throw .misuse
  | .plain text =>
    match progress.pending with
    | some (name, none) => pure { progress with pending := some (name, some text) }
    | _ => progress.addOperand usage text

/-- Reads words up to a command below this one, which is returned with the words after it. The last
option may still be unchecked then. -/
def read (usage : Usage) (progress : Progress) :
    List String → Except Stop (Progress × Option (String × List String))
  | [] => pure (progress, none)
  | text :: rest =>
    if !progress.awaitsValue && usage.commands.contains text then
      pure (progress, some (text, rest))
    else
      match Word.of text with
      | .escape => do
        let ended ← rest.foldlM (addOperand usage) progress
        pure (ended, none)
      | word => do
        let next ← progress.addWord usage word
        next.read usage rest

/-- The first value given for an option. -/
def value? (progress : Progress) (name : String) : Option String := progress.given.lookup name

end Progress

end CohortDesk.CommandLine
