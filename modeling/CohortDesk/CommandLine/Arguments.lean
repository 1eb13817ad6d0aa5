import CohortDesk.CommandLine.Help
import CohortDesk.CommandLine.Words
import CohortDesk.Desk
/-!
# Arguments of the program

What the command line asks for: a listing with changes to its query or the removal of a cohort,
with the settings file and the server URL to use; or help; or nothing that makes sense.
-/
namespace CohortDesk.CommandLine

inductive Action
  | list (filter order : Option String) (limit page : Option UInt32)
  | remove (name : CohortName)
  deriving DecidableEq, Repr

structure Arguments where
  settingsPath : String
  serverUrl : Option String
  action : Action
  deriving DecidableEq, Repr

inductive Invocation
  | run (arguments : Arguments)
  | help (topic : Topic)
  | misuse
  deriving DecidableEq, Repr

def defaultSettingsPath : String := "cohorts-admin.toml"

def anyText : String → Bool := fun _ => true

/-- A number on the command line may have a sign, which leaves a zero as it is. -/
def word? (text : String) : Option UInt32 := do
  let value ← Text.signed? text.toList
  if 0 ≤ value ∧ value < UInt32.size then some (UInt32.ofNat value.toNat) else none

def isWord (text : String) : Bool := (word? text).isSome

def programUsage : Usage :=
  { options := [("config", fun path => path ≠ ""), ("server-url", anyText)]
    commands := ["list", "remove", "help"]
    operands := 0 }

def listUsage : Usage :=
  { options := [("filter", anyText), ("order", anyText), ("limit", isWord), ("page", isWord)]
    commands := []
    operands := 0 }

def removeUsage : Usage := { options := [], commands := [], operands := 1 }

/-- All words of a command, with its last option checked. -/
def readAll (usage : Usage) (words : List String) : Except Stop Progress := do
  let (progress, _) ← Progress.start.read usage words
  progress.resolve usage

def listAction (words : List String) : Except Stop Action := do
  let progress ← readAll listUsage words
  pure (.list (progress.value? "filter") (progress.value? "order")
    ((progress.value? "limit").bind word?) ((progress.value? "page").bind word?))

def removeAction (words : List String) : Except Stop Action := do
  let progress ← readAll removeUsage words
  match progress.operands with
  | [name] => pure (.remove name)
  | _ => throw .misuse

def stopped (topic : Topic) : Stop → Invocation
  | .help => .help topic
  | .misuse => .misuse

/-- Adds the program's own options, of which the last is checked only now. -/
def withOptions (progress : Progress) (topic : Topic) (action : Except Stop Action) :
    Invocation :=
  match action with
  | .error stop => stopped topic stop
  | .ok action =>
    match progress.resolve programUsage with
    | .error stop => stopped topic stop
    | .ok resolved =>
      .run
        { settingsPath := (resolved.value? "config").getD defaultSettingsPath
          serverUrl := resolved.value? "server-url"
          action }

def Invocation.of (words : List String) : Invocation :=
  match Progress.start.read programUsage words with
  | .error stop => stopped .program stop
  | .ok (progress, some ("list", rest)) => withOptions progress .list (listAction rest)
  | .ok (progress, some ("remove", rest)) => withOptions progress .remove (removeAction rest)
  | .ok (_, some ("help", rest)) => (Topic.of? rest).elim .misuse .help
  | .ok _ => .misuse

end CohortDesk.CommandLine
