import CohortDesk.Screen.Basic
import CohortDesk.Settings.File
import CohortDesk.Text.Blank
/-!
# Settings

What a run of the program works with. Standard values are overridden by the settings file, that by
the environment, and the server URL by the command line. A number in the environment that cannot
be read is passed over; a file that cannot be read stops the program.
-/
namespace CohortDesk

structure Settings where
  serverUrl : Option String
  pageSize : UInt32
  defaultOrder : String
  filterDebounceMs : UInt64
  requestTimeoutSecs : UInt64
  deriving DecidableEq, Repr

/-- The text of each variable that is set to text. -/
abbrev Environment := String → Option String

namespace Settings

def standard : Settings :=
  { serverUrl := none
    pageSize := Query.defaultLimit
    defaultOrder := Query.defaultOrder
    filterDebounceMs := ViewOptions.standard.debounceMs
    requestTimeoutSecs := 30 }

/-- A server URL without the blanks around it; nothing but blanks takes it away. -/
def urlOf (given : String) : Option String :=
  let url := Text.trim given.toList
  if url = [] then none else some (String.ofList url)

def setServerUrl (settings : Settings) (given : String) : Settings :=
  { settings with serverUrl := urlOf given }

def overrideUrl (settings : Settings) (given : Option String) : Settings :=
  given.elim settings settings.setServerUrl

def applyFile (settings : Settings) (file : File) : Settings :=
  { settings.overrideUrl file.serverUrl with
    pageSize := file.pageSize.getD settings.pageSize
    defaultOrder := file.defaultOrder.getD settings.defaultOrder
    filterDebounceMs := file.filterDebounceMs.getD settings.filterDebounceMs
    requestTimeoutSecs := file.requestTimeoutSecs.getD settings.requestTimeoutSecs }

def numberOf (bound : Nat) (text : String) : Option Nat := Text.unsigned? bound text.toList

def wordOf (text : String) : Option UInt32 := (numberOf UInt32.size text).map UInt32.ofNat

def longWordOf (text : String) : Option UInt64 := (numberOf UInt64.size text).map UInt64.ofNat

def applyEnvironment (settings : Settings) (environment : Environment) : Settings :=
  let located := (settings.overrideUrl (environment "COHORTS_SERVER_URL")).overrideUrl
    (environment "APP__SERVER_URL")
  { located with
    pageSize := ((environment "APP__PAGE_SIZE").bind wordOf).getD settings.pageSize
    defaultOrder := (environment "APP__DEFAULT_ORDER").getD settings.defaultOrder
    filterDebounceMs :=
      ((environment "APP__FILTER_DEBOUNCE_MS").bind longWordOf).getD settings.filterDebounceMs
    requestTimeoutSecs :=
      ((environment "APP__REQUEST_TIMEOUT_SECS").bind longWordOf).getD settings.requestTimeoutSecs }

def viewOptions (settings : Settings) : ViewOptions :=
  { pageSize := settings.pageSize
    order := settings.defaultOrder
    debounceMs := settings.filterDebounceMs }

/-- Seconds given to the worker beyond the time limit of a request. -/
def settleMargin : Nat := 5

/-- How many seconds to wait for the screen to come to rest, if 64 bits can hold them. -/
def settleTimeout? (settings : Settings) : Option Nat :=
  let seconds := settings.requestTimeoutSecs.toNat + settleMargin
  if seconds < UInt64.size then some seconds else none

/-- What stands where the settings file is looked for. -/
inductive Place
  | missing
  | unreadable
  | bytes (content : List UInt8)
  deriving DecidableEq, Repr

inductive Fault
  | unreadable (path : String)
  | malformed (path : String)
  deriving DecidableEq, Repr

def Fault.message : Fault → String
  | .unreadable path => "failed to read settings file '" ++ path ++ "'"
  | .malformed path => "failed to parse settings file '" ++ path ++ "'"

/-- The settings file at a path, if there is one. -/
def fileAt (path : String) : Place → Except Fault (Option File)
  | .missing => .ok none
  | .unreadable => .error (.unreadable path)
  | .bytes content =>
    match Text.Utf8.decode? content with
    | none => .error (.unreadable path)
    | some text =>
      match File.read? text with
      | some file => .ok (some file)
      | none => .error (.malformed path)

def load (path : String) (place : Place) (environment : Environment) : Except Fault Settings :=
  (fileAt path place).map fun file =>
    (file.elim standard standard.applyFile).applyEnvironment environment

end Settings

end CohortDesk
