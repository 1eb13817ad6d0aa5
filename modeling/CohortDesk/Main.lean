import CohortDesk.Program
import CohortDesk.Service.Message
import Std.Async.DNS
import Std.Async.TCP
import Std.Async.Timer
/-!
# The executable

Files, environment, connections and printing. What is asked and what it means is decided elsewhere.
-/
namespace CohortDesk.Main

open Std.Async

/-- Collects the bytes that come in until the other end closes the connection. -/
partial def receive (socket : TCP.Socket.Client) (incoming : IO.Ref ByteArray) : Async Unit := do
  match ← socket.recv? 65536 with
  | some piece =>
    incoming.modify (· ++ piece)
    receive socket incoming
  | none => pure ()

def peerAddress (address : Std.Net.IPAddr) (number : UInt16) : Std.Net.SocketAddress :=
  match address with
  | .v4 addr => .v4 { addr, port := number }
  | .v6 addr => .v6 { addr, port := number }

/-- Sends a message and collects what comes back. True once the other end has said all. -/
def converse (host : String) (number : UInt16) (message : ByteArray)
    (incoming : IO.Ref ByteArray) : Async Bool := do
  let addresses ← DNS.getAddrInfo host (toString number)
  match addresses[0]? with
  | some address =>
    let socket ← TCP.Socket.Client.mk
    socket.connect (peerAddress address number)
    socket.send message
    receive socket incoming
    pure true
  | none => pure false

def giveUpAfter (seconds : Nat) : Async Bool := do
  sleep (Std.Time.Millisecond.Offset.ofNat (seconds * 1000))
  pure false

def hostName : Url.Host → String
  | .ipv6 pieces => String.ofList (Url.ipv6Text pieces)
  | host => String.ofList host.text

def usualPort : UInt16 := 80

/-- Connections are not encrypted, so only plain requests get a reply. -/
def exchange (seconds : Nat) (request : Request) : IO Exchange := do
  match request.target.authority, request.target.host? with
  | some authority, some host =>
    if request.target.scheme == "http".toList then
      let incoming ← IO.mkRef ByteArray.empty
      let message := ByteArray.mk request.message.toArray
      let number := authority.portNumber.getD usualPort
      let ended ←
        try
          (Async.race (converse (hostName host) number message incoming)
            (giveUpAfter seconds)).block
        catch _ => pure false
      let received ← incoming.get
      match Reply.ofMessage? ended received.toList with
      | some reply => pure (.answered reply)
      | none => pure .broken
    else pure .broken
  | _, _ => pure .broken

def placeAt (path : String) : IO Settings.Place := do
  try
    let content ← IO.FS.readBinFile path
    pure (.bytes content.toList)
  catch
    | .noFileOrDirectory _ _ _ => pure .missing
    | _ => pure .unreadable

def environment : IO Environment := do
  let names :=
    ["COHORTS_SERVER_URL", "APP__SERVER_URL", "APP__PAGE_SIZE", "APP__DEFAULT_ORDER",
      "APP__FILTER_DEBOUNCE_MS", "APP__REQUEST_TIMEOUT_SECS"]
  let pairs ← names.mapM fun name => do
    let value ← IO.getEnv name
    pure (name, value)
  pure fun name => (pairs.lookup name).join

def secondsFor (arguments : CommandLine.Arguments) (place : Settings.Place)
    (surroundings : Environment) : Nat :=
  match Settings.load arguments.settingsPath place surroundings with
  | .ok settings => settings.requestTimeoutSecs.toNat
  | .error _ => 0

def outcome (words : List String) : IO Outcome :=
  match CommandLine.Invocation.of words with
  | .run arguments => do
    let place ← placeAt arguments.settingsPath
    let surroundings ← environment
    let clock ← IO.monoMsNow
    let send := exchange (secondsFor arguments place surroundings)
    Program.run (clock / 1000) send arguments place surroundings
  | .help topic => pure (.finished topic.text none)
  | .misuse => pure .misused

def complaintText (complaint : Complaint) : String :=
  match complaint.cause with
  | some _ => "Error: " ++ complaint.message ++ "\n\nCaused by:\n" ++ complaint.causeText
  | none => "Error: " ++ complaint.message

def report (outcome : Outcome) : IO Unit := do
  (← IO.getStdout).putStr outcome.output
  match outcome with
  | .finished _ (some complaint) => IO.eprintln (complaintText complaint)
  | .misused => IO.eprint CommandLine.Topic.program.text
  | _ => pure ()

end CohortDesk.Main

def main (words : List String) : IO UInt32 := do
  let outcome ← CohortDesk.Main.outcome words
  CohortDesk.Main.report outcome
  pure outcome.exitCode.toUInt32
