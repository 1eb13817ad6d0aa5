import CohortDesk.Service.Reply
import CohortDesk.Service.Request
/-!
# Messages between client and service

Requests and replies as they travel over a connection that serves one request: a first line, header
lines, an empty line and the body. A reply's body has a given length, or comes in chunks, or lasts
until the connection ends.
-/
namespace CohortDesk

namespace Request

def lineBreak : List Char := ['\r', '\n']

def headerLine (name : String) (value : List Char) : List Char :=
  name.toList ++ [':', ' '] ++ value ++ lineBreak

/-- Host and number of the connection's other end, as the request names it. -/
def peerText (request : Request) : List Char :=
  match request.target.authority with
  | some authority => (authority.host.map Url.Host.text).getD [] ++ authority.portText
  | none => []

/-- Path and query; an empty path counts as the root. -/
def resource (request : Request) : List Char :=
  let path := if request.target.path = [] then ['/'] else Url.pathText request.target.path
  path ++ Url.marked '?' request.target.query

def message (request : Request) : List UInt8 :=
  Text.Utf8.encode
    (request.method.name.toList ++ [' '] ++ request.resource ++ " HTTP/1.1".toList ++ lineBreak ++
      headerLine "host" request.peerText ++ headerLine "accept" ['*', '/', '*'] ++
      (request.credentials.map fun credentials =>
        headerLine "authorization" credentials.header).getD [] ++
      headerLine "connection" "close".toList ++ lineBreak)

end Request

/-- The first line of a reply and its headers, with names in lower case. -/
structure ReplyHead where
  status : Nat
  headers : List (List Char × List Char)
  deriving DecidableEq, Repr

/-- A body and whether all of it has come. -/
structure Received where
  body : List UInt8
  complete : Bool
  deriving DecidableEq, Repr

namespace ReplyHead

def newline : UInt8 := 10

/-- The line at the front, without its line break, and what follows. -/
def line? (bytes : List UInt8) : Option (List Char × List UInt8) :=
  match bytes.dropWhile (· ≠ newline) with
  | _ :: rest =>
    let text := Text.Utf8.decodeLossy (bytes.takeWhile (· ≠ newline))
    some (if text.getLast? = some '\r' then text.dropLast else text, rest)
  | [] => none

def status? (line : List Char) : Option Nat :=
  if line.take 5 = "HTTP/".toList then
    Text.natural? (((line.dropWhile (· ≠ ' ')).drop 1).take 3)
  else none

def header (line : List Char) : List Char × List Char :=
  ((line.takeWhile (· ≠ ':')).map Char.toLower, Text.trim ((line.dropWhile (· ≠ ':')).drop 1))

/-- Header lines up to the empty one. Each line takes a byte at least, so the number of bytes is
bound enough. -/
def headersWithin : Nat → List UInt8 → Option (List (List Char × List Char) × List UInt8)
  | 0, _ => none
  | bound + 1, bytes => do
    let (line, rest) ← line? bytes
    if line = [] then pure ([], rest)
    else
      let (headers, body) ← headersWithin bound rest
      pure (header line :: headers, body)

def read? (bytes : List UInt8) : Option (ReplyHead × List UInt8) := do
  let (line, rest) ← line? bytes
  let status ← status? line
  let (headers, body) ← headersWithin rest.length rest
  pure ({ status, headers }, body)

def value? (head : ReplyHead) (name : String) : Option (List Char) :=
  head.headers.lookup name.toList

/-- A reply that only announces another. -/
def isInterim (head : ReplyHead) : Bool :=
  100 ≤ head.status && head.status < 200 && head.status != 101

/-- The number of bytes in the chunk that a line announces. -/
def chunkSize? (line : List Char) : Option Nat :=
  let written := Text.trim (line.takeWhile (· ≠ ';'))
  if written = [] then none else Text.numeral? 16 written

/-- The body that chunks make up, the last of which is empty. -/
def chunksWithin : Nat → List UInt8 → Received
  | 0, _ => { body := [], complete := false }
  | bound + 1, bytes =>
    match line? bytes with
    | none => { body := [], complete := false }
    | some (line, rest) =>
      match chunkSize? line with
      | none => { body := [], complete := false }
      | some 0 => { body := [], complete := true }
      | some size =>
        let others := chunksWithin bound ((rest.drop size).drop 2)
        { body := rest.take size ++ others.body
          complete := decide (size ≤ rest.length) && others.complete }

/-- The body among the bytes that came after the head. `ended` says that the other end closed the
connection, which alone ends a body of no given length. -/
def received (head : ReplyHead) (ended : Bool) (bytes : List UInt8) : Received :=
  if head.status = 204 ∨ head.status = 304 then { body := [], complete := true }
  else if head.value? "transfer-encoding" = some "chunked".toList then
    chunksWithin bytes.length bytes
  else
    match (head.value? "content-length").bind Text.natural? with
    | some size => { body := bytes.take size, complete := decide (size ≤ bytes.length) }
    | none => { body := bytes, complete := ended }

end ReplyHead

namespace Reply

/-- The reply among the bytes of a connection, after replies that only announce it. A head takes a
byte at least, so the number of bytes is bound enough. -/
def ofMessageWithin (ended : Bool) : Nat → List UInt8 → Option Reply
  | 0, _ => none
  | bound + 1, bytes => do
    let (head, rest) ← ReplyHead.read? bytes
    if head.isInterim then ofMessageWithin ended bound rest
    else
      let received := head.received ended rest
      pure { status := head.status, body := received.body, complete := received.complete }

def ofMessage? (ended : Bool) (bytes : List UInt8) : Option Reply :=
  ofMessageWithin ended bytes.length bytes

end Reply

end CohortDesk
