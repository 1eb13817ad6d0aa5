import CohortDesk.Service.Failure
import CohortDesk.Text.Blank
import CohortDesk.Text.Utf8
import CohortDesk.Wire
/-!
# Replies of the service

A reply is a status and the bytes of a body, which may break off. It brings a listing, confirms a
removal, or is a failure: a refusal in the service's own words when the body holds one, otherwise
the status with a message.
-/
namespace CohortDesk

/-- What an exchange comes to: if the sender follows redirects, the reply at the end of them. -/
structure Reply where
  status : Nat
  body : List UInt8
  complete : Bool
  deriving DecidableEq, Repr

namespace Reply

def isSuccess (reply : Reply) : Bool := 200 ≤ reply.status && reply.status < 300

/-- The standard reasons of the statuses that are no success. -/
def reasons : List (Nat × String) :=
  [(100, "Continue"), (101, "Switching Protocols"), (102, "Processing"), (103, "Early Hints"),
    (300, "Multiple Choices"), (301, "Moved Permanently"), (302, "Found"), (303, "See Other"),
    (304, "Not Modified"), (305, "Use Proxy"), (307, "Temporary Redirect"),
    (308, "Permanent Redirect"), (400, "Bad Request"), (401, "Unauthorized"),
    (402, "Payment Required"), (403, "Forbidden"), (404, "Not Found"),
    (405, "Method Not Allowed"), (406, "Not Acceptable"),
    (407, "Proxy Authentication Required"), (408, "Request Timeout"), (409, "Conflict"),
    (410, "Gone"), (411, "Length Required"), (412, "Precondition Failed"),
    (413, "Payload Too Large"), (414, "URI Too Long"), (415, "Unsupported Media Type"),
    (416, "Range Not Satisfiable"), (417, "Expectation Failed"), (418, "I'm a teapot"),
    (421, "Misdirected Request"), (422, "Unprocessable Entity"), (423, "Locked"),
    (424, "Failed Dependency"), (425, "Too Early"), (426, "Upgrade Required"),
    (428, "Precondition Required"), (429, "Too Many Requests"),
    (431, "Request Header Fields Too Large"), (451, "Unavailable For Legal Reasons"),
    (500, "Internal Server Error"), (501, "Not Implemented"), (502, "Bad Gateway"),
    (503, "Service Unavailable"), (504, "Gateway Timeout"),
    (505, "HTTP Version Not Supported"), (506, "Variant Also Negotiates"),
    (507, "Insufficient Storage"), (508, "Loop Detected"), (510, "Not Extended"),
    (511, "Network Authentication Required")]

def reason (status : Nat) : String := (reasons.lookup status).getD "unexpected response"

/-- The text of an error's body. One that breaks off counts as empty. -/
def text (reply : Reply) : List Char :=
  if reply.complete then Text.Utf8.decodeLossy reply.body else []

def refusal? (reply : Reply) : Option Refusal :=
  decode? Refusal.ofJson? (String.ofList reply.text)

/-- What a reply without success says. -/
def failure (reply : Reply) : Failure :=
  match reply.refusal? with
  | some refusal => .rejected refusal
  | none =>
    let message := Text.trim reply.text
    .status reply.status
      (if message = [] then reason reply.status else String.ofList message)

/-- The listing in the body of a success. -/
def cohorts? (reply : Reply) : Option (List Cohort) :=
  if reply.complete then decodeBytes? Cohort.listOfJson? reply.body else none

def listing (reply : Reply) : Except Failure (List Cohort) :=
  if reply.isSuccess then
    match reply.cohorts? with
    | some cohorts => .ok cohorts
    | none => .error (.transport .unreadableBody)
  else .error reply.failure

/-- A removal is confirmed by the status alone. -/
def removal (reply : Reply) : Except Failure Unit :=
  if reply.isSuccess then .ok () else .error reply.failure

end Reply

end CohortDesk
