import CohortDesk.Service.Failure
import CohortDesk.Text.Base64
import CohortDesk.Text.Form
import CohortDesk.Url.Basic
/-!
# Requests to the service

What is sent: a method, a target and perhaps credentials. Credentials in the URL become a header,
and the query's pairs follow the pairs that the URL has. A URL that cannot be sent is a fault.
-/
namespace CohortDesk

inductive Method
  | get
  | delete
  deriving DecidableEq, Repr

def Method.name : Method → String
  | .get => "GET"
  | .delete => "DELETE"

structure Credentials where
  user : List Char
  password : Option (List Char)
  deriving DecidableEq, Repr

/-- The header that carries the credentials. -/
def Credentials.header (credentials : Credentials) : List Char :=
  let plain := credentials.user ++ [':'] ++ credentials.password.getD []
  "Basic ".toList ++ Text.Base64.encode (Text.Utf8.encode plain)

structure Request where
  method : Method
  target : Url
  credentials : Option Credentials
  deriving DecidableEq, Repr

namespace Url

/-- The credentials of a URL as plain text. A user name that is not text hides them. -/
def credentials? (url : Url) : Option Credentials := do
  let authority ← url.authority
  let user ← Text.Percent.decodeText? authority.user
  let password :=
    if authority.password = [] then none else Text.Percent.decodeText? authority.password
  if user = [] ∧ password = none then none else some { user, password }

def withoutUser (url : Url) : Url :=
  { url with
    authority := url.authority.map fun authority => { authority with user := [], password := [] } }

/-- The URL less the credentials that become a header. -/
def bare (url : Url) : Url := if url.credentials?.isSome then url.withoutUser else url

/-- The query after the pairs are added to it. -/
def joinQuery (query : Option (List Char)) (pairs : List (List Char × List Char)) :
    Option (List Char) :=
  let added := Text.Form.encodePairs pairs
  match query with
  | none => some added
  | some [] => some added
  | some own => some (own ++ ['&'] ++ added)

def withPairs (url : Url) (pairs : List (List Char × List Char)) : Url :=
  { url with query := joinQuery url.query pairs }

/-- The URL as it is asked for: without its fragment. -/
def withoutFragment (url : Url) : Url := { url with fragment := none }

/-- The longest URL that can be sent, in bytes. -/
def longest : Nat := 65534

def isWeb (url : Url) : Bool :=
  url.scheme == "http".toList || url.scheme == "https".toList

/-- Characters that a URL's host may have but a request's may not. -/
def hostFits (url : Url) : Bool :=
  match url.host? with
  | some host => !host.text.any ['"', '\x60', '\x7b', '\x7d'].contains
  | none => false

def canBeSent (url : Url) : Bool :=
  url.isWeb && url.hostFits && (Text.Utf8.encode url.text).length ≤ longest

end Url

namespace Request

/-- The request for a URL, with pairs for its query. A URL without a host is not looked at any
further. -/
def of? (method : Method) (url : Url) (pairs : Option (List (List Char × List Char))) :
    Except TransportFault Request :=
  if url.host? = none then .error (.unbuildable (String.ofList url.text))
  else
    let target := pairs.elim url.bare url.bare.withPairs
    if target.canBeSent then .ok { method, target, credentials := url.credentials? }
    else .error (.unbuildable (String.ofList target.text))

/-- The fault of an exchange in which no reply came. -/
def unsent (request : Request) : TransportFault :=
  .unsent (String.ofList request.target.text)

end Request

end CohortDesk
