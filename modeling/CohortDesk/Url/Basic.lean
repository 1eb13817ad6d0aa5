import CohortDesk.Url.Address
import CohortDesk.Url.Part
/-!
# URLs

A URL with a path of segments, taken apart, and its text. All parts hold their encoded text.
-/
namespace CohortDesk

namespace Url

inductive Host
  | name (text : List Char)
  | ipv4 (address : UInt32)
  | ipv6 (pieces : List UInt16)
  deriving DecidableEq, Repr

def Host.text : Host → List Char
  | .name text => text
  | .ipv4 address => ipv4Text address
  | .ipv6 pieces => ['['] ++ ipv6Text pieces ++ [']']

/-- Who serves the URL. An empty password is the same as none. -/
structure Authority where
  user : List Char
  password : List Char
  host : Option Host
  portNumber : Option UInt16
  deriving DecidableEq, Repr

namespace Authority

def userText (authority : Authority) : List Char :=
  let password := if authority.password = [] then [] else ':' :: authority.password
  let whole := authority.user ++ password
  if whole = [] then [] else whole ++ ['@']

def portText (authority : Authority) : List Char :=
  match authority.portNumber with
  | some number => ':' :: Text.digits number.toNat
  | none => []

def text (authority : Authority) : List Char :=
  authority.userText ++ (authority.host.map Host.text).getD [] ++ authority.portText

end Authority

/-- How a scheme's URLs are read: those of files, those of other schemes that browsers treat alike,
and all others. -/
inductive Family
  | file
  | special (usualPort : UInt16)
  | plain
  deriving DecidableEq, Repr

def Family.isSpecial : Family → Bool
  | .plain => false
  | _ => true

def familyOf (scheme : List Char) : Family :=
  match String.ofList scheme with
  | "http" | "ws" => .special 80
  | "https" | "wss" => .special 443
  | "ftp" => .special 21
  | "file" => .file
  | _ => .plain

end Url

/-- A path that starts with an empty segment is `dotted` when no authority stands before it, so that
the segment is not read as one. -/
structure Url where
  scheme : List Char
  authority : Option Url.Authority
  dotted : Bool
  path : List (List Char)
  query : Option (List Char)
  fragment : Option (List Char)
  deriving DecidableEq, Repr

namespace Url

def pathText (path : List (List Char)) : List Char := path.flatMap ('/' :: ·)

/-- A part that may be missing, after its mark. -/
def marked (mark : Char) : Option (List Char) → List Char
  | some text => mark :: text
  | none => []

def authorityText (url : Url) : List Char :=
  match url.authority with
  | some authority => '/' :: '/' :: authority.text
  | none => []

def text (url : Url) : List Char :=
  url.scheme ++ [':'] ++ url.authorityText ++ (if url.dotted then ['/', '.'] else []) ++
    pathText url.path ++ marked '?' url.query ++ marked '#' url.fragment

def host? (url : Url) : Option Host := url.authority.bind (·.host)

def isSpecial (url : Url) : Bool := (familyOf url.scheme).isSpecial

end Url

end CohortDesk
