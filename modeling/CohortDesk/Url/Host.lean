import CohortDesk.Url.Basic
import CohortDesk.Url.Domain
import CohortDesk.Url.Fault
/-!
# Hosts of URLs

The host of a special scheme is a domain name or an address; what looks like an address must be
one. The host of any other scheme is kept as it stands. An address of version 6 is in brackets.
-/
namespace CohortDesk.Url

def bracketed? (text : List Char) : Except Fault Host :=
  if text.getLast? = some ']' then
    match ipv6? (text.drop 1).dropLast with
    | some pieces => .ok (.ipv6 pieces)
    | none => .error .invalidIpv6
  else .error .invalidIpv6

def invalidInPlainHost : List Char :=
  ['\x00', '\t', '\n', '\r', ' ', '#', '/', ':', '<', '>', '?', '@', '[', '\\', ']', '^', '|']

/-- The host of a scheme that is not special. -/
def plainHost (text : List Char) : Except Fault (Option Host) :=
  if text.head? = some '[' then (bracketed? text).map some
  else if text.any invalidInPlainHost.contains then .error .invalidHostCharacter
  else if text = [] then .ok none
  else .ok (some (.name (Part.name.encode text)))

def specialHost (text : List Char) : Except Fault Host :=
  if text.head? = some '[' then bracketed? text
  else
    match Domain.resolve? (Text.Percent.decode text) with
    | none => .error .invalidName
    | some [] => .error .emptyHost
    | some name =>
      if endsInNumber name then
        match ipv4? name with
        | some address => .ok (.ipv4 address)
        | none => .error .invalidIpv4
      else .ok (.name name)

def hostOf (family : Family) (text : List Char) : Except Fault (Option Host) :=
  if !family.isSpecial then plainHost text
  else if text = [] then .error .emptyHost
  else (specialHost text).map some

end CohortDesk.Url
