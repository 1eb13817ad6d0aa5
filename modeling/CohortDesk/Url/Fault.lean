/-!
# Faults of URLs

Why a text is not an absolute URL with a path of segments.
-/
namespace CohortDesk.Url

inductive Fault
  | emptyHost
  | invalidName
  | invalidPort
  | invalidIpv4
  | invalidIpv6
  | invalidHostCharacter
  | relative
  | pathless
  deriving DecidableEq, Repr

def Fault.message : Fault → String
  | .emptyHost => "empty host"
  | .invalidName => "invalid international domain name"
  | .invalidPort => "invalid port number"
  | .invalidIpv4 => "invalid IPv4 address"
  | .invalidIpv6 => "invalid IPv6 address"
  | .invalidHostCharacter => "invalid domain character"
  | .relative => "relative URL without a base"
  | .pathless => "url cannot carry a path"

end CohortDesk.Url
