import CohortDesk.Text.Percent
/-!
# Characters in the parts of a URL

Each part of a URL has its own characters that must be percent-encoded there. Controls and
characters past ASCII are encoded everywhere.
-/
namespace CohortDesk

namespace Url

def isControl (c : Char) : Bool := c.toNat < 0x20 || c.toNat == 0x7F

/-- The parts whose text is encoded. A special scheme is one of those that browsers treat alike. -/
inductive Part
  | user
  | name
  | path
  | segment (special : Bool)
  | query (special : Bool)
  | fragment
  deriving DecidableEq, Repr

namespace Part

def inFragment : List Char := [' ', '"', '<', '>', '\x60']

def inPath : List Char := inFragment ++ ['#', '?', '\x7b', '\x7d']

/-- A segment that is put into a path as a whole must not be split there, nor be read as encoded
already. -/
def inSegment (special : Bool) : List Char :=
  inPath ++ ['/', '%'] ++ if special then ['\\'] else []

def inUser : List Char := inPath ++ ['/', ':', ';', '=', '@', '[', '\\', ']', '^', '|']

def inQuery (special : Bool) : List Char :=
  [' ', '"', '#', '<', '>'] ++ if special then ['\x27'] else []

def reserved : Part → List Char
  | .user => inUser
  | .name => []
  | .path => inPath
  | .segment special => inSegment special
  | .query special => inQuery special
  | .fragment => inFragment

def escapes (part : Part) (c : Char) : Bool := isControl c || part.reserved.contains c

def encode (part : Part) (text : List Char) : List Char :=
  Text.Percent.encode part.escapes text

end Part

end Url

end CohortDesk
