import CohortDesk.Text.Utf8
import CohortDesk.Url.Domain.Direction
import CohortDesk.Url.Domain.Label
/-!
# Domain names

A domain name is folded, split into labels and resolved to labels of ASCII characters in lower
case.
-/
namespace CohortDesk.Url.Domain

open Text

def isForbidden (c : Char) : Bool :=
  c.toNat ≤ 0x20 || c.toNat == 0x7F || "%#/:<>?@[\\]^|".toList.contains c

def folded (text : List Char) : List Char :=
  if isAscii text then text.map Char.toLower else normalize text

/-- The ASCII form of the name that the bytes spell. -/
def resolve? (bytes : List UInt8) : Option (List Char) := do
  let text ← Utf8.decode? bytes
  let labels ← ((folded text).splitOn '.').mapM meant?
  let name := ['.'].intercalate (labels.map written)
  if directionsFit labels && !name.any isForbidden then some name else none

end CohortDesk.Url.Domain
