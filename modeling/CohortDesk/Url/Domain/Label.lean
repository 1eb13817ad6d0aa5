import CohortDesk.Url.Domain.Folding
import CohortDesk.Url.Domain.Joiner
import CohortDesk.Url.Punycode
/-!
# Labels of domain names

A label is read as the text that is meant and written with ASCII characters. One past ASCII is
written in Punycode after `xn--`; a label given that way must stand for one that needs it.
-/
namespace CohortDesk.Url.Domain

def isAscii (text : List Char) : Bool := text.all (·.toNat < 0x80)

def encodedMark : List Char := ['x', 'n', '-', '-']

def isEncoded (label : List Char) : Bool := label.take 4 == encodedMark

def longestMeant : Nat := 1000

def longestEncoded : Nat := 2000

/-- Whether a label past ASCII may be part of a name. -/
def isSound (label : List Char) : Bool :=
  label.length ≤ longestMeant && !label.any isRefused && !label.head?.any Mark.isMark &&
    Joiner.allFit [] label

/-- The label that a label in Punycode stands for. -/
def decoded? (label : List Char) : Option (List Char) :=
  let encoded := label.drop 4
  if isAscii encoded && encoded.length ≤ longestEncoded then do
    let meant ← Punycode.decode? encoded
    if !isAscii meant && normalize meant == meant && isSound meant then some meant else none
  else none

/-- The label that a folded label stands for. -/
def meant? (label : List Char) : Option (List Char) :=
  if isEncoded label then decoded? label
  else if isAscii label || isSound label then some label
  else none

def written (label : List Char) : List Char :=
  if isAscii label then label else encodedMark ++ Punycode.encode label

end CohortDesk.Url.Domain
