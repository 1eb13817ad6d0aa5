import CohortDesk.Text.Percent
/-!
# Form data

Pairs of texts in the query of a URL: `name=value` joined by `&`, a blank written as `+`, letters,
digits and `*-._` as themselves, everything else percent-encoded.
-/
namespace CohortDesk.Text.Form

def standsForItself (c : Char) : Bool :=
  c.isAlphanum || c == '*' || c == '-' || c == '.' || c == '_'

def encodeChar (c : Char) : List Char :=
  if c = ' ' then ['+'] else Percent.encodeChar (fun other => !standsForItself other) c

def encode (text : List Char) : List Char := text.flatMap encodeChar

def encodePair (pair : List Char × List Char) : List Char :=
  encode pair.1 ++ '=' :: encode pair.2

def encodePairs (pairs : List (List Char × List Char)) : List Char :=
  ['&'].intercalate (pairs.map encodePair)

def decode (text : List Char) : List Char :=
  Utf8.decodeLossy (Percent.decode (text.map fun c => if c = '+' then ' ' else c))

def decodePair (piece : List Char) : List Char × List Char :=
  (decode (piece.takeWhile (· ≠ '=')), decode ((piece.dropWhile (· ≠ '=')).drop 1))

/-- Empty pieces carry no pair. -/
def decodePairs (text : List Char) : List (List Char × List Char) :=
  ((text.splitOn '&').filter (· ≠ [])).map decodePair

end CohortDesk.Text.Form
