import CohortDesk.Url.Basic
/-!
# Paths of URLs

A path is read segment by segment: one dot stands for the path so far, two dots for the path
without its last segment. A whole segment can also be put at the end of a path; it is encoded so
that it stays one segment, but dots in it keep their meaning.
-/
namespace CohortDesk.Url

/-- A letter and a colon or bar, which name a drive. -/
def isDrive (segment : List Char) : Bool :=
  match segment with
  | [letter, mark] => letter.isAlpha && (mark == ':' || mark == '|')
  | _ => false

/-- The segment with encoded dots as dots, in as far as it is made of dots only. -/
def dots (segment : List Char) : Option Nat :=
  match segment with
  | [] => some 0
  | '.' :: rest => (dots rest).map (· + 1)
  | '%' :: '2' :: 'e' :: rest => (dots rest).map (· + 1)
  | '%' :: '2' :: 'E' :: rest => (dots rest).map (· + 1)
  | _ => none

/-- A drive, alone or with a path after it that a backslash sets off. -/
def opensDrive (segment : List Char) : Bool :=
  isDrive (segment.take 2) && (segment.drop 2).head?.all (· == '\\')

/-- The path without its last segment. A drive is not left. -/
def parent (path : List (List Char)) : List (List Char) :=
  if path.getLast?.any opensDrive then path else path.dropLast

/-- Drives of files are written with a colon. -/
def driveText (segment : List Char) : List Char :=
  if isDrive segment then segment.take 1 ++ [':'] else segment

/-- Adds one segment after which more follow. -/
def enter (isFile : Bool) (path : List (List Char)) (segment : List Char) : List (List Char) :=
  match dots segment with
  | some 1 => path
  | some 2 => parent path
  | _ => path ++ [if isFile && path.isEmpty then driveText segment else segment]

/-- Adds the last segment. Dots leave an empty one. -/
def enterLast (isFile : Bool) (path : List (List Char)) (segment : List Char) :
    List (List Char) :=
  match dots segment with
  | some 1 => path ++ [[]]
  | some 2 => parent path ++ [[]]
  | _ => enter isFile path segment

def ofSegments (isFile : Bool) (path : List (List Char)) : List (List Char) → List (List Char)
  | [] => path
  | [segment] => enterLast isFile path segment
  | segment :: rest => ofSegments isFile (enter isFile path segment) rest

/-- The path of a file has no empty segments at its start. -/
def trimLeading : List (List Char) → List (List Char)
  | [] :: next :: rest => trimLeading (next :: rest)
  | path => path

def isSeparator (family : Family) (c : Char) : Bool := c == '/' || (family.isSpecial && c == '\\')

/-- The path that a text spells whose first slash was taken off. -/
def readPath (family : Family) (text : List Char) : List (List Char) :=
  let slashed := text.map fun c => if isSeparator family c then '/' else c
  ofSegments (family == .file) [] ((slashed.splitOn '/').map Part.path.encode)

/-- Characters that do not count anywhere in a URL. -/
def isSkipped (c : Char) : Bool := c == '\t' || c == '\n' || c == '\r'

/-- An empty segment at the end is dropped, except that of the root. -/
def withoutTrailing (path : List (List Char)) : List (List Char) :=
  if 2 ≤ path.length ∧ path.getLast? = some [] then path.dropLast else path

def push (family : Family) (path : List (List Char)) (segment : List Char) : List (List Char) :=
  if segment = ['.'] ∨ segment = ['.', '.'] then path
  else
    let base := if path = [[]] then [] else path
    let kept := segment.filter fun c => !isSkipped c
    enterLast (family == .file) base ((Part.segment family.isSpecial).encode kept)

end CohortDesk.Url

namespace CohortDesk

/-- The URL with the segments after its path. -/
def Url.extend (url : Url) (segments : List (List Char)) : Url :=
  { url with
    path := segments.foldl (Url.push (Url.familyOf url.scheme)) (Url.withoutTrailing url.path) }

end CohortDesk
