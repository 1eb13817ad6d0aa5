import CohortDesk.Url.Host
import CohortDesk.Url.Path
/-!
# Reading URLs

A text is read as an absolute URL with a path of segments, as browsers read URLs: blanks and
controls around it and line breaks and tabs inside it do not count, and what a part may not hold is
encoded. A fault says why there is no such URL.
-/
namespace CohortDesk.Url

/-- The text that counts. -/
def clean (text : List Char) : List Char :=
  let outer := fun (c : Char) => decide (c.toNat ≤ 0x20)
  let trimmed := ((text.dropWhile outer).reverse.dropWhile outer).reverse
  trimmed.filter fun c => !isSkipped c

def isSchemeChar (c : Char) : Bool := c.isAlphanum || c == '+' || c == '-' || c == '.'

/-- The scheme in lower case and what follows its colon. -/
def scheme? (text : List Char) : Option (List Char × List Char) :=
  let scheme := text.takeWhile isSchemeChar
  match text.drop scheme.length with
  | ':' :: rest =>
    if scheme.head?.any Char.isAlpha then some (scheme.map Char.toLower, rest) else none
  | _ => none

/-- The text before the first mark, and the text after it if it occurs. -/
def cut (mark : Char) (text : List Char) : List Char × Option (List Char) :=
  match text.dropWhile (· ≠ mark) with
  | _ :: after => (text.takeWhile (· ≠ mark), some after)
  | [] => (text, none)

/-- The parts that follow the path. -/
structure Tail where
  query : Option (List Char)
  fragment : Option (List Char)

def Tail.isEmpty (tail : Tail) : Bool := tail.query.isNone && tail.fragment.isNone

/-- Splits off query and fragment, both encoded. -/
def cutTail (family : Family) (text : List Char) : List Char × Tail :=
  let (body, fragment) := cut '#' text
  let (body, query) := cut '?' body
  (body,
    { query := query.map (Part.query family.isSpecial).encode
      fragment := fragment.map Part.fragment.encode })

/-- The user part before the last at sign of the authority, and what follows the sign. -/
def cutUser (family : Family) (body : List Char) : Option (List Char) × List Char :=
  let front := body.takeWhile fun c => !isSeparator family c
  if front.contains '@' then
    let after := (front.reverse.takeWhile (· ≠ '@')).reverse
    (some (front.take (front.length - after.length - 1)), after ++ body.drop front.length)
  else (none, body)

/-- The host's text: it ends at a colon outside brackets or at the path. -/
def cutHost (family : Family) : Bool → List Char → List Char × List Char
  | _, [] => ([], [])
  | inside, c :: rest =>
    if (c == ':' && !inside) || isSeparator family c then ([], c :: rest)
    else
      let stays := if c == '[' then true else if c == ']' then false else inside
      let (host, after) := cutHost family stays rest
      (c :: host, after)

/-- The number after a colon, up to the path. The scheme's usual number is left out. -/
def portOf (family : Family) (text : List Char) :
    Except Fault (Option UInt16 × List Char) :=
  let written := text.takeWhile Char.isDigit
  let rest := text.drop written.length
  let number := Nat.ofDigitChars 10 written 0
  let ended := rest.head?.all fun c => c == '/' || c == '\\'
  if 65535 < number || !ended then .error .invalidPort
  else if written = [] || family == .special (UInt16.ofNat number) then .ok (none, rest)
  else .ok (some (UInt16.ofNat number), rest)

/-- The authority at the front of a text, and the path after it. `ended` says that nothing follows
the text. -/
def readAuthority (family : Family) (ended : Bool) (text : List Char) :
    Except Fault (Authority × List Char) := do
  let (userPart, afterUser) := cutUser family text
  if userPart = some [] ∧
      (afterUser.head?.any (isSeparator family) ∨ (afterUser = [] ∧ ended = false)) then
    throw .emptyHost
  let (user, password) := cut ':' (userPart.getD [])
  let user := Part.user.encode user
  let password := Part.user.encode (password.getD [])
  let (hostText, afterHost) := cutHost family false afterUser
  let host ← hostOf family hostText
  let (portNumber, rest) ←
    match afterHost with
    | ':' :: rest => if host.isNone then .error .emptyHost else portOf family rest
    | _ => pure (none, afterHost)
  if host.isNone ∧ (user ≠ [] ∨ password ≠ []) then throw .emptyHost
  pure ({ user, password, host, portNumber }, rest)

def dropSeparator (family : Family) (text : List Char) : List Char :=
  match text with
  | c :: rest => if isSeparator family c then rest else text
  | [] => []

/-- Host and path of a file. The slash before a path without a host counts as an empty segment, so
that no drive comes first there; a drive that does come first takes the place of the host. -/
def readFile (text : List Char) : Except Fault (Option Host × List (List Char)) :=
  match text with
  | first :: second :: after =>
    if isSeparator .file first && isSeparator .file second then do
      let hostText := after.takeWhile fun c => !isSeparator .file c
      let rest := after.drop hostText.length
      if isDrive hostText then pure (none, readPath .file after)
      else if hostText = [] then pure (none, readPath .file rest)
      else
        let host ← specialHost hostText
        if host = .name "localhost".toList then pure (none, readPath .file rest)
        else
          let path := readPath .file (dropSeparator .file rest)
          pure (if path.head?.any isDrive then none else some host, path)
    else pure (none, readPath .file (dropSeparator .file text))
  | _ => pure (none, readPath .file (dropSeparator .file text))

/-- Authority and path of a scheme's URL. Without an authority there must be a path that starts with
a slash. -/
def read (text : List Char) : Except Fault Url := do
  let (scheme, rest) ← (scheme? (clean text)).elim (.error .relative) .ok
  let family := familyOf scheme
  let (body, tail) := cutTail family rest
  let make := fun authority dotted path =>
    ({ scheme, authority, dotted, path, query := tail.query, fragment := tail.fragment } : Url)
  match family, body with
  | .file, _ =>
    let (host, path) ← readFile body
    pure (make (some { user := [], password := [], host, portNumber := none }) false
      (trimLeading path))
  | .special _, _ =>
    let (owner, path) ←
      readAuthority family tail.isEmpty (body.dropWhile (isSeparator family))
    pure (make (some owner) false (readPath family (dropSeparator family path)))
  | .plain, '/' :: '/' :: after =>
    let (owner, path) ← readAuthority family tail.isEmpty after
    pure (make (some owner) false
      (if path = [] then [] else readPath family (dropSeparator family path)))
  | .plain, '/' :: after =>
    let path := readPath family after
    pure (make none (path.length ≥ 2 && path.head? == some []) path)
  | .plain, _ => .error .pathless

end CohortDesk.Url
