/-!
# UTF-8

Bytes of a text and back. Reading splits the bytes into units: a character, or a longest start of
a character that the next byte breaks off. Strict reading refuses broken units, lossy reading
replaces each by U+FFFD, and marking reading by a text of the reader's choice.
-/
namespace CohortDesk.Text.Utf8

def encodeChar (c : Char) : List UInt8 := String.utf8EncodeChar c

def encode (text : List Char) : List UInt8 := text.flatMap encodeChar

def isTail (byte : UInt8) : Bool := 0x80 ≤ byte && byte ≤ 0xBF

/-- How many bytes a character has that starts with `lead`; zero when none does. -/
def width (lead : UInt8) : Nat :=
  if lead < 0x80 then 1
  else if 0xC2 ≤ lead ∧ lead ≤ 0xDF then 2
  else if 0xE0 ≤ lead ∧ lead ≤ 0xEF then 3
  else if 0xF0 ≤ lead ∧ lead ≤ 0xF4 then 4
  else 0

/-- Rules out overlong forms, surrogates and values past the last code point. -/
def secondFits (lead second : UInt8) : Bool :=
  if lead == 0xE0 then 0xA0 ≤ second && second ≤ 0xBF
  else if lead == 0xED then 0x80 ≤ second && second ≤ 0x9F
  else if lead == 0xF0 then 0x90 ≤ second && second ≤ 0xBF
  else if lead == 0xF4 then 0x80 ≤ second && second ≤ 0x8F
  else isTail second

def payload (lead : UInt8) : Nat :=
  match width lead with
  | 2 => lead.toNat - 0xC0
  | 3 => lead.toNat - 0xE0
  | 4 => lead.toNat - 0xF0
  | _ => lead.toNat

def append (value : Nat) (tail : UInt8) : Nat := value * 64 + (tail.toNat - 0x80)

/-- The unit that starts with `lead`: its character, if it is whole, and how many of the following
bytes belong to it. -/
def unit (lead : UInt8) (rest : List UInt8) : Option Char × Nat :=
  let start := payload lead
  match width lead, rest with
  | 1, _ => (some (Char.ofNat start), 0)
  | 2, second :: _ =>
    if secondFits lead second then (some (Char.ofNat (append start second)), 1) else (none, 0)
  | 3, second :: third :: _ =>
    if !secondFits lead second then (none, 0)
    else if isTail third then (some (Char.ofNat (append (append start second) third)), 2)
    else (none, 1)
  | 4, second :: third :: fourth :: _ =>
    if !secondFits lead second then (none, 0)
    else if !isTail third then (none, 1)
    else if isTail fourth then
      (some (Char.ofNat (append (append (append start second) third) fourth)), 3)
    else (none, 2)
  | 3, [second] => (none, if secondFits lead second then 1 else 0)
  | 4, [second] => (none, if secondFits lead second then 1 else 0)
  | 4, [second, third] =>
    (none, if secondFits lead second then (if isTail third then 2 else 1) else 0)
  | _, _ => (none, 0)

/-- All units; the first `skip` bytes belong to a unit read before. -/
def unitsFrom : Nat → List UInt8 → List (Option Char)
  | _, [] => []
  | skip + 1, _ :: rest => unitsFrom skip rest
  | 0, lead :: rest =>
    let (found, used) := unit lead rest
    found :: unitsFrom used rest

def units (bytes : List UInt8) : List (Option Char) := unitsFrom 0 bytes

def decode? (bytes : List UInt8) : Option (List Char) := (units bytes).mapM id

def decodeLossy (bytes : List UInt8) : List Char := (units bytes).map (·.getD '\uFFFD')

def decodeMarking (mark : List Char) (bytes : List UInt8) : List Char :=
  (units bytes).flatMap fun found => (found.map fun c => [c]).getD mark

end CohortDesk.Text.Utf8
