import CohortDesk.Text.Decimal
/-!
# Internet addresses

Addresses of version 4 and 6 as they stand in URLs. An address of version 4 may have fewer than
four numbers, of which the last fills the bytes left over; numbers may be octal or hexadecimal. An
address of version 6 is printed with its first longest run of zeros left out.
-/
namespace CohortDesk.Url

open Text

/-- One number of an address. Nothing after the mark of the base counts as zero. -/
def ipv4Number? : List Char → Option Nat
  | [] => none
  | '0' :: 'x' :: rest => numeral? 16 rest
  | '0' :: 'X' :: rest => numeral? 16 rest
  | '0' :: c :: rest => numeral? 8 (c :: rest)
  | text => numeral? 10 text

/-- The labels of a name, without an empty one at the end. -/
def labels (text : List Char) : List (List Char) :=
  let all := text.splitOn '.'
  if all.getLast? = some [] then all.dropLast else all

/-- A name whose last label reads as a number can only be an address. -/
def endsInNumber (text : List Char) : Bool :=
  match (labels text).getLast? with
  | some last => (last ≠ [] && last.all Char.isDigit) || (ipv4Number? last).isSome
  | none => false

def ipv4? (text : List Char) : Option UInt32 := do
  let numbers ← (labels text).mapM ipv4Number?
  let leading := numbers.dropLast
  let last ← numbers.getLast?
  if leading.length ≤ 3 ∧ leading.all (· ≤ 255) ∧ last < Nat.pow 256 (4 - leading.length) then
    let high := (leading.foldl (fun value number => value * 256 + number) 0)
    some (UInt32.ofNat (high * Nat.pow 256 (4 - leading.length) + last))
  else none

def ipv4Text (address : UInt32) : List Char :=
  let byte := fun place => digits (address.toNat / Nat.pow 256 place % 256)
  ['.'].intercalate [byte 3, byte 2, byte 1, byte 0]

/-- A decimal byte without leading zeros. -/
def byte? (text : List Char) : Option Nat :=
  if text.length > 1 ∧ text.head? = some '0' then none else (natural? text).filter (· ≤ 255)

/-- The last two pieces may be written as an address of version 4 with all four numbers. -/
def dottedPieces? (text : List Char) : Option (List UInt16) := do
  match ← (text.splitOn '.').mapM byte? with
  | [first, second, third, fourth] =>
    some [UInt16.ofNat (first * 256 + second), UInt16.ofNat (third * 256 + fourth)]
  | _ => none

def piece? (text : List Char) : Option UInt16 :=
  if 1 ≤ text.length ∧ text.length ≤ 4 then (numeral? 16 text).map UInt16.ofNat else none

/-- Pieces with colons between them, or nothing at all. -/
def pieces? (text : List Char) : Option (List UInt16) :=
  if text = [] then some [] else (text.splitOn ':').mapM piece?

/-- As `pieces?`, for the end of an address. -/
def lastPieces? (text : List Char) : Option (List UInt16) :=
  let groups := text.splitOn ':'
  match groups.getLast? with
  | some last =>
    if last.contains '.' then do
      let leading ← groups.dropLast.mapM piece?
      let tail ← dottedPieces? last
      some (leading ++ tail)
    else pieces? text
  | none => none

/-- The texts before and after the first double colon. -/
def splitGap? : List Char → Option (List Char × List Char)
  | ':' :: ':' :: rest => some ([], rest)
  | c :: rest => (splitGap? rest).map fun (before, after) => (c :: before, after)
  | [] => none

/-- A double colon stands for at least one piece. -/
def ipv6? (text : List Char) : Option (List UInt16) :=
  match splitGap? text with
  | none => (lastPieces? text).filter (·.length = 8)
  | some (before, after) => do
    let left ← pieces? before
    let right ← lastPieces? after
    if left.length + right.length ≤ 7 then
      some (left ++ List.replicate (8 - left.length - right.length) 0 ++ right)
    else none

def zerosAt (pieces : List UInt16) (start : Nat) : Nat :=
  ((pieces.drop start).takeWhile (· == 0)).length

/-- Where the first longest run of zeros starts. -/
def longestZeros (pieces : List UInt16) : Nat :=
  (List.range pieces.length).foldl
    (fun best start => if zerosAt pieces best < zerosAt pieces start then start else best) 0

def pieceText (piece : UInt16) : List Char := Nat.toDigits 16 piece.toNat

def joinPieces (pieces : List UInt16) : List Char := [':'].intercalate (pieces.map pieceText)

/-- A lone zero is written. -/
def ipv6Text (pieces : List UInt16) : List Char :=
  let start := longestZeros pieces
  let count := zerosAt pieces start
  if count < 2 then joinPieces pieces
  else joinPieces (pieces.take start) ++ [':', ':'] ++ joinPieces (pieces.drop (start + count))

end CohortDesk.Url
