import CohortDesk.Text.Decimal
import CohortDesk.Text.Utf8
/-!
# Percent encoding

A byte is written as itself or as a percent sign and two upper-case hexadecimal digits. Which
characters stand for themselves is the caller's choice; characters past ASCII never do.
-/
namespace CohortDesk.Text.Percent

def hexUpper (value : Nat) : Char :=
  if value < 10 then Char.ofNat ('0'.toNat + value) else Char.ofNat ('A'.toNat + value - 10)

def escape (byte : UInt8) : List Char :=
  ['%', hexUpper (byte.toNat / 16), hexUpper (byte.toNat % 16)]

def isAscii (c : Char) : Bool := c.toNat < 0x80

def encodeChar (escaped : Char → Bool) (c : Char) : List Char :=
  if isAscii c && !escaped c then [c] else (Utf8.encodeChar c).flatMap escape

def encode (escaped : Char → Bool) (text : List Char) : List Char :=
  text.flatMap (encodeChar escaped)

/-- The byte that two hexadecimal digits at the front stand for. -/
def escaped? : List Char → Option UInt8
  | high :: low :: _ => do
    let upper ← hexDigit? high
    let lower ← hexDigit? low
    pure (UInt8.ofNat (upper * 16 + lower))
  | _ => none

/-- The first `skip` characters belong to an escape read before. A percent sign that two
hexadecimal digits do not follow stands for itself. -/
def decodeFrom : Nat → List Char → List UInt8
  | _, [] => []
  | skip + 1, _ :: rest => decodeFrom skip rest
  | 0, c :: rest =>
    match if c = '%' then escaped? rest else none with
    | some byte => byte :: decodeFrom 2 rest
    | none => Utf8.encodeChar c ++ decodeFrom 0 rest

def decode (text : List Char) : List UInt8 := decodeFrom 0 text

def decodeText? (text : List Char) : Option (List Char) := Utf8.decode? (decode text)

end CohortDesk.Text.Percent
