/-!
# Base64

Bytes as characters of the standard alphabet, three bytes as four characters, the last group filled
up with equals signs.
-/
namespace CohortDesk.Text.Base64

def sextet (value : Nat) : Char :=
  if value < 26 then Char.ofNat ('A'.toNat + value)
  else if value < 52 then Char.ofNat ('a'.toNat + (value - 26))
  else if value < 62 then Char.ofNat ('0'.toNat + (value - 52))
  else if value = 62 then '+'
  else '/'

def group (value : Nat) : List Char :=
  [sextet (value / 262144 % 64), sextet (value / 4096 % 64), sextet (value / 64 % 64),
    sextet (value % 64)]

def encode : List UInt8 → List Char
  | [] => []
  | [first] => (group (first.toNat * 65536)).take 2 ++ ['=', '=']
  | [first, second] => (group (first.toNat * 65536 + second.toNat * 256)).take 3 ++ ['=']
  | first :: second :: third :: rest =>
    group (first.toNat * 65536 + second.toNat * 256 + third.toNat) ++ encode rest

end CohortDesk.Text.Base64
