/-!
# Decimal numerals

Numbers as texts of ASCII digits: written without leading zeros or padded to a width, and read
with or without a sign within a bound.
-/
namespace CohortDesk.Text

def digits (value : Nat) : List Char := Nat.toDigits 10 value

def padded (width value : Nat) : List Char :=
  let written := digits value
  List.replicate (width - written.length) '0' ++ written

def signedDigits (value : Int) : List Char :=
  if value < 0 then '-' :: digits value.natAbs else digits value.natAbs

/-- One or more digits and nothing else. -/
def natural? (text : List Char) : Option Nat :=
  if text ≠ [] ∧ text.all Char.isDigit then some (Nat.ofDigitChars 10 text 0) else none

/-- An optional plus sign and digits, for a value below `bound`. -/
def unsigned? (bound : Nat) (text : List Char) : Option Nat :=
  let body := match text with
    | '+' :: rest => rest
    | _ => text
  (natural? body).filter (· < bound)

/-- Whether a number fits 64 bits with sign. -/
def fitsSigned (number : Int) : Bool :=
  -9223372036854775808 ≤ number && number ≤ 9223372036854775807

/-- An optional sign and digits, for a value that fits 64 bits with sign. -/
def signed? (text : List Char) : Option Int :=
  let value := match text with
    | '+' :: rest => (natural? rest).map Int.ofNat
    | '-' :: rest => (natural? rest).map fun size => -Int.ofNat size
    | _ => (natural? text).map Int.ofNat
  value.filter fitsSigned

/-- Up to `most` digits from the front, at least one, and the rest. -/
def leadingDigits? (most : Nat) (text : List Char) : Option (List Char × List Char) :=
  let found := (text.take most).takeWhile Char.isDigit
  if found = [] then none else some (found, text.drop found.length)

def leadingNumber? (most : Nat) (text : List Char) : Option (Nat × List Char) :=
  (leadingDigits? most text).map fun (found, rest) => (Nat.ofDigitChars 10 found 0, rest)

def hexDigit? (c : Char) : Option Nat :=
  if c.isDigit then some (c.toNat - '0'.toNat)
  else if 'a' ≤ c ∧ c ≤ 'f' then some (c.toNat - 'a'.toNat + 10)
  else if 'A' ≤ c ∧ c ≤ 'F' then some (c.toNat - 'A'.toNat + 10)
  else none

/-- The number that digits of a base spell; none at all spell zero. -/
def numeral? (base : Nat) (text : List Char) : Option Nat :=
  text.foldlM
    (fun value c => do
      let digit ← hexDigit? c
      if digit < base then some (value * base + digit) else none)
    0

theorem digits_ne_nil (value : Nat) : digits value ≠ [] := Nat.toDigits_ne_nil

theorem all_is_digit_digits (value : Nat) : (digits value).all Char.isDigit = true := by
  simp only [digits, List.all_eq_true]
  intro c member
  exact Nat.isDigit_of_mem_toDigits (by decide) (by decide) member

theorem natural?_digits (value : Nat) : natural? (digits value) = some value := by
  simp only [natural?, digits_ne_nil, all_is_digit_digits, ne_eq, not_false_eq_true, and_self,
    if_true]
  rw [digits, Nat.ofDigitChars_toDigits (by decide) (by decide)]

end CohortDesk.Text
