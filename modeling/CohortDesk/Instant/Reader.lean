import CohortDesk.Instant.Basic
import CohortDesk.Text.Blank
import CohortDesk.Text.Decimal
/-!
# Reading instants

Date, a separator, time of day and an offset from UTC. Numbers need not be padded, blanks may stand
before a number, before `-` and `:` and around the offset; seconds and offset are required.
-/
namespace CohortDesk

open Text

namespace Instant

def expect? (wanted : Char) : List Char → Option (List Char)
  | c :: rest => if c = wanted then some rest else none
  | [] => none

/-- A number after blanks. -/
def number? (most : Nat) (text : List Char) : Option (Nat × List Char) :=
  leadingNumber? most (trimStart text)

/-- A mark after blanks, then a number. -/
def markedNumber? (mark : Char) (most : Nat) (text : List Char) : Option (Nat × List Char) := do
  let rest ← expect? mark (trimStart text)
  number? most rest

/-- Four digits at most without a sign, any number of digits after one. -/
def year? (text : List Char) : Option (Int × List Char) :=
  match trimStart text with
  | '-' :: rest =>
    (leadingNumber? rest.length rest).map fun (size, after) => (-Int.ofNat size, after)
  | '+' :: rest =>
    (leadingNumber? rest.length rest).map fun (size, after) => (Int.ofNat size, after)
  | rest => (leadingNumber? 4 rest).map fun (size, after) => (Int.ofNat size, after)

def date? (text : List Char) : Option (Date × List Char) := do
  let (year, rest) ← year? text
  let (month, rest) ← markedNumber? '-' 2 rest
  let (day, rest) ← markedNumber? '-' 2 rest
  let date ← Date.of? year month day
  pure (date, rest)

def separator? : List Char → Option (List Char)
  | c :: rest => if c = 'T' ∨ c = 't' ∨ c = ' ' then some rest else none
  | [] => none

/-- Digits past the ninth are dropped. -/
def fraction? : List Char → Option (Nat × List Char)
  | '.' :: rest => do
    let (found, after) ← leadingDigits? 9 rest
    let nanos := Nat.ofDigitChars 10 found 0 * Nat.pow 10 (9 - found.length)
    pure (nanos, after.dropWhile Char.isDigit)
  | rest => some (0, rest)

def time? (text : List Char) : Option (TimeOfDay × List Char) := do
  let (hour, rest) ← number? 2 text
  let (minute, rest) ← markedNumber? ':' 2 rest
  let (second, rest) ← markedNumber? ':' 2 rest
  let (nanos, rest) ← fraction? rest
  let time ← TimeOfDay.of? hour minute second nanos
  pure (time, rest)

def twoDigits? : List Char → Option (Nat × List Char)
  | tens :: ones :: rest =>
    if tens.isDigit ∧ ones.isDigit then some (Nat.ofDigitChars 10 [tens, ones] 0, rest) else none
  | _ => none

/-- Hours and minutes after the sign; colons and blanks may part them. -/
def offsetSize? (text : List Char) : Option (Nat × List Char) := do
  let (hours, rest) ← twoDigits? text
  let (minutes, rest) ← twoDigits? (rest.dropWhile fun c => c == ':' || isBlank c)
  if hours < 24 ∧ minutes < 60 then pure (hours * 60 + minutes, rest) else none

/-- `Z`, `UTC` or a signed size in hours and minutes, all in either case. -/
def offset? (text : List Char) : Option (Int × List Char) :=
  if (text.take 3).map Char.toUpper = ['U', 'T', 'C'] then some (0, text.drop 3)
  else
    match text with
    | [] => none
    | c :: rest =>
      if c = 'Z' ∨ c = 'z' then some (0, rest)
      else if c = '+' then (offsetSize? rest).map fun (size, after) => (Int.ofNat size, after)
      else if c = '-' ∨ c = '\u2212' then
        (offsetSize? rest).map fun (size, after) => (-Int.ofNat size, after)
      else none

def read? (text : List Char) : Option Instant := do
  let (date, rest) ← date? text
  let rest ← separator? rest
  let (time, rest) ← time? rest
  let (offset, rest) ← offset? (trimStart rest)
  if trimStart rest = [] then ofLocal? date time offset else none

end Instant

end CohortDesk
