/-!
# Punycode

Labels past ASCII written with ASCII characters, as RFC 3492 lays down: the ASCII characters first,
then where each other character goes, as numbers of varying length in base 36.
-/
namespace CohortDesk.Url.Punycode

def firstBias : Nat := 72
def firstPoint : Nat := 0x80

def digitChar (value : Nat) : Char :=
  if value < 26 then Char.ofNat ('a'.toNat + value) else Char.ofNat ('0'.toNat + value - 26)

def digit? (c : Char) : Option Nat :=
  if 'a' ≤ c ∧ c ≤ 'z' then some (c.toNat - 'a'.toNat)
  else if '0' ≤ c ∧ c ≤ '9' then some (c.toNat - '0'.toNat + 26)
  else none

/-- A digit below the threshold is a number's last. -/
def threshold (bias place : Nat) : Nat := min 26 (max 1 (place - bias))

theorem threshold_bounds (bias place : Nat) :
    1 ≤ threshold bias place ∧ threshold bias place ≤ 26 := by
  unfold threshold
  omega

def settle (delta place : Nat) : Nat :=
  if 455 < delta then settle (delta / 35) (place + 36) else place + 36 * delta / (delta + 38)
termination_by delta
decreasing_by exact Nat.div_lt_self (by omega) (by omega)

/-- The bias for the next number, after one that was `delta` with `count` characters placed. -/
def adapt (delta count : Nat) (first : Bool) : Nat :=
  let damped := if first then delta / 700 else delta / 2
  settle (damped + damped / count) 0

def numberFrom (bias place value : Nat) : List Char :=
  let bound := threshold bias place
  if value < bound then [digitChar value]
  else
    digitChar (bound + (value - bound) % (36 - bound)) ::
      numberFrom bias (place + 36) ((value - bound) / (36 - bound))
termination_by value
decreasing_by
  have bounds := threshold_bounds bias place
  have smaller := Nat.div_le_self (value - threshold bias place) (36 - threshold bias place)
  omega

/-- What encoding has written, and from where it counts. -/
structure Progress where
  written : List Char
  delta : Nat
  bias : Nat
  placed : Nat

/-- Passes one character while those at `point` are being placed. -/
def Progress.pass (basics point : Nat) (progress : Progress) (c : Char) : Progress :=
  if c.toNat < point then { progress with delta := progress.delta + 1 }
  else if c.toNat = point then
    { written := progress.written ++ numberFrom progress.bias 36 progress.delta
      delta := 0
      bias := adapt progress.delta (progress.placed + 1) (progress.placed == basics)
      placed := progress.placed + 1 }
  else progress

/-- Places the characters at each of the points, which ascend. -/
def placeAll (label : List Char) (basics : Nat) : Nat → List Nat → Progress → Progress
  | _, [], progress => progress
  | next, point :: points, progress =>
    let skipped := progress.delta + (point - next) * (progress.placed + 1)
    let passed := label.foldl (Progress.pass basics point) { progress with delta := skipped }
    placeAll label basics (point + 1) points { passed with delta := passed.delta + 1 }

def encode (label : List Char) : List Char :=
  let basic := label.filter (·.toNat < firstPoint)
  let others := (label.map Char.toNat).filter (firstPoint ≤ ·)
  let points := (others.mergeSort (· ≤ ·)).eraseReps
  let start : Progress :=
    { written := [], delta := 0, bias := firstBias, placed := basic.length }
  basic ++ (if basic = [] then [] else ['-']) ++
    (placeAll label basic.length firstPoint points start).written

/-- Adds the number at the front to `value`. Numbers and the weights of their digits have at most
32 bits. -/
def number? (bias : Nat) : Nat → Nat → Nat → List Char → Option (Nat × List Char)
  | _, _, _, [] => none
  | place, weight, value, c :: rest => do
    let digit ← digit? c
    let bound := threshold bias place
    let sum := value + digit * weight
    let next := weight * (36 - bound)
    if UInt32.size ≤ sum then none
    else if digit < bound then some (sum, rest)
    else if UInt32.size ≤ next then none
    else number? bias (place + 36) next sum rest

theorem length_number? {bias place weight value : Nat} {text rest : List Char} {result : Nat}
    (found : number? bias place weight value text = some (result, rest)) :
    rest.length < text.length := by
  induction text generalizing place weight value with
  | nil => simp [number?] at found
  | cons c tail ih =>
    simp only [number?, Option.bind_eq_bind, Option.bind_eq_some_iff] at found
    obtain ⟨digit, _, found⟩ := found
    split at found
    · cases found
    · split at found
      · cases found
        simp
      · split at found
        · cases found
        · have shorter := ih found
          simp only [List.length_cons]
          omega

/-- Puts each further character at its place. -/
def insertAll (bias point value : Nat) (label : List Char) (text : List Char) :
    Option (List Char) :=
  match text with
  | [] => some label
  | c :: tail =>
    match found : number? bias 36 1 value (c :: tail) with
    | none => none
    | some (sum, rest) =>
      let count := label.length + 1
      let next := point + sum / count
      let place := sum % count
      if next.isValidChar then
        insertAll (adapt (sum - value) count (value == 0)) next (place + 1)
          (label.insertIdx place (Char.ofNat next)) rest
      else none
termination_by text.length
decreasing_by exact length_number? found

/-- The label that an encoded label stands for. A hyphen at the front separates nothing, and is no
digit. -/
def decode? (text : List Char) : Option (List Char) :=
  let tail := (text.reverse.takeWhile (· ≠ '-')).reverse
  let basic := text.take (text.length - tail.length - 1)
  insertAll firstBias firstPoint 0 basic (if basic = [] then text else tail)

end CohortDesk.Url.Punycode
