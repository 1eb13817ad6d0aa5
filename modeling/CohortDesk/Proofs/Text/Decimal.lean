import CohortDesk.Text.Blank
import CohortDesk.Text.Decimal
import Mathlib.Algebra.Group.Nat.Defs

/-!
# Reading written numerals

Digits at the front of a text are found when the text does not go on with another digit, or when no
more digits are wanted. Padding does not change the number that digits spell.
-/

namespace CohortDesk.Text

set_option autoImplicit false

/-- The text does not go on with a character of this kind. -/
def StopsBefore (kind : Char → Bool) (text : List Char) : Prop :=
  ∀ c ∈ text.head?, kind c = false

theorem stops_before_nil (kind : Char → Bool) : StopsBefore kind [] :=
  fun _ member => nomatch member

theorem stops_before_cons {kind : Char → Bool} {c : Char} (other : kind c = false)
    (rest : List Char) : StopsBefore kind (c :: rest) := by
  intro head same
  cases same
  exact other

theorem takeWhile_append {kind : Char → Bool} {found rest : List Char}
    (all : found.all kind = true) (stops : StopsBefore kind rest) :
    (found ++ rest).takeWhile kind = found := by
  rw [List.takeWhile_append_of_pos (List.all_eq_true.1 all)]
  cases rest with
  | nil => simp
  | cons c tail => simp [stops c rfl]

theorem dropWhile_append {kind : Char → Bool} {found rest : List Char}
    (all : found.all kind = true) (stops : StopsBefore kind rest) :
    (found ++ rest).dropWhile kind = rest := by
  rw [List.dropWhile_append_of_pos (List.all_eq_true.1 all)]
  cases rest with
  | nil => rfl
  | cons c tail => rw [List.dropWhile_cons_of_neg (by simp [stops c rfl])]

theorem leading_digits?_append {most : Nat} {found rest : List Char} (present : found ≠ [])
    (all : found.all Char.isDigit = true) (fits : found.length ≤ most)
    (stops : found.length = most ∨ StopsBefore Char.isDigit rest) :
    leadingDigits? most (found ++ rest) = some (found, rest) := by
  have taken : ((found ++ rest).take most).takeWhile Char.isDigit = found := by
    rw [List.take_append, List.take_of_length_le fits]
    apply takeWhile_append all
    rcases stops with exactly | stops
    · rw [exactly, Nat.sub_self, List.take_zero]
      exact stops_before_nil _
    · cases rest with
      | nil => simpa using stops
      | cons c tail =>
          cases most - found.length with
          | zero => exact stops_before_nil _
          | succ more => exact stops_before_cons (stops c rfl) _
  simp only [leadingDigits?, taken, present, if_false, List.drop_left]

theorem head_is_digit {text : List Char} (present : text ≠ [])
    (all : text.all Char.isDigit = true) :
    ∃ c rest, text = c :: rest ∧ c.isDigit = true := by
  cases text with
  | nil => exact absurd rfl present
  | cons c rest =>
      rw [List.all_cons, Bool.and_eq_true] at all
      exact ⟨c, rest, rfl, all.1⟩

theorem padded_ne_nil (width value : Nat) : padded width value ≠ [] := by
  simp [padded, digits_ne_nil]

theorem all_is_digit_padded (width value : Nat) : (padded width value).all Char.isDigit = true := by
  rw [padded, List.all_append, all_is_digit_digits, Bool.and_true]
  simp

theorem ofDigitChars_padded (width value : Nat) :
    Nat.ofDigitChars 10 (padded width value) 0 = value := by
  rw [padded, Nat.ofDigitChars_append, Nat.ofDigitChars_replicate_zero, Nat.mul_zero, digits,
    Nat.ofDigitChars_ten_toDigits]

theorem length_padded {width value : Nat} (positive : 0 < width) (small : value < 10 ^ width) :
    (padded width value).length = width := by
  have short : (digits value).length ≤ width :=
    (Nat.length_toDigits_le_iff (by decide) positive).2 small
  rw [padded, List.length_append, List.length_replicate]
  omega

theorem leading_number?_padded {most width value : Nat} {rest : List Char}
    (fits : (padded width value).length ≤ most)
    (stops : (padded width value).length = most ∨ StopsBefore Char.isDigit rest) :
    leadingNumber? most (padded width value ++ rest) = some (value, rest) := by
  simp only [leadingNumber?, leading_digits?_append (padded_ne_nil width value)
    (all_is_digit_padded width value) fits stops, Option.map_some, ofDigitChars_padded]

/-- Only zero is written with a leading zero. -/
theorem head_digits {value : Nat} (positive : 0 < value) (rest : List Char) :
    digits value ≠ '0' :: rest := by
  induction value using Nat.strongRecOn generalizing rest with
  | ind value ih =>
      rw [digits, Nat.toDigits_eq_if (by decide)]
      split
      · rename_i small
        intro same
        have spelled := congrArg (Nat.ofDigitChars 10 · 0) same
        simp only [Nat.ofDigitChars_cons_digitChar_of_lt_ten small, Nat.ofDigitChars_nil] at spelled
        have alone : rest = [] := (List.cons.inj same).2.symm
        rw [alone] at spelled
        simp [Nat.ofDigitChars_cons] at spelled
        omega
      · rename_i large
        intro same
        cases start : Nat.toDigits 10 (value / 10) with
        | nil => exact Nat.toDigits_ne_nil start
        | cons c tail =>
            rw [start, List.cons_append] at same
            have zero : c = '0' := (List.cons.inj same).1
            rw [zero] at start
            exact ih (value / 10) (by omega) (by omega) tail start

theorem is_digit_bounds {c : Char} (digit : c.isDigit = true) : 48 ≤ c.toNat ∧ c.toNat ≤ 57 := by
  simp only [Char.isDigit, Bool.and_eq_true, decide_eq_true_eq] at digit
  exact digit

theorem is_blank_of_is_digit {c : Char} (digit : c.isDigit = true) : isBlank c = false := by
  have bounds := is_digit_bounds digit
  simp only [isBlank, Bool.or_eq_false_iff, Bool.and_eq_false_iff, decide_eq_false_iff_not,
    beq_eq_false_iff_ne]
  omega

/-- Blanks are not dropped from a text that starts with something else. -/
theorem trim_start_of_stops_before {text : List Char} (stops : StopsBefore isBlank text) :
    trimStart text = text := by
  cases text with
  | nil => rfl
  | cons c rest => rw [trimStart, List.dropWhile_cons_of_neg (by simp [stops c rfl])]

theorem padded_stops_before_blank (width value : Nat) (rest : List Char) :
    StopsBefore isBlank (padded width value ++ rest) := by
  obtain ⟨c, tail, written, digit⟩ :=
    head_is_digit (padded_ne_nil width value) (all_is_digit_padded width value)
  rw [written]
  exact stops_before_cons (is_blank_of_is_digit digit) _

/-- The text is an optional plus sign and digits that spell the number, which is below the bound. -/
structure SpellsBelow (bound : Nat) (text : List Char) (value : Nat) : Prop where
  spelled : ∃ sign digits, text = sign ++ digits ∧ (sign = [] ∨ sign = ['+']) ∧ digits ≠ [] ∧
    digits.all Char.isDigit = true ∧ Nat.ofDigitChars 10 digits 0 = value
  small : value < bound

theorem natural?_eq_some_iff {text : List Char} {value : Nat} :
    natural? text = some value ↔
      text ≠ [] ∧ text.all Char.isDigit = true ∧ Nat.ofDigitChars 10 text 0 = value := by
  rw [natural?, Option.ite_none_right_eq_some, Option.some.injEq, and_assoc]

theorem unsigned?_signed (bound : Nat) (digits : List Char) :
    unsigned? bound ('+' :: digits) = (natural? digits).filter (· < bound) := rfl

theorem unsigned?_bare (bound : Nat) {text : List Char} (bare : text.head? ≠ some '+') :
    unsigned? bound text = (natural? text).filter (· < bound) := by
  unfold unsigned?
  split
  · exact absurd rfl bare
  · rfl

theorem unsigned?_eq_some_iff {bound value : Nat} {text : List Char} :
    unsigned? bound text = some value ↔ SpellsBelow bound text value := by
  constructor
  · intro read
    by_cases signed : text.head? = some '+'
    · obtain ⟨digits, rfl⟩ := List.head?_eq_some_iff.1 signed
      rw [unsigned?_signed, Option.filter_eq_some_iff, decide_eq_true_eq] at read
      exact ⟨⟨['+'], digits, rfl, .inr rfl, natural?_eq_some_iff.1 read.1⟩, read.2⟩
    · rw [unsigned?_bare bound signed, Option.filter_eq_some_iff, decide_eq_true_eq] at read
      exact ⟨⟨[], text, rfl, .inl rfl, natural?_eq_some_iff.1 read.1⟩, read.2⟩
  · rintro ⟨⟨sign, digits, rfl, rfl | rfl, spelled⟩, small⟩
    · obtain ⟨c, rest, rfl, digit⟩ := head_is_digit spelled.1 spelled.2.1
      have bare : (c :: rest).head? ≠ some '+' := by
        rintro ⟨⟩
        cases digit
      rw [List.nil_append, unsigned?_bare bound bare, Option.filter_eq_some_iff]
      exact ⟨natural?_eq_some_iff.2 spelled, decide_eq_true small⟩
    · rw [List.singleton_append, unsigned?_signed, Option.filter_eq_some_iff]
      exact ⟨natural?_eq_some_iff.2 spelled, decide_eq_true small⟩

end CohortDesk.Text
