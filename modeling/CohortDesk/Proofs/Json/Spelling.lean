import CohortDesk.Json.Writer
import CohortDesk.Proofs.Text.Decimal
import Mathlib.Data.List.Chain

/-!
# Spellings of JSON

All the texts that JSON allows for a sequence of tokens: blanks around them, characters of a string
plain or escaped in either way, numbers with fraction and exponent. Each spelling is cut off from
what follows it: a string ends at its quote, a number where neither digit nor fraction nor exponent
follows. So a sequence is read from any text that spells it.
-/

namespace CohortDesk.Json

set_option autoImplicit false

open Text

section Strings

theorem string_body?_plain {c : Char} (quote : c ≠ '"') (slash : c ≠ '\\')
    (visible : ¬c.toNat < 0x20) (rest : List Char) :
    stringBody? (c :: rest) =
      (stringBody? rest).map fun (pieces, tail) => (.char c :: pieces, tail) := by
  rw [stringBody?.eq_def]
  simp only [quote, slash, visible, if_false]
  cases stringBody? rest <;> rfl

theorem string_body?_escape {e meant : Char} (escapes : escape? e = some meant) (other : e ≠ 'u')
    (rest : List Char) :
    stringBody? ('\\' :: e :: rest) =
      (stringBody? rest).map fun (pieces, tail) => (.char meant :: pieces, tail) := by
  rw [stringBody?]
  · simp only [if_true, escapes]
    cases stringBody? rest <;> rfl
  · intro h1 h2 h3 h4 after same
    exact absurd same other

theorem string_body?_unit {h1 h2 h3 h4 : Char} {code : Nat}
    (names : unitCode? h1 h2 h3 h4 = some code) (rest : List Char) :
    stringBody? ('\\' :: 'u' :: h1 :: h2 :: h3 :: h4 :: rest) =
      (stringBody? rest).map fun (pieces, tail) => (.unit code :: pieces, tail) := by
  rw [stringBody?]
  simp only [names]
  cases stringBody? rest <;> rfl

/-- The ways to write one piece of a string. -/
inductive Piece.Spelled : Piece → List Char → Prop
  | plain {c : Char} (quote : c ≠ '"') (slash : c ≠ '\\') (visible : ¬c.toNat < 0x20) :
      Spelled (.char c) [c]
  | escaped {e c : Char} (means : escape? e = some c) : Spelled (.char c) ['\\', e]
  | unit {h1 h2 h3 h4 : Char} {code : Nat} (names : unitCode? h1 h2 h3 h4 = some code) :
      Spelled (.unit code) ['\\', 'u', h1, h2, h3, h4]

/-- What stands between the quotes of a string. -/
inductive PiecesSpelled : List Piece → List Char → Prop
  | nil : PiecesSpelled [] []
  | cons {piece : Piece} {written : List Char} {pieces : List Piece} {text : List Char}
      (first : piece.Spelled written) (rest : PiecesSpelled pieces text) :
      PiecesSpelled (piece :: pieces) (written ++ text)

theorem ne_of_escape? {e c : Char} (means : escape? e = some c) : e ≠ 'u' := by
  rintro rfl
  cases means

theorem string_body?_spelled {pieces : List Piece} {text : List Char}
    (spelled : PiecesSpelled pieces text) (rest : List Char) :
    stringBody? (text ++ '"' :: rest) = some (pieces, rest) := by
  induction spelled with
  | nil =>
      rw [List.nil_append, stringBody?.eq_def]
      rfl
  | cons first others ih =>
      rw [List.append_assoc]
      cases first with
      | plain quote slash visible =>
          rw [List.singleton_append, string_body?_plain quote slash visible, ih, Option.map_some]
      | escaped means =>
          rw [List.cons_append, List.singleton_append,
            string_body?_escape means (ne_of_escape? means), ih, Option.map_some]
      | unit names =>
          simp only [List.cons_append, List.nil_append]
          rw [string_body?_unit names, ih, Option.map_some]

end Strings

section Numbers

/-- Characters with which a number would go on. -/
def continuesNumber (c : Char) : Bool := c.isDigit || c == '.' || c == 'e' || c == 'E'

/-- One digit or more. -/
structure IsDigits (text : List Char) : Prop where
  present : text ≠ []
  digits : text.all Char.isDigit = true

/-- A number before its fraction: zero, or digits that do not begin with a zero. -/
inductive WholeSpelled : List Char → Prop
  | zero : WholeSpelled ['0']
  | digits {text : List Char} (written : IsDigits text) (leading : text.head? ≠ some '0') :
      WholeSpelled text

/-- A fraction, which may be missing. -/
inductive FractionSpelled : Bool → List Char → Prop
  | absent : FractionSpelled false []
  | present {text : List Char} (written : IsDigits text) : FractionSpelled true ('.' :: text)

/-- An exponent, which may be missing. -/
inductive ExponentSpelled : Bool → List Char → Prop
  | absent : ExponentSpelled false []
  | present {mark : Char} {sign text : List Char} (marks : mark = 'e' ∨ mark = 'E')
      (signs : sign = [] ∨ sign = ['+'] ∨ sign = ['-']) (written : IsDigits text) :
      ExponentSpelled true (mark :: (sign ++ text))

/-- A number without its sign. Only one without fraction and exponent is whole. -/
inductive SizeSpelled : Option Nat → List Char → Prop
  | mk {found fraction exponent : List Char} {fractional scaled : Bool}
      (whole : WholeSpelled found) (parts : FractionSpelled fractional fraction)
      (scale : ExponentSpelled scaled exponent) :
      SizeSpelled (if fractional || scaled then none else some (Nat.ofDigitChars 10 found 0))
        (found ++ (fraction ++ exponent))

variable {rest text : List Char}

theorem stops_before_is_digit (stops : StopsBefore continuesNumber rest) :
    StopsBefore Char.isDigit rest := by
  intro c head
  have other := stops c head
  simp only [continuesNumber, Bool.or_eq_false_iff] at other
  exact other.1.1.1

theorem exponent?_absent (stops : StopsBefore continuesNumber rest) :
    exponent? rest = some (Bool.false, rest) := by
  cases rest with
  | nil => rfl
  | cons c tail =>
      have other : ¬(c = 'e' ∨ c = 'E') := by
        rintro (rfl | rfl)
        · exact absurd (stops 'e' rfl) (by decide)
        · exact absurd (stops 'E' rfl) (by decide)
      simp only [exponent?, if_neg other]

theorem leading_digits?_is_digits (written : IsDigits text)
    (stops : StopsBefore Char.isDigit rest) :
    leadingDigits? (text ++ rest).length (text ++ rest) = some (text, rest) := by
  refine leading_digits?_append written.present written.digits ?_ (.inr stops)
  rw [List.length_append]
  exact Nat.le_add_right _ _

theorem whole_digits?_spelled (spelled : WholeSpelled text)
    (stops : StopsBefore Char.isDigit rest) :
    wholeDigits? (text ++ rest) = some (text, rest) := by
  cases spelled with
  | zero => rfl
  | digits written leading =>
      have found := leading_digits?_is_digits written stops
      unfold wholeDigits?
      split
      · rename_i tail start
        obtain ⟨c, others, rfl, digit⟩ := head_is_digit written.present written.digits
        rw [List.cons_append] at start
        exact absurd (congrArg some (List.cons.inj start).1) leading
      · exact found

theorem exponent?_spelled {scaled : Bool} (spelled : ExponentSpelled scaled text)
    (stops : StopsBefore continuesNumber rest) :
    exponent? (text ++ rest) = some (scaled, rest) := by
  cases spelled with
  | absent => exact exponent?_absent stops
  | @present mark sign digits marks signs written =>
      have found := leading_digits?_is_digits written (stops_before_is_digit stops)
      rw [List.cons_append, List.append_assoc]
      rcases signs with rfl | rfl | rfl
      · -- The digits begin with neither of the two signs.
        obtain ⟨c, others, rfl, digit⟩ := head_is_digit written.present written.digits
        have plus : c ≠ '+' := by
          rintro rfl
          exact absurd digit (by decide)
        have minus : c ≠ '-' := by
          rintro rfl
          exact absurd digit (by decide)
        have unsigned : exponent? (mark :: (c :: others ++ rest)) =
            (leadingDigits? (c :: others ++ rest).length (c :: others ++ rest)).map
              fun read => (true, read.2) := by
          simp [exponent?, marks, plus, minus]
        rw [List.nil_append, unsigned, found, Option.map_some]
      · simp only [List.singleton_append, exponent?, if_pos marks, found, Option.map_some]
      · simp only [List.singleton_append, exponent?, if_pos marks, found, Option.map_some]

theorem ExponentSpelled.stops_before {scaled : Bool} (spelled : ExponentSpelled scaled text)
    {kind : Char → Bool} (marks : kind 'e' = false ∧ kind 'E' = false)
    (stops : StopsBefore kind rest) : StopsBefore kind (text ++ rest) := by
  cases spelled with
  | absent => exact stops
  | present mark signs written =>
      rcases mark with rfl | rfl
      · exact stops_before_cons marks.1 _
      · exact stops_before_cons marks.2 _

theorem FractionSpelled.stops_before {fractional : Bool}
    (spelled : FractionSpelled fractional text) (stops : StopsBefore Char.isDigit rest) :
    StopsBefore Char.isDigit (text ++ rest) := by
  cases spelled with
  | absent => exact stops
  | present written => exact stops_before_cons (by decide) _

theorem fraction?_spelled {fractional : Bool} (spelled : FractionSpelled fractional text)
    (digits : StopsBefore Char.isDigit rest) (point : StopsBefore (· == '.') rest) :
    fraction? (text ++ rest) = some (fractional, rest) := by
  cases spelled with
  | absent =>
      cases rest with
      | nil => rfl
      | cons c tail =>
          have other : c ≠ '.' := by
            rintro rfl
            exact absurd (point '.' rfl) (by decide)
          simp [fraction?, other]
  | present written =>
      rw [List.cons_append, fraction?, leading_digits?_is_digits written digits, Option.map_some]

theorem size?_spelled {size : Option Nat} (spelled : SizeSpelled size text)
    (stops : StopsBefore continuesNumber rest) : size? (text ++ rest) = some (size, rest) := by
  cases spelled with
  | mk whole parts scale =>
      have point : StopsBefore (· == '.') rest := by
        intro c head
        have other := stops c head
        simp only [continuesNumber, Bool.or_eq_false_iff] at other
        exact other.1.1.2
      have behindWhole := scale.stops_before (by decide) (stops_before_is_digit stops)
      have read := fraction?_spelled parts behindWhole (scale.stops_before (by decide) point)
      have behind := parts.stops_before behindWhole
      rw [List.append_assoc, List.append_assoc, size?, whole_digits?_spelled whole behind]
      simp only [Option.bind_eq_bind, Option.bind_some, read, exponent?_spelled scale stops,
        Option.pure_def]

theorem SizeSpelled.head {size : Option Nat} (spelled : SizeSpelled size text) :
    ∃ c others, text = c :: others ∧ c.isDigit = true := by
  cases spelled with
  | mk whole parts scale =>
      cases whole with
      | zero => exact ⟨'0', _, rfl, by decide⟩
      | digits written leading =>
          obtain ⟨c, others, rfl, digit⟩ := head_is_digit written.present written.digits
          exact ⟨c, _, rfl, digit⟩

end Numbers

namespace Token

def isNumber : Token → Bool
  | .number _ => Bool.true
  | _ => Bool.false

/-- Tokens after which a value begins or that end one. -/
def isMark : Token → Bool
  | .leftBrace | .rightBrace | .leftBracket | .rightBracket | .colon | .comma => Bool.true
  | _ => Bool.false

end Token

section Tokens

/-- The ways to write one token. -/
inductive Token.Spelled : Token → List Char → Prop
  | mark {token : Token} (marks : token.isMark = Bool.true) : Spelled token token.text
  | null : Spelled .null Token.null.text
  | true : Spelled .true Token.true.text
  | false : Spelled .false Token.false.text
  | number {size : Option Nat} {text : List Char} (spelled : SizeSpelled size text) :
      Spelled (.number (size.map Int.ofNat)) text
  | negative {size : Option Nat} {text : List Char} (spelled : SizeSpelled size text) :
      Spelled (.number (negated size)) ('-' :: text)
  | string {pieces : List Piece} {text : List Char} (spelled : PiecesSpelled pieces text) :
      Spelled (.string ((join pieces).map String.ofList)) ('"' :: (text ++ ['"']))

theorem token?_of_is_digit {c : Char} (digit : c.isDigit = true) (rest : List Char) :
    token? (c :: rest) =
      (size? (c :: rest)).map fun (size, tail) => (.number (size.map Int.ofNat), tail) := by
  unfold token?
  split <;> rename_i same <;> first
    | rfl
    | (obtain ⟨rfl, _⟩ := List.cons.inj same
       exact absurd digit (by decide))

theorem is_space_of_is_digit {c : Char} (digit : c.isDigit = Bool.true) :
    isSpace c = Bool.false := by
  by_contra space
  simp only [isSpace, Bool.not_eq_false, Bool.or_eq_true, beq_iff_eq] at space
  rcases space with ((rfl | rfl) | rfl) | rfl <;> exact absurd digit (by decide)

variable {token : Token} {tokens : List Token} {text rest : List Char}

theorem token?_spelled (spelled : token.Spelled text)
    (stops : token.isNumber = Bool.true → StopsBefore continuesNumber rest) :
    token? (text ++ rest) = some (token, rest) := by
  cases spelled with
  | mark marks => cases token <;> first | rfl | cases marks
  | null => rfl
  | true => rfl
  | false => rfl
  | number spelled =>
      have read := size?_spelled spelled (stops rfl)
      obtain ⟨c, others, rfl, digit⟩ := spelled.head
      rw [List.cons_append] at read ⊢
      rw [token?_of_is_digit digit, read, Option.map_some]
  | negative spelled =>
      simp only [List.cons_append, token?, size?_spelled spelled (stops rfl), Option.map_some]
  | string spelled =>
      have read := string_body?_spelled spelled rest
      simp only [List.cons_append, List.append_assoc, List.nil_append, token?, read,
        Option.map_some]

/-- No token starts with a blank, and no mark with a character that a number goes on with. -/
theorem Token.Spelled.head (spelled : token.Spelled text) :
    ∃ c others, text = c :: others ∧ isSpace c = Bool.false ∧
      (token.isMark = Bool.true → continuesNumber c = Bool.false) := by
  cases spelled with
  | mark marks =>
      cases token <;> first | exact ⟨_, _, rfl, by decide, by decide⟩ | cases marks
  | null => exact ⟨'n', _, rfl, by decide, nofun⟩
  | true => exact ⟨'t', _, rfl, by decide, nofun⟩
  | false => exact ⟨'f', _, rfl, by decide, nofun⟩
  | number spelled =>
      obtain ⟨c, others, starts, digit⟩ := spelled.head
      exact ⟨c, others, starts, is_space_of_is_digit digit, nofun⟩
  | negative spelled => exact ⟨'-', _, rfl, by decide, nofun⟩
  | string spelled => exact ⟨'"', _, rfl, by decide, nofun⟩

/-- A number stands before punctuation only. -/
def Token.MayPrecede (first next : Token) : Prop :=
  first.isNumber = Bool.true → next.isMark = Bool.true

/-- The ways to write a sequence of tokens: each after any number of blanks, and blanks at the
end. -/
inductive Spells : List Token → List Char → Prop
  | nil {blank : List Char} (spaces : blank.all isSpace = Bool.true) : Spells [] blank
  | cons {blank written rest : List Char} {token : Token} {tokens : List Token}
      (spaces : blank.all isSpace = Bool.true) (first : token.Spelled written)
      (later : Spells tokens rest) : Spells (token :: tokens) (blank ++ (written ++ rest))

/-- A token may follow the one before it at once. -/
theorem Spells.next {written : List Char} (first : token.Spelled written)
    (later : Spells tokens rest) : Spells (token :: tokens) (written ++ rest) := by
  have none : ([] : List Char).all isSpace = Bool.true := rfl
  exact .cons none first later

theorem continues_number_of_is_space {c : Char} (space : isSpace c = Bool.true) :
    continuesNumber c = Bool.false := by
  simp only [isSpace, Bool.or_eq_true, beq_iff_eq] at space
  rcases space with ((rfl | rfl) | rfl) | rfl <;> decide

/-- A blank or a mark ends the number before it. -/
theorem Spells.stops_before (spells : Spells tokens text)
    (marks : ∀ next ∈ tokens.head?, next.isMark = Bool.true) :
    StopsBefore continuesNumber text := by
  have blankFirst {c : Char} {blank : List Char}
      (spaces : (c :: blank).all isSpace = Bool.true) : continuesNumber c = Bool.false := by
    rw [List.all_cons, Bool.and_eq_true] at spaces
    exact continues_number_of_is_space spaces.1
  cases spells with
  | nil spaces =>
      cases text with
      | nil => exact stops_before_nil _
      | cons c blank => exact stops_before_cons (blankFirst spaces) _
  | @cons blank written rest token tokens spaces first later =>
      cases blank with
      | nil =>
          obtain ⟨c, others, rfl, _, ends⟩ := first.head
          exact stops_before_cons (ends (marks token rfl)) _
      | cons c blank => exact stops_before_cons (blankFirst spaces) _

theorem Spells.length_le (spells : Spells tokens text) : tokens.length ≤ text.length := by
  induction spells with
  | nil => exact Nat.zero_le _
  | cons spaces first later ih =>
      obtain ⟨c, others, rfl, _, _⟩ := first.head
      simp only [List.length_cons, List.length_append]
      omega

theorem tokens_within_spelled (spells : Spells tokens text)
    (apart : tokens.IsChain Token.MayPrecede) {bound : Nat} (enough : tokens.length ≤ bound) :
    tokensWithin bound text = some tokens := by
  induction spells generalizing bound with
  | @nil blank spaces =>
      have gone : (blank ++ []).dropWhile isSpace = [] :=
        List.dropWhile_append_of_pos (List.all_eq_true.1 spaces)
      rw [List.append_nil] at gone
      cases bound <;> simp [tokensWithin, gone]
  | cons spaces first later ih =>
      obtain ⟨follow, othersApart⟩ := List.isChain_cons.1 apart
      cases bound with
      | zero => exact absurd enough (Nat.not_succ_le_zero _)
      | succ bound =>
          have read := token?_spelled first fun number =>
            later.stops_before fun next head => follow next head number
          have others := ih othersApart (Nat.le_of_succ_le_succ enough)
          obtain ⟨c, tail, rfl, visible, _⟩ := first.head
          rw [List.cons_append] at read ⊢
          rw [tokensWithin, List.dropWhile_append_of_pos (List.all_eq_true.1 spaces),
            List.dropWhile_cons_of_neg (by simp [visible])]
          simp only [read, others, Option.bind_eq_bind, Option.bind_some, Option.pure_def]

/-- A spelled sequence of tokens is read if every number in it stands before punctuation or at the
end. -/
theorem tokens?_spelled (spells : Spells tokens text)
    (apart : tokens.IsChain Token.MayPrecede) : tokens? text = some tokens :=
  tokens_within_spelled spells apart spells.length_le

end Tokens

end CohortDesk.Json
