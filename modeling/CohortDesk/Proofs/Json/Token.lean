import CohortDesk.Proofs.Json.Spelling

/-!
# Written tokens

What is written for a token is one of its spellings if the token, where it is a number or a string,
has a value. So a written sequence of tokens is one of the texts that spell it.
-/

namespace CohortDesk.Json

set_option autoImplicit false

open Text

section Strings

theorem hex_digit?_hex_lower {value : Nat} (small : value < 16) :
    hexDigit? (hexLower value) = some value := by
  have all : ∀ digit < 16, hexDigit? (hexLower digit) = some digit := by decide
  exact all value small

theorem unit_code?_hex_lower {code : Nat} (small : code < 0x20) :
    unitCode? '0' '0' (hexLower (code / 16)) (hexLower (code % 16)) = some code := by
  have zero : hexDigit? '0' = some 0 := by decide
  have whole : ((0 * 16 + 0) * 16 + code / 16) * 16 + code % 16 = code := by omega
  simp only [unitCode?, zero, hex_digit?_hex_lower (show code / 16 < 16 by omega),
    hex_digit?_hex_lower (show code % 16 < 16 by omega), Option.bind_eq_bind, Option.bind_some,
    Option.pure_def, whole]

/-- A piece of a string that means one character: the character, or the code of one that is no
surrogate. -/
inductive Piece.Means : Piece → Char → Prop
  | char (c : Char) : Means (.char c) c
  | unit (c : Char) (control : c.toNat < 0x20) : Means (.unit c.toNat) c

/-- Characters with a short escape. -/
def shortlyEscaped : List Char := ['"', '\\', '\x08', '\x0C', '\n', '\r', '\t']

theorem escape_char_of_shortly_escaped {c : Char} (short : c ∈ shortlyEscaped) :
    ∃ e, escapeChar c = ['\\', e] ∧ escape? e = some c ∧ e ≠ 'u' := by
  simp only [shortlyEscaped, List.mem_cons, List.not_mem_nil, or_false] at short
  rcases short with rfl | rfl | rfl | rfl | rfl | rfl | rfl <;> exact ⟨_, rfl, rfl, by decide⟩

theorem escape_char_of_not_shortly_escaped {c : Char} (long : c ∉ shortlyEscaped) :
    escapeChar c =
      if c.toNat < 0x20 then
        ['\\', 'u', '0', '0', hexLower (c.toNat / 16), hexLower (c.toNat % 16)]
      else [c] := by
  simp only [shortlyEscaped, List.mem_cons, List.not_mem_nil, or_false, not_or] at long
  simp only [escapeChar, long, if_false]

theorem escape_char_spelled (c : Char) :
    ∃ piece : Piece, piece.Means c ∧ piece.Spelled (escapeChar c) := by
  by_cases short : c ∈ shortlyEscaped
  · obtain ⟨e, written, escapes, _⟩ := escape_char_of_shortly_escaped short
    rw [written]
    exact ⟨.char c, .char c, .escaped escapes⟩
  · rw [escape_char_of_not_shortly_escaped short]
    by_cases control : c.toNat < 0x20
    · rw [if_pos control]
      exact ⟨.unit c.toNat, .unit c control, .unit (unit_code?_hex_lower control)⟩
    · have quote : c ≠ '"' := fun same => short (same ▸ by decide)
      have slash : c ≠ '\\' := fun same => short (same ▸ by decide)
      rw [if_neg control]
      exact ⟨.char c, .char c, .plain quote slash control⟩

theorem join_cons {piece : Piece} {c : Char} (means : piece.Means c) (pieces : List Piece) :
    join (piece :: pieces) = (join pieces).map (c :: ·) := by
  cases means with
  | char => simp [join]
  | unit _ control =>
      have high : isHighSurrogate c.toNat = false := by
        simp only [isHighSurrogate, Bool.and_eq_false_iff, decide_eq_false_iff_not]
        omega
      have low : isLowSurrogate c.toNat = false := by
        simp only [isLowSurrogate, Bool.and_eq_false_iff, decide_eq_false_iff_not]
        omega
      cases pieces with
      | nil => simp [join, high, low]
      | cons next rest => cases next <;> simp [join, high, low]

theorem flatMap_escape_char_spelled (text : List Char) :
    ∃ pieces, PiecesSpelled pieces (text.flatMap escapeChar) ∧ join pieces = some text := by
  induction text with
  | nil => exact ⟨[], .nil, rfl⟩
  | cons c others ih =>
      obtain ⟨pieces, spelled, joined⟩ := ih
      obtain ⟨piece, means, escaped⟩ := escape_char_spelled c
      refine ⟨piece :: pieces, .cons escaped spelled, ?_⟩
      rw [join_cons means, joined]
      rfl

end Strings

section Numbers

theorem digits_spelled (value : Nat) : SizeSpelled (some value) (digits value) := by
  have whole : WholeSpelled (digits value) := by
    rcases Nat.eq_zero_or_pos value with rfl | positive
    · exact .zero
    · refine .digits ⟨digits_ne_nil value, all_is_digit_digits value⟩ ?_
      intro leading
      obtain ⟨rest, same⟩ := List.head?_eq_some_iff.1 leading
      exact head_digits positive rest same
  have spelled := SizeSpelled.mk whole .absent .absent
  rw [List.append_nil, List.append_nil, digits, Nat.ofDigitChars_ten_toDigits] at spelled
  exact spelled

theorem signed_digits_spelled (whole : Int) :
    Token.Spelled (.number (some whole)) (signedDigits whole) := by
  have size := digits_spelled whole.natAbs
  unfold signedDigits
  split
  · rename_i negative
    have nonzero : whole.natAbs ≠ 0 := by omega
    have value : negated (some whole.natAbs) = some whole := by
      simp only [negated, Option.filter_some, ne_eq, nonzero, not_false_eq_true, decide_true,
        if_true, Option.map_some, Option.some.injEq, Int.ofNat_eq_natCast]
      omega
    rw [← value]
    exact .negative size
  · rename_i positive
    have value : Int.ofNat whole.natAbs = whole := Int.natAbs_of_nonneg (Int.not_lt.1 positive)
    have spelled := Token.Spelled.number size
    rw [Option.map_some, value] at spelled
    exact spelled

end Numbers

namespace Token

/-- Numbers and strings of an exact token have a value. -/
def isExact : Token → Bool
  | .number none | .string none => Bool.false
  | _ => Bool.true

theorem spelled_text {token : Token} (exact : token.isExact = Bool.true) :
    token.Spelled token.text := by
  cases token with
  | number whole =>
      cases whole with
      | none => cases exact
      | some whole => exact signed_digits_spelled whole
  | string text =>
      cases text with
      | none => cases exact
      | some text =>
          obtain ⟨pieces, spelled, joined⟩ := flatMap_escape_char_spelled text.toList
          have written := Spelled.string spelled
          rw [joined, Option.map_some, String.ofList_toList] at written
          exact written
  | null => exact .null
  | true => exact .true
  | false => exact .false
  | _ => exact .mark rfl

end Token

/-- A number among them may run into the next token, but each is spelled. -/
theorem spells_flatMap {tokens : List Token} (exact : ∀ token ∈ tokens, token.isExact = Bool.true) :
    Spells tokens (tokens.flatMap Token.text) := by
  induction tokens with
  | nil => exact .nil rfl
  | cons token others ih =>
      rw [List.flatMap_cons]
      exact .next (Token.spelled_text (exact token List.mem_cons_self))
        (ih fun next member => exact next (List.mem_cons_of_mem _ member))

end CohortDesk.Json
