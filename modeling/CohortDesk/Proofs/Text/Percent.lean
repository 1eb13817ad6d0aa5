import CohortDesk.Text.Percent
import CohortDesk.Proofs.Text.Utf8

/-!
# Percent encoding read back

When the percent sign is escaped, an encoded text decodes to the bytes of the text. An encoded text
holds characters that need no escape, and otherwise only percent signs and hexadecimal digits.
-/

namespace CohortDesk.Text.Percent

set_option autoImplicit false

theorem hex_digit?_hex_upper (value : Nat) (small : value < 16) :
    hexDigit? (hexUpper value) = some value := by
  have all : ∀ digit < 16, hexDigit? (hexUpper digit) = some digit := by decide
  exact all value small

theorem hex_upper_ne_of_hex_digit? {c : Char} (other : hexDigit? c = none) (value : Nat)
    (small : value < 16) : hexUpper value ≠ c := by
  intro same
  have digit := hex_digit?_hex_upper value small
  rw [same, other] at digit
  cases digit

private theorem halves_small (byte : UInt8) : byte.toNat / 16 < 16 ∧ byte.toNat % 16 < 16 := by
  have bound := byte.toNat_lt
  omega

theorem decode_from_escape (byte : UInt8) (rest : List Char) :
    decodeFrom 0 (escape byte ++ rest) = byte :: decodeFrom 0 rest := by
  obtain ⟨high, low⟩ := halves_small byte
  have whole : byte.toNat / 16 * 16 + byte.toNat % 16 = byte.toNat := by omega
  have read : escaped? (hexUpper (byte.toNat / 16) :: hexUpper (byte.toNat % 16) :: rest) =
      some byte := by
    simp only [escaped?, hex_digit?_hex_upper _ high, hex_digit?_hex_upper _ low, whole,
      UInt8.ofNat_toNat, Option.bind_eq_bind, Option.bind_some, Option.pure_def]
  simp only [escape, List.cons_append, List.nil_append, decodeFrom, if_true, read]

theorem decode_from_escapes (bytes : List UInt8) (rest : List Char) :
    decodeFrom 0 (bytes.flatMap escape ++ rest) = bytes ++ decodeFrom 0 rest := by
  induction bytes with
  | nil => rfl
  | cons byte others ih =>
      rw [List.flatMap_cons, List.append_assoc, decode_from_escape, ih, List.cons_append]

theorem decode_from_encode_char {escaped : Char → Bool} (percent : escaped '%' = true) (c : Char)
    (rest : List Char) :
    decodeFrom 0 (encodeChar escaped c ++ rest) = Utf8.encodeChar c ++ decodeFrom 0 rest := by
  unfold encodeChar
  split
  next plain =>
    have other : c ≠ '%' := by
      rintro rfl
      rw [percent] at plain
      exact absurd plain (by decide)
    simp only [List.cons_append, List.nil_append, decodeFrom, if_neg other]
  next => exact decode_from_escapes (Utf8.encodeChar c) rest

theorem decode_encode {escaped : Char → Bool} (percent : escaped '%' = true) (text : List Char) :
    decode (encode escaped text) = Utf8.encode text := by
  induction text with
  | nil => rfl
  | cons c rest ih =>
      have split : encode escaped (c :: rest) = encodeChar escaped c ++ encode escaped rest := rfl
      have bytes : Utf8.encode (c :: rest) = Utf8.encodeChar c ++ Utf8.encode rest := rfl
      rw [decode, split, decode_from_encode_char percent, ← decode, ih, bytes]

theorem decode_text?_encode {escaped : Char → Bool} (percent : escaped '%' = true)
    (text : List Char) : decodeText? (encode escaped text) = some text := by
  rw [decodeText?, decode_encode percent, Utf8.decode?_encode]

/-- A mark that no escape is made of stands in an encoded text only as itself. -/
theorem mem_of_mem_encode {escaped : Char → Bool} {mark : Char} (foreign : hexDigit? mark = none)
    (noPercent : mark ≠ '%') {text : List Char} (member : mark ∈ encode escaped text) :
    mark ∈ text ∧ escaped mark = false := by
  obtain ⟨c, present, within⟩ := List.mem_flatMap.mp member
  unfold encodeChar at within
  split at within
  next plain =>
    have same := List.mem_singleton.mp within
    rw [Bool.and_eq_true, Bool.not_eq_true'] at plain
    exact same ▸ ⟨present, plain.2⟩
  next =>
    obtain ⟨byte, _, written⟩ := List.mem_flatMap.mp within
    obtain ⟨high, low⟩ := halves_small byte
    simp only [escape, List.mem_cons, List.not_mem_nil, or_false] at written
    rcases written with sign | upper | lower
    · exact absurd sign noPercent
    · exact absurd upper.symm (hex_upper_ne_of_hex_digit? foreign _ high)
    · exact absurd lower.symm (hex_upper_ne_of_hex_digit? foreign _ low)

/-- A mark that is escaped, and that no escape is made of, splits nothing in an encoded text. -/
theorem not_mem_encode {escaped : Char → Bool} {mark : Char} (hidden : escaped mark = true)
    (foreign : hexDigit? mark = none) (noPercent : mark ≠ '%') (text : List Char) :
    mark ∉ encode escaped text := by
  intro member
  have bare := (mem_of_mem_encode foreign noPercent member).2
  rw [hidden] at bare
  cases bare

end CohortDesk.Text.Percent
