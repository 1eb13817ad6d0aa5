import CohortDesk.Text.Utf8
import Mathlib.Tactic.SplitIfs

/-!
# UTF-8 read back

The bytes of a text fall into units that are its characters again, so strict and lossy reading
both return the text. One case for each width of a character; the bytes are compared as numbers.
-/

namespace CohortDesk.Text.Utf8

set_option autoImplicit false

theorem width_toNat (lead : UInt8) :
    width lead =
      if lead.toNat < 0x80 then 1
      else if 0xC2 ≤ lead.toNat ∧ lead.toNat ≤ 0xDF then 2
      else if 0xE0 ≤ lead.toNat ∧ lead.toNat ≤ 0xEF then 3
      else if 0xF0 ≤ lead.toNat ∧ lead.toNat ≤ 0xF4 then 4
      else 0 := by
  simp only [width, UInt8.lt_iff_toNat_lt, UInt8.le_iff_toNat_le]
  rfl

theorem is_tail_iff (byte : UInt8) :
    isTail byte = true ↔ 0x80 ≤ byte.toNat ∧ byte.toNat ≤ 0xBF := by
  simp only [isTail, Bool.and_eq_true, decide_eq_true_eq, UInt8.le_iff_toNat_le]
  rfl

theorem second_fits_iff (lead second : UInt8) :
    secondFits lead second = true ↔
      if lead.toNat = 0xE0 then 0xA0 ≤ second.toNat ∧ second.toNat ≤ 0xBF
      else if lead.toNat = 0xED then 0x80 ≤ second.toNat ∧ second.toNat ≤ 0x9F
      else if lead.toNat = 0xF0 then 0x90 ≤ second.toNat ∧ second.toNat ≤ 0xBF
      else if lead.toNat = 0xF4 then 0x80 ≤ second.toNat ∧ second.toNat ≤ 0x8F
      else 0x80 ≤ second.toNat ∧ second.toNat ≤ 0xBF := by
  have same (byte : UInt8) : (lead == byte) = true ↔ lead.toNat = byte.toNat := by
    rw [beq_iff_eq, UInt8.toNat_inj]
  unfold secondFits
  simp only [same, UInt8.reduceToNat]
  split_ifs <;> simp [is_tail_iff, UInt8.le_iff_toNat_le]

private theorem toNat_ofNat_of_lt {value : Nat} (bound : value < 256) :
    (UInt8.ofNat value).toNat = value := by
  rw [UInt8.toNat_ofNat', Nat.mod_eq_of_lt bound]

private theorem code_bounds (c : Char) :
    c.val.toNat < 0xD800 ∨ (0xDFFF < c.val.toNat ∧ c.val.toNat < 0x110000) := c.valid

private theorem append_eq (value : Nat) (tail : UInt8) :
    append value tail = value * 64 + (tail.toNat - 0x80) := rfl

private theorem ofNat_val (c : Char) : Char.ofNat c.val.toNat = c := Char.ofNat_toNat c

private theorem unit_one {lead : UInt8} {c : Char} (rest : List UInt8)
    (small : c.val.toNat ≤ 0x7F) (leadIs : lead.toNat = c.val.toNat) :
    unit lead rest = (some c, 0) := by
  have one : width lead = 1 := by
    rw [width_toNat, leadIs, if_pos (by omega)]
  have start : payload lead = c.val.toNat := by
    simp only [payload, one, leadIs]
  unfold unit
  simp only [one, start, ofNat_val]

private theorem unit_two {lead second : UInt8} {c : Char} (rest : List UInt8)
    (above : 0x7F < c.val.toNat) (small : c.val.toNat ≤ 0x7FF)
    (leadIs : lead.toNat = c.val.toNat / 64 % 0x20 + 0xC0)
    (secondIs : second.toNat = c.val.toNat % 0x40 + 0x80) :
    unit lead (second :: rest) = (some c, 1) := by
  have two : width lead = 2 := by
    rw [width_toNat, leadIs, if_neg (by omega), if_pos (by omega)]
  have fits : secondFits lead second = true := by
    rw [second_fits_iff, leadIs, secondIs]
    split_ifs <;> omega
  have value : append (payload lead) second = c.val.toNat := by
    simp only [append_eq, payload, two]
    omega
  unfold unit
  simp only [two, fits, if_true, value, ofNat_val]

private theorem unit_three {lead second third : UInt8} {c : Char} (rest : List UInt8)
    (above : 0x7FF < c.val.toNat) (small : c.val.toNat ≤ 0xFFFF)
    (leadIs : lead.toNat = c.val.toNat / 4096 % 0x10 + 0xE0)
    (secondIs : second.toNat = c.val.toNat / 64 % 0x40 + 0x80)
    (thirdIs : third.toNat = c.val.toNat % 0x40 + 0x80) :
    unit lead (second :: third :: rest) = (some c, 2) := by
  have valid := code_bounds c
  have three : width lead = 3 := by
    rw [width_toNat, leadIs, if_neg (by omega), if_neg (by omega), if_pos (by omega)]
  have fits : secondFits lead second = true := by
    rw [second_fits_iff, leadIs, secondIs]
    split_ifs <;> omega
  have tail : isTail third = true := by
    rw [is_tail_iff, thirdIs]
    omega
  have value : append (append (payload lead) second) third = c.val.toNat := by
    simp only [append_eq, payload, three]
    omega
  unfold unit
  simp only [three, fits, tail, Bool.not_true, Bool.false_eq_true, if_false, if_true, value,
    ofNat_val]

private theorem unit_four {lead second third fourth : UInt8} {c : Char} (rest : List UInt8)
    (above : 0xFFFF < c.val.toNat)
    (leadIs : lead.toNat = c.val.toNat / 262144 % 0x08 + 0xF0)
    (secondIs : second.toNat = c.val.toNat / 4096 % 0x40 + 0x80)
    (thirdIs : third.toNat = c.val.toNat / 64 % 0x40 + 0x80)
    (fourthIs : fourth.toNat = c.val.toNat % 0x40 + 0x80) :
    unit lead (second :: third :: fourth :: rest) = (some c, 3) := by
  have valid := code_bounds c
  have four : width lead = 4 := by
    rw [width_toNat, leadIs, if_neg (by omega), if_neg (by omega), if_neg (by omega),
      if_pos (by omega)]
  have fits : secondFits lead second = true := by
    rw [second_fits_iff, leadIs, secondIs]
    split_ifs <;> omega
  have tail : isTail third = true := by
    rw [is_tail_iff, thirdIs]
    omega
  have last : isTail fourth = true := by
    rw [is_tail_iff, fourthIs]
    omega
  have value : append (append (append (payload lead) second) third) fourth = c.val.toNat := by
    simp only [append_eq, payload, four]
    omega
  unfold unit
  simp only [four, fits, tail, last, Bool.not_true, Bool.false_eq_true, if_false, if_true, value,
    ofNat_val]

theorem units_from_encode_char (c : Char) (rest : List UInt8) :
    unitsFrom 0 (encodeChar c ++ rest) = some c :: unitsFrom 0 rest := by
  have byte {value : Nat} (bound : value < 256) := toNat_ofNat_of_lt bound
  have valid := code_bounds c
  unfold encodeChar String.utf8EncodeChar
  -- The encoder's own cases: one for each width.
  by_cases one : c.val.toNat ≤ 0x7F
  · have found := unit_one (c := c) rest one (byte (by omega))
    simp only [one, if_true, List.cons_append, List.nil_append, unitsFrom, found]
  · by_cases two : c.val.toNat ≤ 0x7FF
    · have found := unit_two (c := c) rest (by omega) two (byte (by omega)) (byte (by omega))
      simp only [one, two, if_false, if_true, List.cons_append, List.nil_append, unitsFrom, found]
    · by_cases three : c.val.toNat ≤ 0xFFFF
      · have found := unit_three (c := c) rest (by omega) three (byte (by omega)) (byte (by omega))
          (byte (by omega))
        simp only [one, two, three, if_false, if_true, List.cons_append, List.nil_append,
          unitsFrom, found]
      · have found := unit_four (c := c) rest (by omega) (byte (by omega)) (byte (by omega))
          (byte (by omega)) (byte (by omega))
        simp only [one, two, three, if_false, List.cons_append, List.nil_append, unitsFrom, found]

theorem units_encode (text : List Char) : units (encode text) = text.map some := by
  induction text with
  | nil => rfl
  | cons c rest ih =>
      have split : encode (c :: rest) = encodeChar c ++ encode rest := rfl
      rw [units, split, units_from_encode_char, ← units, ih, List.map_cons]

theorem decode?_encode (text : List Char) : decode? (encode text) = some text := by
  rw [decode?, units_encode]
  induction text with
  | nil => rfl
  | cons c rest ih =>
      rw [List.map_cons, List.mapM_cons, ih]
      rfl

theorem decode_lossy_encode (text : List Char) : decodeLossy (encode text) = text := by
  rw [decodeLossy, units_encode, List.map_map]
  exact List.map_id text

theorem decode_marking_encode (mark text : List Char) :
    decodeMarking mark (encode text) = text := by
  rw [decodeMarking, units_encode, List.flatMap_map]
  exact List.flatMap_singleton' text

theorem encode_char_ne_nil (c : Char) : encodeChar c ≠ [] := by
  intro empty
  have found := units_from_encode_char c []
  rw [empty] at found
  cases found

/-- A byte below 0x80 starts no character but its own. -/
theorem eq_of_ascii_lead {c : Char} {lead : UInt8} {others : List UInt8}
    (written : encodeChar c = lead :: others) (ascii : lead.toNat < 0x80) :
    c = Char.ofNat lead.toNat := by
  have one : width lead = 1 := by
    rw [width_toNat, if_pos ascii]
  have start : payload lead = lead.toNat := by
    simp only [payload, one]
  have whole : unit lead others = (some (Char.ofNat lead.toNat), 0) := by
    unfold unit
    simp only [one, start]
  have found := units_from_encode_char c []
  simp only [written, List.append_nil, unitsFrom, whole] at found
  exact (Option.some.inj (List.cons.inj found).1).symm

end CohortDesk.Text.Utf8
