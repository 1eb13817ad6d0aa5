import CohortDesk.Url.Path
import CohortDesk.Proofs.Text.Percent

/-!
# Segments put at the end of a path

An encoded segment is read as dots only when it is nothing but dots. So putting a text at the end of
a path adds that text as one segment, less its tabs and line breaks, unless dots are left of it.
Drives play no part here: they only have a meaning in files.
-/

namespace CohortDesk.Url

set_option autoImplicit false

open Text

def kept (text : List Char) : List Char := text.filter fun c => !isSkipped c

theorem kept_of_none_skipped {text : List Char} (none : ∀ c ∈ text, isSkipped c = false) :
    kept text = text := by
  refine List.filter_eq_self.mpr ?_
  intro c member
  rw [none c member]
  rfl

theorem none_skipped_kept (text : List Char) : ∀ c ∈ kept text, isSkipped c = false := by
  intro c member
  have counts := (List.mem_filter.mp member).2
  simpa using counts

namespace Part

theorem segment_escapes (special : Bool) :
    (segment special).escapes '%' = true ∧ (segment special).escapes '/' = true ∧
      (segment special).escapes '.' = false := by
  cases special <;> decide

theorem decode_text?_segment (special : Bool) (text : List Char) :
    Percent.decodeText? ((segment special).encode text) = some text :=
  Percent.decode_text?_encode (segment_escapes special).1 text

theorem slash_not_mem_segment (special : Bool) (text : List Char) :
    '/' ∉ (segment special).encode text :=
  Percent.not_mem_encode (segment_escapes special).2.1 (by decide) (by decide) text

end Part

theorem dots_of_ne {c : Char} (noDot : c ≠ '.') (noPercent : c ≠ '%') (rest : List Char) :
    dots (c :: rest) = none := by
  unfold dots
  split
  next empty => cases empty
  next same => exact absurd (List.cons.inj same).1 noDot
  next same => exact absurd (List.cons.inj same).1 noPercent
  next same => exact absurd (List.cons.inj same).1 noPercent
  next => rfl

theorem dots_escape {byte : UInt8} (noDot : byte.toNat ≠ 0x2E) (rest : List Char) :
    dots (Percent.escape byte ++ rest) = none := by
  have bound := byte.toNat_lt
  have high := Percent.hex_digit?_hex_upper (byte.toNat / 16) (by omega)
  have low := Percent.hex_digit?_hex_upper (byte.toNat % 16) (by omega)
  have spelled {second third : Char} {others : List Char}
      (same : Percent.escape byte ++ rest = '%' :: second :: third :: others)
      (two : hexDigit? second = some 2) (fourteen : hexDigit? third = some 14) : False := by
    simp only [Percent.escape, List.cons_append, List.cons.injEq, true_and] at same
    rw [same.1, two] at high
    rw [same.2.1, fourteen] at low
    have upper := Option.some.inj high
    have lower := Option.some.inj low
    omega
  unfold dots
  split
  next empty => cases empty
  next same => exact absurd (List.cons.inj same).1 (by decide)
  next same => exact (spelled same (by decide) (by decide)).elim
  next same => exact (spelled same (by decide) (by decide)).elim
  next => rfl

theorem dots_encode_cons (special : Bool) (c : Char) (rest : List Char) :
    dots ((Part.segment special).encode (c :: rest)) =
      if c = '.' then (dots ((Part.segment special).encode rest)).map (· + 1) else none := by
  obtain ⟨percent, -, dot⟩ := Part.segment_escapes special
  have split : (Part.segment special).encode (c :: rest) =
      Percent.encodeChar (Part.segment special).escapes c ++
        (Part.segment special).encode rest := rfl
  rw [split]
  by_cases isDot : c = '.'
  · have written : Percent.encodeChar (Part.segment special).escapes c = ['.'] := by
      rw [isDot, Percent.encodeChar, dot]
      rfl
    rw [if_pos isDot, written, List.cons_append, List.nil_append, dots]
  · rw [if_neg isDot]
    unfold Percent.encodeChar
    split
    next plain =>
      have noPercent : c ≠ '%' := by
        rintro rfl
        rw [percent] at plain
        exact absurd plain (by decide)
      exact dots_of_ne isDot noPercent _
    next =>
      cases bytes : Utf8.encodeChar c with
      | nil => exact absurd bytes (Utf8.encode_char_ne_nil c)
      | cons lead others =>
          -- Only the first byte decides, and no other character starts with the byte of a dot.
          have noDot : lead.toNat ≠ 0x2E := by
            intro same
            have read := Utf8.eq_of_ascii_lead bytes (by omega)
            rw [same] at read
            exact isDot read
          rw [List.flatMap_cons, List.append_assoc]
          exact dots_escape noDot _

theorem dots_encode_iff (special : Bool) (text : List Char) (count : Nat) :
    dots ((Part.segment special).encode text) = some count ↔ text = List.replicate count '.' := by
  induction text generalizing count with
  | nil =>
      have empty : dots ((Part.segment special).encode []) = some 0 := rfl
      rw [empty]
      cases count with
      | zero => simp
      | succ more => simp [List.replicate_succ]
  | cons c rest ih =>
      rw [dots_encode_cons]
      cases count with
      | zero =>
          split <;> simp
      | succ more =>
          rw [List.replicate_succ, List.cons.injEq, ← ih more]
          by_cases isDot : c = '.'
          · simp [isDot]
          · simp [isDot]

/-- The path that a segment is put behind: the root alone has no segment yet. -/
def rooted (path : List (List Char)) : List (List Char) := if path = [[]] then [] else path

section Push

variable {family : Family} (path : List (List Char)) {segment : List Char}

theorem push_dots (dotted : segment = ['.'] ∨ segment = ['.', '.']) :
    push family path segment = path := by
  rw [push, if_pos dotted]

theorem push_eq (noDots : ¬(segment = ['.'] ∨ segment = ['.', '.'])) :
    push family path segment =
      enterLast (family == .file) (rooted path)
        ((Part.segment family.isSpecial).encode (kept segment)) := by
  rw [push, if_neg noDots]
  rfl

theorem push_kept_dot (noDots : ¬(segment = ['.'] ∨ segment = ['.', '.']))
    (left : kept segment = ['.']) : push family path segment = rooted path ++ [[]] := by
  have read : dots ((Part.segment family.isSpecial).encode (kept segment)) = some 1 :=
    (dots_encode_iff _ _ 1).mpr left
  simp only [push_eq path noDots, enterLast, read]

theorem push_kept_dots (noDots : ¬(segment = ['.'] ∨ segment = ['.', '.']))
    (left : kept segment = ['.', '.']) :
    push family path segment = parent (rooted path) ++ [[]] := by
  have read : dots ((Part.segment family.isSpecial).encode (kept segment)) = some 2 :=
    (dots_encode_iff _ _ 2).mpr left
  simp only [push_eq path noDots, enterLast, read]

theorem push_segment (noFile : family ≠ .file) (noDot : kept segment ≠ ['.'])
    (noDots : kept segment ≠ ['.', '.']) :
    push family path segment =
      rooted path ++ [(Part.segment family.isSpecial).encode (kept segment)] := by
  have plain : ¬(segment = ['.'] ∨ segment = ['.', '.']) := by
    rintro (rfl | rfl)
    · exact noDot rfl
    · exact noDots rfl
  have notOne : dots ((Part.segment family.isSpecial).encode (kept segment)) ≠ some 1 := by
    intro read
    exact noDot ((dots_encode_iff _ _ 1).mp read)
  have notTwo : dots ((Part.segment family.isSpecial).encode (kept segment)) ≠ some 2 := by
    intro read
    exact noDots ((dots_encode_iff _ _ 2).mp read)
  have noDrive : (family == .file) = false := beq_eq_false_iff_ne.mpr noFile
  rw [push_eq path plain, enterLast, noDrive]
  split
  next read => exact absurd read notOne
  next read => exact absurd read notTwo
  next =>
    unfold enter
    split
    next read => exact absurd read notOne
    next read => exact absurd read notTwo
    next => rw [Bool.false_and, if_neg Bool.false_ne_true]

end Push

end CohortDesk.Url
