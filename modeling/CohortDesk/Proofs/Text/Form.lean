import CohortDesk.Text.Form
import CohortDesk.Proofs.Text.Percent

/-!
# Form data read back

An encoded text decodes to the text, and neither `&` nor `=` stands in it. So pairs that are put
behind a query, whatever that holds, are read as the query's own pairs and then these.
-/

namespace CohortDesk.Text.Form

set_option autoImplicit false

private theorem encode_cons (c : Char) (rest : List Char) :
    encode (c :: rest) = encodeChar c ++ encode rest := rfl

/-- A character that is no blank is written as any percent-encoded one. -/
theorem encode_char_of_ne {c : Char} (solid : c ≠ ' ') :
    encodeChar c = Percent.encode (fun other => !standsForItself other) [c] := by
  rw [encodeChar, if_neg solid, Percent.encode, List.flatMap_singleton]

/-- A mark that does not stand for itself splits nothing in an encoded text. -/
theorem not_mem_encode {mark : Char} (hidden : (!standsForItself mark) = true)
    (foreign : hexDigit? mark = none) (noPercent : mark ≠ '%') (noPlus : mark ≠ '+')
    (text : List Char) : mark ∉ encode text := by
  intro member
  obtain ⟨c, _, within⟩ := List.mem_flatMap.mp member
  by_cases blank : c = ' '
  · rw [encodeChar, if_pos blank] at within
    exact noPlus (List.mem_singleton.mp within)
  · rw [encode_char_of_ne blank] at within
    exact Percent.not_mem_encode hidden foreign noPercent [c] within

theorem ampersand_not_mem_encode (text : List Char) : '&' ∉ encode text :=
  not_mem_encode (by decide) (by decide) (by decide) (by decide) text

theorem equals_not_mem_encode (text : List Char) : '=' ∉ encode text :=
  not_mem_encode (by decide) (by decide) (by decide) (by decide) text

/-- A plus is read as a blank before escapes are read. -/
def spaced (c : Char) : Char := if c = '+' then ' ' else c

theorem decode_eq (text : List Char) :
    decode text = Utf8.decodeLossy (Percent.decode (text.map spaced)) := rfl

/-- Only a blank is written as a plus, so no other character is read for one. -/
theorem map_spaced_encode_char {c : Char} (solid : c ≠ ' ') :
    (encodeChar c).map spaced = encodeChar c := by
  rw [encode_char_of_ne solid]
  have absent : '+' ∉ Percent.encode (fun other => !standsForItself other) [c] :=
    Percent.not_mem_encode (by decide) (by decide) (by decide) [c]
  have kept : ∀ other ∈ Percent.encode (fun other => !standsForItself other) [c],
      spaced other = other := by
    intro other member
    have noPlus : other ≠ '+' := fun same => absent (same ▸ member)
    rw [spaced, if_neg noPlus]
  rw [List.map_congr_left kept, List.map_id']

theorem decode_from_encode_char (c : Char) (rest : List Char) :
    Percent.decodeFrom 0 ((encodeChar c).map spaced ++ rest) =
      Utf8.encodeChar c ++ Percent.decodeFrom 0 rest := by
  by_cases blank : c = ' '
  · subst blank
    rfl
  · rw [map_spaced_encode_char blank, encodeChar, if_neg blank]
    exact Percent.decode_from_encode_char (by decide) c rest

theorem decode_encode (text : List Char) : decode (encode text) = text := by
  have bytes : Percent.decode ((encode text).map spaced) = Utf8.encode text := by
    induction text with
    | nil => rfl
    | cons c rest ih =>
        have split : Utf8.encode (c :: rest) = Utf8.encodeChar c ++ Utf8.encode rest := rfl
        rw [Percent.decode, encode_cons, List.map_append, decode_from_encode_char, ← Percent.decode,
          ih, split]
  rw [decode_eq, bytes, Utf8.decode_lossy_encode]

theorem decode_pair_encode_pair (pair : List Char × List Char) :
    decodePair (encodePair pair) = pair := by
  have name : ∀ c ∈ encode pair.1, decide (c ≠ '=') = true := by
    intro c member
    have other : c ≠ '=' := fun same => equals_not_mem_encode pair.1 (same ▸ member)
    exact decide_eq_true other
  have before : (encodePair pair).takeWhile (· ≠ '=') = encode pair.1 := by
    rw [encodePair, List.takeWhile_append_of_pos name, List.takeWhile_cons_of_neg (by decide),
      List.append_nil]
  have after : ((encodePair pair).dropWhile (· ≠ '=')).drop 1 = encode pair.2 := by
    rw [encodePair, List.dropWhile_append_of_pos name, List.dropWhile_cons_of_neg (by decide),
      List.drop_one, List.tail_cons]
  rw [decodePair, before, after, decode_encode, decode_encode]

theorem ampersand_not_mem_encode_pair (pair : List Char × List Char) :
    '&' ∉ encodePair pair := by
  intro member
  rcases List.mem_append.mp member with name | value
  · exact ampersand_not_mem_encode pair.1 name
  · rcases List.mem_cons.mp value with sign | value
    · cases sign
    · exact ampersand_not_mem_encode pair.2 value

theorem encode_pair_ne_nil (pair : List Char × List Char) : encodePair pair ≠ [] := by
  simp [encodePair]

theorem decode_pairs_encode_pairs (pairs : List (List Char × List Char)) :
    decodePairs (encodePairs pairs) = pairs := by
  by_cases none : pairs = []
  · subst none
    rfl
  · have whole : ∀ piece ∈ pairs.map encodePair, '&' ∉ piece := by
      intro piece member
      obtain ⟨pair, _, rfl⟩ := List.mem_map.mp member
      exact ampersand_not_mem_encode_pair pair
    have present : pairs.map encodePair ≠ [] := fun empty => none (List.map_eq_nil_iff.mp empty)
    have full : ∀ piece ∈ pairs.map encodePair, decide (piece ≠ []) = true := by
      intro piece member
      obtain ⟨pair, _, rfl⟩ := List.mem_map.mp member
      exact decide_eq_true (encode_pair_ne_nil pair)
    have read : ∀ pair ∈ pairs, (decodePair ∘ encodePair) pair = pair :=
      fun pair _ => decode_pair_encode_pair pair
    rw [decodePairs, encodePairs, List.splitOn_intercalate '&' whole present,
      List.filter_eq_self.mpr full, List.map_map, List.map_congr_left read, List.map_id']

/-- What stands before an ampersand is read apart from what follows it. -/
theorem decode_pairs_append (front back : List Char) :
    decodePairs (front ++ '&' :: back) = decodePairs front ++ decodePairs back := by
  rw [decodePairs, List.splitOn_append_cons_self, List.filter_append, List.map_append]
  rfl

end CohortDesk.Text.Form
