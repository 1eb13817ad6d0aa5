import CohortDesk.Proofs.Text.Decimal

/-!
# Trimmed texts

Trimming takes the blanks from both ends of a text and nothing else, so it leaves nothing of a blank
text only.
-/

namespace CohortDesk.Text

set_option autoImplicit false

/-- `inner` is what is between the blanks at the ends of the text. -/
structure TrimsTo (text inner : List Char) : Prop where
  split : ∃ before after, text = before ++ (inner ++ after) ∧ before.all isBlank = true ∧
    after.all isBlank = true
  front : StopsBefore isBlank inner
  back : StopsBefore isBlank inner.reverse

theorem stops_before_dropWhile (kind : Char → Bool) (text : List Char) :
    StopsBefore kind (text.dropWhile kind) := by
  intro c head
  have first := List.head?_dropWhile_not kind text
  rw [Option.mem_def.1 head] at first
  simpa using first

theorem StopsBefore.of_append {kind : Char → Bool} {text rest : List Char}
    (stops : StopsBefore kind (text ++ rest)) : StopsBefore kind text := by
  intro c head
  cases text with
  | nil => cases head
  | cons first others => exact stops c head

theorem StopsBefore.eq_nil {kind : Char → Bool} {text : List Char} (stops : StopsBefore kind text)
    (all : text.all kind = true) : text = [] := by
  cases text with
  | nil => rfl
  | cons c rest =>
      rw [List.all_cons, stops c rfl] at all
      cases all

theorem eq_trim_end_append (text : List Char) :
    ∃ lost, lost.all isBlank = true ∧ text = trimEnd text ++ lost := by
  have split := List.takeWhile_append_dropWhile (p := isBlank) (l := text.reverse)
  refine ⟨(text.reverse.takeWhile isBlank).reverse, ?_, ?_⟩
  · rw [List.all_reverse]
    exact List.all_takeWhile
  · rw [trimEnd, ← List.reverse_append, split, List.reverse_reverse]

theorem trim_end_stops (text : List Char) : StopsBefore isBlank (trimEnd text).reverse := by
  rw [trimEnd, List.reverse_reverse]
  exact stops_before_dropWhile isBlank _

theorem trim_trims_to (text : List Char) : TrimsTo text (trim text) := by
  obtain ⟨after, blank, ended⟩ := eq_trim_end_append (trimStart text)
  have split : text = text.takeWhile isBlank ++ trimStart text :=
    List.takeWhile_append_dropWhile.symm
  have front : StopsBefore isBlank (trimStart text) := stops_before_dropWhile isBlank text
  rw [ended] at split front
  exact ⟨⟨_, after, split, List.all_takeWhile, blank⟩, front.of_append, trim_end_stops _⟩

theorem TrimsTo.eq_nil_iff {text inner : List Char} (trims : TrimsTo text inner) :
    inner = [] ↔ text.all isBlank = true := by
  obtain ⟨⟨before, after, rfl, front, back⟩, stops, -⟩ := trims
  simp only [List.all_append, front, back, Bool.and_true, Bool.true_and]
  constructor
  · rintro rfl
    rfl
  · exact stops.eq_nil

end CohortDesk.Text
