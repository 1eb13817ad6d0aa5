import CohortDesk.Proofs.Grid.Width
import CohortDesk.Proofs.Text.Blank
import Mathlib.Algebra.Ring.Nat

/-!
# Aligned entries

Laid out in full, an entry has every column at its place. Trimming takes blanks from the end only,
so the places are there again once the entry is filled up with spaces. A cell that ends in other
blanks, in an entry with nothing visible behind it, shows spaces in their stead.
-/

namespace CohortDesk.Grid

set_option autoImplicit false

/-- Where a column starts: behind the marker, the columns before it and their gaps. -/
def start (columnWidths : List Nat) (k : Nat) : Nat := 2 + ((columnWidths.take k).map (· + 2)).sum

/-- An entry with spaces at its end again, as many as the columns need. -/
def refilled (columnWidths : List Nat) (shown : List Char) : List Char :=
  pad (start columnWidths columnWidths.length) shown

def window (text : List Char) (first count : Nat) : List Char := (text.drop first).take count

/-- How an entry is read: the marker first, then each cell in its column, as far as the entry
reaches, with spaces up to the width of the column and the two of the gap. Of a cell that goes on
behind the end of the entry only blanks are missing. -/
structure Aligned (columnWidths : List Nat) (marker : List Char) (entryCells : List (List Char))
    (shown : List Char) : Prop where
  complete : columnWidths.length = entryCells.length
  trimmed : Text.StopsBefore Text.isBlank shown.reverse
  marked : (refilled columnWidths shown).take 2 = marker
  column : ∀ k width cell, columnWidths[k]? = some width → entryCells[k]? = some cell →
    let reach := shown.length - start columnWidths k
    cell.length ≤ width ∧
      window (refilled columnWidths shown) (start columnWidths k) width =
        pad width (cell.take reach) ∧
      (cell.drop reach).all Text.isBlank = true ∧
      window (refilled columnWidths shown) (start columnWidths k + width) 2 = [' ', ' ']

theorem length_pad {count : Nat} {text : List Char} (short : text.length ≤ count) :
    (pad count text).length = count := by
  rw [pad, List.length_append, List.length_replicate]
  omega

theorem pad_take_pad {count : Nat} {text : List Char} (short : text.length ≤ count) (kept : Nat) :
    pad count ((pad count text).take kept) = pad count (text.take kept) := by
  simp only [pad, List.take_append, List.append_assoc, List.length_append, List.length_take,
    List.take_replicate, List.length_replicate, List.replicate_append_replicate]
  congr 2
  omega

/-- The only blanks of the text are spaces. -/
def Spaced (text : List Char) : Prop := ∀ c ∈ text, Text.isBlank c = true → c = ' '

/-- Filling up restores what is lost from a text with spaces as its only blanks. -/
theorem pad_take_of_spaced {text : List Char} {kept : Nat} (spaced : Spaced text)
    (lost : (text.drop kept).all Text.isBlank = true) :
    pad text.length (text.take kept) = text := by
  have spaces : text.drop kept = List.replicate (text.length - kept) ' ' := by
    refine List.eq_replicate_iff.2 ⟨List.length_drop, fun c member => ?_⟩
    exact spaced c (List.mem_of_mem_drop member) (List.all_eq_true.1 lost c member)
  have missing : text.length - (text.take kept).length = text.length - kept := by
    rw [List.length_take]
    omega
  rw [pad, missing, ← spaces, List.take_append_drop]

theorem pair_spaced {c : Char} (space : Text.isBlank c = true → c = ' ') : Spaced [c, ' '] := by
  intro d member blank
  simp only [List.mem_cons, List.not_mem_nil, or_false] at member
  rcases member with rfl | rfl
  · exact space blank
  · rfl

theorem gap_spaced : Spaced gap := pair_spaced fun _ => rfl

section

variable {before piece after : List Char} {kept : Nat}

/-- A piece of a text, where the text is cut behind `kept` characters and filled up again. -/
theorem window_pad_take {text : List Char} (split : text = before ++ (piece ++ after))
    (within : kept ≤ text.length) :
    window (pad text.length (text.take kept)) before.length piece.length =
      pad piece.length (piece.take (kept - before.length)) := by
  have size : text.length = before.length + (piece.length + after.length) := by
    rw [split, List.length_append, List.length_append]
  have cut : (text.take kept).drop before.length =
      (piece ++ after).take (kept - before.length) := by
    rw [List.drop_take, split, List.drop_left]
  have seen :
      ((piece ++ after).take (kept - before.length)).take piece.length =
        piece.take (kept - before.length) := by
    rw [List.take_take, List.take_append_of_le_length (Nat.min_le_left _ _),
      List.take_eq_take_iff]
    omega
  unfold window pad
  rw [List.drop_append, List.take_append, List.drop_replicate, List.take_replicate]
  simp only [List.length_drop, List.length_take]
  rw [cut, seen]
  congr 2
  omega

theorem all_drop_piece {text : List Char} (split : text = before ++ (piece ++ after))
    (lost : (text.drop kept).all Text.isBlank = true) :
    (piece.drop (kept - before.length)).all Text.isBlank = true := by
  have place : kept + (before.length - kept) = before.length + (kept - before.length) := by omega
  have behind : ((text.drop kept).drop (before.length - kept)).all Text.isBlank = true := by
    rw [List.all_eq_true] at lost ⊢
    exact fun c member => lost c (List.mem_of_mem_drop member)
  rw [List.drop_drop, place, ← List.drop_drop, split, List.drop_left, List.drop_append,
    List.all_append, Bool.and_eq_true] at behind
  exact behind.1

end

section

variable {columnWidths : List Nat} {marker : List Char} {entryCells : List (List Char)}

/-- The columns of an entry, each with the gap behind it. -/
def segments (columnWidths : List Nat) (entryCells : List (List Char)) : List (List Char) :=
  (List.zipWith pad columnWidths entryCells).map (· ++ gap)

theorem map_length_segments (fits : CellsFit columnWidths entryCells) :
    (segments columnWidths entryCells).map List.length = columnWidths.map (· + 2) := by
  induction fits with
  | nil => rfl
  | cons short _ ih =>
      unfold segments at ih ⊢
      rw [List.zipWith_cons_cons, List.map_cons, List.map_cons, ih, List.map_cons,
        List.length_append, length_pad short]
      rfl

theorem flatten_map_append_gap (pieces : List (List Char)) :
    ∃ rest, (rest = [] ∨ rest = gap) ∧
      (pieces.map (· ++ gap)).flatten = gap.intercalate pieces ++ rest := by
  induction pieces with
  | nil => exact ⟨[], .inl rfl, rfl⟩
  | cons piece others ih =>
      cases others with
      | nil => exact ⟨gap, .inr rfl, by simp⟩
      | cons next others =>
          obtain ⟨rest, either, joined⟩ := ih
          refine ⟨rest, either, ?_⟩
          rw [List.map_cons, List.flatten_cons, joined, List.intercalate_cons_cons,
            List.append_assoc, List.append_assoc, List.append_assoc]

/-- An entry in full with the gap that would follow its last column. -/
def laidOut (columnWidths : List Nat) (marker : List Char) (entryCells : List (List Char)) :
    List Char :=
  marker ++ (segments columnWidths entryCells).flatten

theorem exists_laid_out_eq (columnWidths : List Nat) (marker : List Char)
    (entryCells : List (List Char)) :
    ∃ rest, (rest = [] ∨ rest = gap) ∧
      laidOut columnWidths marker entryCells =
        fullEntry columnWidths marker entryCells ++ rest := by
  obtain ⟨rest, either, joined⟩ := flatten_map_append_gap (List.zipWith pad columnWidths entryCells)
  refine ⟨rest, either, ?_⟩
  rw [laidOut, segments, joined, fullEntry, List.append_assoc]

/-- The entry is what the layout has up to its last visible character. -/
theorem laid_out_take_entry (columnWidths : List Nat) (marker : List Char)
    (entryCells : List (List Char)) :
    let laid := laidOut columnWidths marker entryCells
    let shown := entry columnWidths marker entryCells
    shown.length ≤ laid.length ∧ laid.take shown.length = shown ∧
      (laid.drop shown.length).all Text.isBlank = true := by
  intro laid shown
  obtain ⟨rest, either, full⟩ := exists_laid_out_eq columnWidths marker entryCells
  obtain ⟨lost, blank, trimmed⟩ :=
    Text.eq_trim_end_append (fullEntry columnWidths marker entryCells)
  have split : laid = shown ++ (lost ++ rest) := by
    rw [← List.append_assoc]
    exact full.trans (congrArg (· ++ rest) trimmed)
  refine ⟨?_, ?_, ?_⟩
  · rw [split, List.length_append]
    exact Nat.le_add_right _ _
  · rw [split, List.take_left]
  · rw [split, List.drop_left, List.all_append, blank, Bool.true_and]
    rcases either with rfl | rfl <;> rfl

theorem length_laid_out (size : marker.length = 2) (fits : CellsFit columnWidths entryCells) :
    (laidOut columnWidths marker entryCells).length = start columnWidths columnWidths.length := by
  rw [laidOut, List.length_append, size, List.length_flatten, map_length_segments fits, start,
    List.take_length]

/-- What stands before a column in the layout ends where the column starts. -/
theorem laid_out_split (size : marker.length = 2) (fits : CellsFit columnWidths entryCells)
    {k width : Nat} {cell : List Char} (wide : columnWidths[k]? = some width)
    (held : entryCells[k]? = some cell) :
    ∃ before after, before.length = start columnWidths k ∧
      laidOut columnWidths marker entryCells = before ++ (pad width cell ++ (gap ++ after)) := by
  have here : (segments columnWidths entryCells)[k]? = some (pad width cell ++ gap) := by
    rw [segments, List.getElem?_map, List.getElem?_zipWith, wide, held]
    rfl
  obtain ⟨inside, piece⟩ := List.getElem?_eq_some_iff.1 here
  have split := List.take_append_drop k (segments columnWidths entryCells)
  rw [List.drop_eq_getElem_cons inside, piece] at split
  refine ⟨marker ++ ((segments columnWidths entryCells).take k).flatten,
    ((segments columnWidths entryCells).drop (k + 1)).flatten, ?_, ?_⟩
  · rw [List.length_append, size, List.length_flatten, List.map_take, map_length_segments fits,
      ← List.map_take, start]
  · rw [laidOut]
    conv => lhs; rw [← split]
    rw [List.flatten_append, List.flatten_cons]
    simp only [List.append_assoc]

section

variable (size : marker.length = 2) (fits : CellsFit columnWidths entryCells)
  {before piece after : List Char}

include size fits

/-- What the entry, filled up, shows of a piece of its layout: as much as the entry reaches. -/
theorem window_refilled
    (split : laidOut columnWidths marker entryCells = before ++ (piece ++ after)) :
    let shown := entry columnWidths marker entryCells
    let reach := shown.length - before.length
    window (refilled columnWidths shown) before.length piece.length =
        pad piece.length (piece.take reach) ∧
      (piece.drop reach).all Text.isBlank = true := by
  intro shown reach
  obtain ⟨within, kept, lost⟩ := laid_out_take_entry columnWidths marker entryCells
  have refill :
      refilled columnWidths shown =
        pad (laidOut columnWidths marker entryCells).length
          ((laidOut columnWidths marker entryCells).take shown.length) := by
    rw [refilled, length_laid_out size fits, kept]
  rw [refill]
  exact ⟨window_pad_take split within, all_drop_piece split lost⟩

theorem window_refilled_of_spaced
    (split : laidOut columnWidths marker entryCells = before ++ (piece ++ after))
    (spaced : Spaced piece) :
    window (refilled columnWidths (entry columnWidths marker entryCells)) before.length
      piece.length = piece := by
  obtain ⟨seen, lost⟩ := window_refilled size fits split
  exact seen.trans (pad_take_of_spaced spaced lost)

theorem aligned_entry (spaced : Spaced marker) :
    Aligned columnWidths marker entryCells (entry columnWidths marker entryCells) := by
  refine ⟨fits.length_eq, Text.trim_end_stops _, ?_, ?_⟩
  · have split :
        laidOut columnWidths marker entryCells =
          [] ++ (marker ++ (segments columnWidths entryCells).flatten) := rfl
    have seen := window_refilled_of_spaced size fits split spaced
    rwa [List.length_nil, size] at seen
  · intro k width cell wide held reach
    obtain ⟨before, after, place, split⟩ := laid_out_split size fits wide held
    have short : cell.length ≤ width := fits.short wide held
    have splitGap :
        laidOut columnWidths marker entryCells =
          (before ++ pad width cell) ++ (gap ++ after) := by
      rw [split, List.append_assoc]
    obtain ⟨seen, missing⟩ := window_refilled size fits split
    have seenGap := window_refilled_of_spaced size fits splitGap gap_spaced
    rw [place, length_pad short, pad_take_pad short] at seen
    rw [List.length_append, place, length_pad short] at seenGap
    rw [place, pad, List.drop_append, List.all_append, Bool.and_eq_true] at missing
    exact ⟨short, seen, missing.1, seenGap⟩

end

end

theorem marker_shape (screen : Screen) (row : Row) :
    (marker screen row).length = 2 ∧ Spaced (marker screen row) := by
  unfold marker
  split
  · exact ⟨rfl, pair_spaced (by decide)⟩
  · split
    · exact ⟨rfl, pair_spaced (by decide)⟩
    · exact ⟨rfl, gap_spaced⟩

theorem aligned_row {screen : Screen} {row : Row} (shown : row ∈ screen.rows) :
    Aligned (widths screen.cohorts) (marker screen row) (cells row.cohort)
      (entry (widths screen.cohorts) (marker screen row) (cells row.cohort)) := by
  obtain ⟨size, spaced⟩ := marker_shape screen row
  exact aligned_entry size (cells_fit (List.mem_map_of_mem shown)) spaced

/-- The width of a column is the greatest number of characters in its title and its cells. If one is
beyond 65535 there is no drawing. Otherwise the titles, the rule and one entry for each row, in the
order of the rows, are aligned to these widths, each row with its marker; in place of the rows of an
empty screen stands the remark that there are none. -/
theorem columns_align_unless_too_wide (screen : Screen) :
    let columnWidths := widths screen.cohorts
    List.Forall₂
        (fun column width => IsGreatest {count | count ∈ lengths screen.cohorts column} width)
        Column.all columnWidths ∧
      ((∃ width ∈ columnWidths, 65535 < width) ∧ render? screen = none ∨
        (∀ width ∈ columnWidths, width ≤ 65535) ∧
          ∃ titles dashes entries,
            render? screen =
                some (([titles, dashes] ++ (if screen.rows = [] then [noCohorts] else entries) ++
                  [[], statusLine screen.query] ++
                  (screen.error.map errorLine).toList).flatMap (· ++ ['\n'])) ∧
              Aligned columnWidths [' ', ' '] header titles ∧
              Aligned columnWidths [' ', ' '] (rule columnWidths) dashes ∧
              List.Forall₂
                (fun row shown =>
                  Aligned columnWidths
                    (if row.removing then ['-', ' ']
                      else if row.name ∈ screen.selected then ['*', ' '] else [' ', ' '])
                    (cells row.cohort) shown)
                screen.rows entries) := by
  intro columnWidths
  refine ⟨?_, ?_⟩
  · simp only [columnWidths, widths]
    rw [List.forall₂_map_right_iff, List.forall₂_same]
    exact fun column _ => is_greatest_width screen.cohorts column
  · by_cases narrow : ∀ width ∈ columnWidths, width ≤ 65535
    · have drawn : drawable screen = true :=
        List.all_eq_true.2 fun width member => decide_eq_true (narrow width member)
      refine .inr ⟨narrow, entry columnWidths gap header,
        entry columnWidths gap (rule columnWidths), rowEntries screen columnWidths, ?_,
        aligned_entry rfl (header_fits _) gap_spaced,
        aligned_entry rfl (rule_fits columnWidths) gap_spaced, ?_⟩
      · rw [render?, if_pos drawn]
        rfl
      · rw [rowEntries, List.forall₂_map_right_iff, List.forall₂_same]
        exact fun row shown => aligned_row shown
    · have wide : ∃ width ∈ columnWidths, 65535 < width := by
        simpa only [not_forall, Nat.not_le, exists_prop] using narrow
      have stuck : ¬drawable screen = true := by
        intro drawn
        refine narrow fun width member => ?_
        exact of_decide_eq_true (List.all_eq_true.1 drawn width member)
      exact .inl ⟨wide, if_neg stuck⟩

/-- A tab at the end of the last cell that shows is trimmed off and comes back as a space. -/
example :
    let cohort := { Cohort.named "acme" with kind := some "x\t" }
    let shown := entry (widths [cohort]) ['*', ' '] (cells cohort)
    String.ofList shown = "* acme               x" ∧
      window (refilled (widths [cohort]) shown) (start (widths [cohort]) 2) 4 =
        ['x', ' ', ' ', ' '] := by
  decide +kernel

end CohortDesk.Grid
