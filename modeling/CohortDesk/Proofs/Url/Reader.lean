import CohortDesk.Url.Reader
import CohortDesk.Proofs.Text.Percent

/-!
# URLs that were read

The URL of a special scheme has a path, and no segment of it holds a slash. So the text of the path
can be taken apart again: it tells the segments, and it ends with a slash exactly when the last of
them is empty.
-/

namespace CohortDesk

set_option autoImplicit false

open Text

namespace Url

/-- There is a path, and its segments are cut at every slash. -/
structure Segmented (url : Url) : Prop where
  path : url.path ≠ []
  whole : ∀ segment ∈ url.path, '/' ∉ segment

section Segments

variable {path segments : List (List Char)} {segment : List Char}

theorem not_mem_of_mem_splitOn {mark : Char} {text piece : List Char}
    (member : piece ∈ text.splitOn mark) : mark ∉ piece := by
  induction text generalizing piece with
  | nil =>
      rw [List.splitOn_nil, List.mem_singleton] at member
      rw [member]
      exact List.not_mem_nil
  | cons c rest ih =>
      rw [List.splitOn_cons_eq_if_modifyHead] at member
      split at member
      next =>
        rcases List.mem_cons.mp member with rfl | later
        · exact List.not_mem_nil
        · exact ih later
      next other =>
        obtain ⟨first, others, split⟩ := List.exists_cons_of_ne_nil (List.splitOn_ne_nil mark rest)
        rw [split, List.modifyHead_cons] at member
        rw [split] at ih
        rcases List.mem_cons.mp member with rfl | later
        · intro here
          rcases List.mem_cons.mp here with same | later
          · exact other (by rw [same, beq_self_eq_true])
          · exact ih List.mem_cons_self later
        · exact ih (List.mem_cons_of_mem _ later)

theorem mem_parent (member : segment ∈ parent path) : segment ∈ path := by
  unfold parent at member
  split at member
  next => exact member
  next => exact (List.dropLast_sublist path).subset member

theorem mem_enter {added : List Char} (member : segment ∈ enter false path added) :
    segment ∈ path ∨ segment = added := by
  unfold enter at member
  split at member
  next => exact .inl member
  next => exact .inl (mem_parent member)
  next =>
    rw [Bool.false_and, if_neg Bool.false_ne_true, List.mem_append, List.mem_singleton] at member
    exact member

/-- Dots leave an empty segment at the end. -/
theorem mem_enter_last {added : List Char} (member : segment ∈ enterLast false path added) :
    segment ∈ path ∨ segment = added ∨ segment = [] := by
  unfold enterLast at member
  split at member
  next =>
    rw [List.mem_append, List.mem_singleton] at member
    rcases member with before | empty
    · exact .inl before
    · exact .inr (.inr empty)
  next =>
    rw [List.mem_append, List.mem_singleton] at member
    rcases member with before | empty
    · exact .inl (mem_parent before)
    · exact .inr (.inr empty)
  next =>
    rcases mem_enter member with before | same
    · exact .inl before
    · exact .inr (.inl same)

theorem mem_of_segments (member : segment ∈ ofSegments false path segments) :
    segment ∈ path ∨ segment ∈ segments ∨ segment = [] := by
  induction segments generalizing path with
  | nil => exact .inl member
  | cons first rest ih =>
      cases rest with
      | nil =>
          rcases mem_enter_last member with before | rfl | empty
          · exact .inl before
          · exact .inr (.inl List.mem_cons_self)
          · exact .inr (.inr empty)
      | cons second others =>
          rcases ih member with entered | later | empty
          · rcases mem_enter entered with before | rfl
            · exact .inl before
            · exact .inr (.inl List.mem_cons_self)
          · exact .inr (.inl (List.mem_cons_of_mem _ later))
          · exact .inr (.inr empty)

theorem enter_last_ne_nil (isFile : Bool) (path : List (List Char)) (added : List Char) :
    enterLast isFile path added ≠ [] := by
  unfold enterLast
  split
  next => simp
  next => simp
  next notOne notTwo =>
    unfold enter
    split
    next one => exact absurd one notOne
    next two => exact absurd two notTwo
    next => simp

theorem of_segments_ne_nil (isFile : Bool) (path : List (List Char)) (first : List Char)
    (rest : List (List Char)) : ofSegments isFile path (first :: rest) ≠ [] := by
  induction rest generalizing path first with
  | nil => exact enter_last_ne_nil isFile path first
  | cons second others ih => exact ih (enter isFile path first) second

theorem read_path_ne_nil (family : Family) (text : List Char) : readPath family text ≠ [] := by
  unfold readPath
  obtain ⟨first, rest, split⟩ := List.exists_cons_of_ne_nil
    (List.splitOn_ne_nil '/' (text.map fun c => if isSeparator family c then '/' else c))
  simp only [split, List.map_cons]
  exact of_segments_ne_nil _ _ _ _

theorem slash_not_mem_read_path (port : UInt16) (text : List Char) :
    ∀ segment ∈ readPath (.special port) text, '/' ∉ segment := by
  intro segment member
  have noFile : (Family.special port == .file) = false := rfl
  unfold readPath at member
  rw [noFile] at member
  rcases mem_of_segments member with absent | written | rfl
  · cases absent
  · obtain ⟨piece, cut, rfl⟩ := List.mem_map.mp written
    intro slash
    exact not_mem_of_mem_splitOn cut (Percent.mem_of_mem_encode (by decide) (by decide) slash).1
  · exact List.not_mem_nil

end Segments

theorem bind_eq_ok {α β : Type} {first : Except Fault α} {next : α → Except Fault β} {result : β}
    (run : first >>= next = .ok result) : ∃ value, first = .ok value ∧ next value = .ok result := by
  cases first with
  | error fault => cases run
  | ok value => exact ⟨value, rfl, run⟩

theorem segmented_of_read {text : List Char} {url : Url} {port : UInt16}
    (found : read text = .ok url) (special : familyOf url.scheme = .special port) :
    url.Segmented := by
  unfold read at found
  obtain ⟨⟨scheme, rest⟩, -, found⟩ := bind_eq_ok found
  dsimp only at found
  -- Only the second way of reading is that of a special scheme.
  split at found
  next isFile =>
    obtain ⟨⟨host, path⟩, -, found⟩ := bind_eq_ok found
    cases found
    rw [isFile] at special
    cases special
  next family =>
    obtain ⟨⟨owner, path⟩, -, found⟩ := bind_eq_ok found
    cases found
    rw [family]
    exact ⟨read_path_ne_nil _ _, slash_not_mem_read_path _ _⟩
  next plain _ =>
    obtain ⟨⟨owner, path⟩, -, found⟩ := bind_eq_ok found
    cases found
    rw [plain] at special
    cases special
  next plain _ =>
    cases found
    rw [plain] at special
    cases special
  next => cases found

section PathText

variable {path : List (List Char)}

theorem splitOn_append_path_text (segment : List Char) (here : '/' ∉ segment)
    (whole : ∀ segment ∈ path, '/' ∉ segment) :
    (segment ++ pathText path).splitOn '/' = segment :: path := by
  induction path generalizing segment with
  | nil =>
      rw [pathText, List.flatMap_nil, List.append_nil, List.splitOn_eq_singleton here]
  | cons first rest ih =>
      have later := ih first (whole first List.mem_cons_self)
        fun other member => whole other (List.mem_cons_of_mem _ member)
      rw [pathText, List.flatMap_cons, List.cons_append,
        List.splitOn_append_cons_self_of_not_mem here, ← pathText, later]

/-- The text of a path tells its segments. -/
theorem path_text_inj {other : List (List Char)} (whole : ∀ segment ∈ path, '/' ∉ segment)
    (wholeOther : ∀ segment ∈ other, '/' ∉ segment) (same : pathText path = pathText other) :
    path = other := by
  have here := splitOn_append_path_text [] List.not_mem_nil whole
  have there := splitOn_append_path_text [] List.not_mem_nil wholeOther
  rw [same, there] at here
  exact (List.cons.inj here).2.symm

theorem path_text_concat (path : List (List Char)) (last : List Char) :
    pathText (path ++ [last]) = pathText path ++ '/' :: last := by
  rw [pathText, List.flatMap_append, List.flatMap_singleton, ← pathText]

/-- The text ends with a slash exactly when the last segment is empty. -/
theorem getLast?_path_text_concat {last : List Char} (path : List (List Char))
    (whole : '/' ∉ last) : (pathText (path ++ [last])).getLast? = some '/' ↔ last = [] := by
  rw [path_text_concat, List.getLast?_append, List.getLast?_cons, Option.some_or]
  cases ends : last.getLast? with
  | none => simpa using List.getLast?_eq_none_iff.mp ends
  | some c =>
      have inside := List.mem_of_getLast? ends
      have other : c ≠ '/' := fun same => whole (same ▸ inside)
      simp [other, List.ne_nil_of_mem inside]

end PathText

end Url

end CohortDesk
