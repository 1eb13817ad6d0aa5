import CohortDesk.Proofs.Desk.Run

/-!
# Rows of a desk

The first row of a kind, and what a move of a desk can do to its rows and to the names being
removed. `RowEffect` says the latter once, together with the listing that the move makes the desk
show; every invariant of the rows is derived from it.
-/

namespace CohortDesk

set_option autoImplicit false

namespace Screen

structure First (qualifies : Row → Bool) (rows before : List Row) (row : Row) (after : List Row) :
    Prop where
  split : rows = before ++ row :: after
  here : qualifies row = true
  earlier : ∀ other ∈ before, qualifies other = false

variable {qualifies : Row → Bool} {rows before after : List Row} {row : Row}

theorem exists_first (qualifies : Row → Bool) (member : row ∈ rows)
    (here : qualifies row = true) :
    ∃ before found after, First qualifies rows before found after := by
  have present : (rows.find? qualifies).isSome = true :=
    List.find?_isSome.mpr ⟨row, member, here⟩
  obtain ⟨found, isFound⟩ := Option.isSome_iff_exists.mp present
  obtain ⟨qualified, before, after, split, earlier⟩ := List.find?_eq_some_iff_append.mp isFound
  refine ⟨before, found, after, split, qualified, ?_⟩
  intro other isEarlier
  simpa using earlier other isEarlier

theorem first_or_none (qualifies : Row → Bool) (rows : List Row) :
    (∃ before found after, First qualifies rows before found after) ∨
      ∀ row ∈ rows, qualifies row = false := by
  by_cases present : ∃ row ∈ rows, qualifies row = true
  · obtain ⟨row, member, here⟩ := present
    exact .inl (exists_first qualifies member here)
  · refine .inr fun row member => ?_
    rw [Bool.eq_false_iff]
    exact fun here => present ⟨row, member, here⟩

theorem First.eraseP (first : First qualifies rows before row after) :
    rows.eraseP qualifies = before ++ after := by
  obtain ⟨rfl, here, earlier⟩ := first
  have spared : ∀ other ∈ before, ¬qualifies other = true := by
    intro other member
    rw [earlier other member]
    exact Bool.false_ne_true
  rw [List.eraseP_append_right _ spared, List.eraseP_cons_of_pos here]

theorem First.change_first (first : First qualifies rows before row after) (change : Row → Row) :
    changeFirst qualifies change rows = before ++ change row :: after := by
  obtain ⟨rfl, here, earlier⟩ := first
  induction before with
  | nil =>
      rw [List.nil_append, List.nil_append, Screen.changeFirst, if_pos here]
  | cons other rest ih =>
      have spared := earlier other (List.mem_cons_self ..)
      have later := ih fun next member => earlier next (List.mem_cons_of_mem _ member)
      rw [List.cons_append, List.cons_append, Screen.changeFirst, spared,
        if_neg Bool.false_ne_true, later]

theorem eraseP_of_none (none : ∀ row ∈ rows, qualifies row = false) :
    rows.eraseP qualifies = rows := by
  apply List.eraseP_of_forall_not
  intro row member
  rw [none row member]
  exact Bool.false_ne_true

theorem change_first_of_none (none : ∀ row ∈ rows, qualifies row = false) (change : Row → Row) :
    changeFirst qualifies change rows = rows := by
  induction rows with
  | nil => rfl
  | cons row rest ih =>
      have spared := none row List.mem_cons_self
      have later := ih fun other member => none other (List.mem_cons_of_mem _ member)
      rw [Screen.changeFirst, spared, if_neg Bool.false_ne_true, later]

/-- A change of marks changes no cohort. -/
theorem cohorts_change_first {change : Row → Row} (keeps : ∀ row, (change row).cohort = row.cohort)
    (qualifies : Row → Bool) (rows : List Row) :
    (changeFirst qualifies change rows).map Row.cohort = rows.map Row.cohort := by
  induction rows with
  | nil => rfl
  | cons row rest ih =>
      simp only [changeFirst]
      split
      · simp only [List.map_cons, keeps]
      · simp only [List.map_cons, ih]

/-- Everything a move can do to the rows and to the names being removed. The option is the listing
that the move makes the desk show. -/
inductive RowEffect (screen : Screen) : Option (List Cohort) → List Row → NameSet → Prop
  | kept : RowEffect screen none screen.rows screen.removing
  | listed (cohorts : List Cohort) :
      RowEffect screen (some cohorts)
        (cohorts.map fun cohort => ⟨cohort, decide (cohort.name ∈ screen.removing)⟩)
        screen.removing
  | marked (name : CohortName) :
      RowEffect screen none
        (changeFirst (·.name == name) (fun row => { row with removing := true }) screen.rows)
        (screen.removing.insert name)
  | confirmed (name : CohortName) :
      RowEffect screen none (screen.rows.eraseP (·.name == name)) (screen.removing.erase name)
  | failed (name : CohortName) :
      RowEffect screen none
        (changeFirst (fun row => row.name == name && row.removing)
          (fun row => { row with removing := false }) screen.rows)
        (screen.removing.erase name)
  | released :
      RowEffect screen none (screen.rows.map fun row => { row with removing := false }) .empty

end Screen

namespace Desk

/-- The listing that a move makes the desk show. -/
def listed? (desk : Desk) : DeskMove → Option (List Cohort)
  | .apply (.loaded request cohorts) => if desk.screen.awaits request then some cohorts else none
  | _ => none

/-- The listings shown in the course of a run, in their order. -/
def listings (desk : Desk) : List DeskMove → List (List Cohort)
  | [] => []
  | next :: rest => (desk.listed? next).toList ++ (desk.move next).listings rest

theorem Effect.rows {desk after : Desk} {retrieves : Bool}
    (effect : Effect desk retrieves after) :
    desk.screen.RowEffect none after.screen.rows after.screen.removing := by
  cases effect with
  | edited => exact .kept
  | requested => exact .kept
  | declined => exact .kept
  | marked name => exact .marked name
  | unmarked => exact .kept

theorem apply_rows (desk : Desk) (event : Event) :
    desk.screen.RowEffect (desk.listed? (.apply event)) (desk.screen.apply event).rows
      (desk.screen.apply event).removing := by
  cases event with
  | loaded request cohorts =>
      simp only [listed?, Screen.apply]
      split
      · exact .listed cohorts
      · exact .kept
  | loadFailed request notice =>
      simp only [listed?, Screen.apply]
      split <;> exact .kept
  | removed name => exact .confirmed name
  | removeFailed name notice => exact .failed name
  | workerFailed notice => exact .released

theorem move_rows (desk : Desk) (next : DeskMove) :
    desk.screen.RowEffect (desk.listed? next) (desk.move next).screen.rows
      (desk.move next).screen.removing := by
  cases next with
  | gesture made => exact (perform_effect desk made).rows
  | apply event => exact apply_rows desk event
  | await => exact .kept
  | take =>
      rw [take_screen]
      exact .kept
  | disconnect => exact .kept

theorem start_rows (queue : CommandQueue) (options : ViewOptions) :
    (start queue options).screen.rows = [] := by
  simp only [start, fetch, Screen.blank]
  split <;> rfl

theorem listings_cons_eq_nil {desk : Desk} {next : DeskMove} {rest : List DeskMove}
    (quiet : desk.listings (next :: rest) = []) :
    desk.listed? next = none ∧ (desk.move next).listings rest = [] := by
  obtain ⟨here, later⟩ := List.append_eq_nil_iff.1 quiet
  exact ⟨Option.toList_eq_nil_iff.1 here, later⟩

end Desk

end CohortDesk
