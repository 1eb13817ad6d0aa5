import CohortDesk.Screen.Basic
import Mathlib.Data.List.Induction
import Mathlib.Data.List.Nodup

/-!
# Reports of removals in any order

A report on a removal touches the first row of its kind and nothing of another name. So the reports
on different names can be applied in any order; the only trace of the order is the error, which the
last failure among them leaves.
-/

namespace CohortDesk

set_option autoImplicit false

/-- The end of a removal: its confirmation, or its failure with a notice. -/
structure RemovalReport where
  name : CohortName
  failure : Option Notice
  deriving DecidableEq

namespace RemovalReport

def event : RemovalReport → Event
  | ⟨name, none⟩ => .removed name
  | ⟨name, some notice⟩ => .removeFailed name notice

/-- The kind of row that the report takes away or unmarks. -/
def concerns (report : RemovalReport) (row : Row) : Bool :=
  row.name == report.name && (report.failure.isNone || row.removing)

/-- What is left of a row that the report concerns. -/
def remainder (report : RemovalReport) (row : Row) : Option Row :=
  report.failure.map fun _ => { row with removing := false }

/-- The message of the last failure among the reports. -/
def lastFailure (reports : List RemovalReport) : Option String :=
  (reports.filterMap (·.failure)).getLast?.map (·.message)

theorem concerns_name {report : RemovalReport} {row : Row}
    (concerned : report.concerns row = true) : row.name = report.name := by
  have both := Bool.and_eq_true_iff.1 concerned
  exact beq_iff_eq.1 both.1

theorem concerns_of_ne {report : RemovalReport} {row : Row} (other : row.name ≠ report.name) :
    report.concerns row = false := by
  rw [Bool.eq_false_iff]
  exact fun concerned => other (concerns_name concerned)

theorem remainder_name {report : RemovalReport} {row left : Row}
    (remains : left ∈ report.remainder row) : left.name = row.name := by
  obtain ⟨notice, -, rfl⟩ := Option.map_eq_some_iff.1 remains
  rfl

theorem last_failure_concat (reports : List RemovalReport) (last : RemovalReport) :
    lastFailure (reports ++ [last]) =
      (last.failure.map (·.message)).or (lastFailure reports) := by
  unfold lastFailure
  cases failed : last.failure with
  | none => simp [failed]
  | some notice => simp [failed]

end RemovalReport

theorem NameSet.erase_comm (first second : CohortName) (set : NameSet) :
    (set.erase first).erase second = (set.erase second).erase first := by
  unfold NameSet.erase
  congr 1
  exact List.filter_comm _ _ _

namespace Screen

/-- Puts what is left of it in the place of the first row that qualifies. -/
def reduceFirst (qualifies : Row → Bool) (reduce : Row → Option Row) : List Row → List Row
  | [] => []
  | row :: rest =>
    if qualifies row then (reduce row).toList ++ rest
    else row :: reduceFirst qualifies reduce rest

theorem eraseP_eq_reduce_first (qualifies : Row → Bool) (rows : List Row) :
    rows.eraseP qualifies = reduceFirst qualifies (fun _ => none) rows := by
  induction rows with
  | nil => rfl
  | cons row rest ih =>
      cases here : qualifies row with
      | true => simp [reduceFirst, here]
      | false => simp [reduceFirst, here, ih]

theorem change_first_eq_reduce_first (qualifies : Row → Bool) (change : Row → Row)
    (rows : List Row) :
    changeFirst qualifies change rows =
      reduceFirst qualifies (fun row => some (change row)) rows := by
  induction rows with
  | nil => rfl
  | cons row rest ih =>
      simp only [changeFirst, reduceFirst, ih, Option.toList_some, List.singleton_append]

/-- Rows that qualify for one reduction do not qualify for the other, and neither does what is left
of them, so the two never meet in a row. -/
theorem reduce_first_comm {one other : Row → Bool} {reduceOne reduceOther : Row → Option Row}
    (apart : ∀ row, one row = true → other row = false)
    (leftByOne : ∀ row, one row = true → ∀ left ∈ reduceOne row, other left = false)
    (leftByOther : ∀ row, other row = true → ∀ left ∈ reduceOther row, one left = false)
    (rows : List Row) :
    reduceFirst other reduceOther (reduceFirst one reduceOne rows) =
      reduceFirst one reduceOne (reduceFirst other reduceOther rows) := by
  induction rows with
  | nil => rfl
  | cons row rest ih =>
      cases forOne : one row with
      | true =>
          have notOther := apart row forOne
          cases remains : reduceOne row with
          | none => simp [reduceFirst, forOne, notOther, remains]
          | some left =>
              have spared := leftByOne row forOne left remains
              simp [reduceFirst, forOne, notOther, remains, spared]
      | false =>
          cases forOther : other row with
          | true =>
              cases remains : reduceOther row with
              | none => simp [reduceFirst, forOne, forOther, remains]
              | some left =>
                  have spared := leftByOther row forOther left remains
                  simp [reduceFirst, forOne, forOther, remains, spared]
          | false => simp [reduceFirst, forOne, forOther, ih]

/-- What a report does to the screen, the error apart. -/
def acknowledge (screen : Screen) (report : RemovalReport) : Screen :=
  { screen with
    removing := screen.removing.erase report.name
    selected :=
      if report.failure.isNone then screen.selected.erase report.name else screen.selected
    rows := reduceFirst report.concerns report.remainder screen.rows }

theorem apply_report (screen : Screen) (report : RemovalReport) :
    screen.apply report.event =
      { screen.acknowledge report with
        error := (report.failure.map (·.message)).or screen.error } := by
  obtain ⟨name, failure⟩ := report
  cases failure with
  | none =>
      have named : RemovalReport.concerns ⟨name, none⟩ = fun row => row.name == name := by
        funext row
        simp [RemovalReport.concerns]
      simp only [RemovalReport.event, apply, acknowledge, named, eraseP_eq_reduce_first]
      rfl
  | some notice =>
      simp only [RemovalReport.event, apply, acknowledge, change_first_eq_reduce_first]
      rfl

section

variable {first second : RemovalReport}

theorem reduce_first_reports_comm (distinct : first.name ≠ second.name) (rows : List Row) :
    reduceFirst second.concerns second.remainder
        (reduceFirst first.concerns first.remainder rows) =
      reduceFirst first.concerns first.remainder
        (reduceFirst second.concerns second.remainder rows) := by
  refine reduce_first_comm ?_ ?_ ?_ rows
  · intro row ofFirst
    apply RemovalReport.concerns_of_ne
    rw [RemovalReport.concerns_name ofFirst]
    exact distinct
  · intro row ofFirst left remains
    apply RemovalReport.concerns_of_ne
    rw [RemovalReport.remainder_name remains, RemovalReport.concerns_name ofFirst]
    exact distinct
  · intro row ofSecond left remains
    apply RemovalReport.concerns_of_ne
    rw [RemovalReport.remainder_name remains, RemovalReport.concerns_name ofSecond]
    exact distinct.symm

theorem acknowledge_comm (distinct : first.name ≠ second.name) (screen : Screen) :
    (screen.acknowledge first).acknowledge second =
      (screen.acknowledge second).acknowledge first := by
  have removing := NameSet.erase_comm first.name second.name screen.removing
  have selected := NameSet.erase_comm first.name second.name screen.selected
  have rows := reduce_first_reports_comm distinct screen.rows
  unfold acknowledge
  cases first.failure.isNone <;> cases second.failure.isNone <;>
    simp only [removing, selected, rows, if_true, if_false, Bool.false_eq_true]

end

theorem apply_all_reports (screen : Screen) (reports : List RemovalReport) :
    screen.applyAll (reports.map RemovalReport.event) =
      { reports.foldl acknowledge screen with
        error := (RemovalReport.lastFailure reports).or screen.error } := by
  induction reports using List.reverseRecOn with
  | nil => rfl
  | append_singleton earlier last ih =>
      have step :
          screen.applyAll ((earlier ++ [last]).map RemovalReport.event) =
            (screen.applyAll (earlier.map RemovalReport.event)).apply last.event := by
        rw [List.map_append, applyAll, List.foldl_append]
        rfl
      rw [step, ih, apply_report, RemovalReport.last_failure_concat, Option.or_assoc,
        List.foldl_append]
      rfl

/-- However the reports on removals of different names are ordered, they leave the same rows with
the same marks, the same selection, the same removals in flight and the same of all else but the
error, which is that of the last failure in the order applied, or as it was without a failure. -/
theorem removal_reports_end_alike (screen : Screen) {reports reordered : List RemovalReport}
    (distinct : (reports.map (·.name)).Nodup) (same : reordered.Perm reports) :
    screen.applyAll (reordered.map RemovalReport.event) =
      { screen.applyAll (reports.map RemovalReport.event) with
        error := (RemovalReport.lastFailure reordered).or screen.error } := by
  have commute :
      ∀ first ∈ reports, ∀ second ∈ reports, ∀ current : Screen,
        (current.acknowledge first).acknowledge second =
          (current.acknowledge second).acknowledge first := by
    intro first isFirst second isSecond current
    by_cases equal : first = second
    · rw [equal]
    · refine acknowledge_comm (fun named => equal ?_) current
      exact List.inj_on_of_nodup_map distinct isFirst isSecond named
  have effects : reordered.foldl acknowledge screen = reports.foldl acknowledge screen :=
    (same.symm.foldl_eq' commute screen).symm
  rw [apply_all_reports, apply_all_reports, effects]

/-- Of three rows of one name the first goes and the others keep their marks, whether its removal is
confirmed before or after those of two other names have failed. -/
theorem repeated_name_is_removed_between_failures :
    let rows : List Row :=
      [⟨.named "b", true⟩, ⟨.named "a", true⟩, ⟨.named "a", false⟩, ⟨.named "a", true⟩]
    let removing := ((NameSet.empty.insert "a").insert "b").insert "c"
    let screen := { blank .standard with rows, removing, selected := removing }
    let reports : List RemovalReport :=
      [⟨"a", none⟩, ⟨"b", some ⟨.removal, "in use"⟩⟩, ⟨"c", some ⟨.removal, "lost"⟩⟩]
    let reordered : List RemovalReport :=
      [⟨"c", some ⟨.removal, "lost"⟩⟩, ⟨"a", none⟩, ⟨"b", some ⟨.removal, "in use"⟩⟩]
    (reports.map (·.name)).Nodup ∧ reordered.Perm reports ∧
      screen.applyAll (reports.map RemovalReport.event) =
        { blank .standard with
          rows := [⟨.named "b", false⟩, ⟨.named "a", false⟩, ⟨.named "a", true⟩]
          selected := (NameSet.empty.insert "b").insert "c"
          error := some "lost" } ∧
      screen.applyAll (reordered.map RemovalReport.event) =
        { blank .standard with
          rows := [⟨.named "b", false⟩, ⟨.named "a", false⟩, ⟨.named "a", true⟩]
          selected := (NameSet.empty.insert "b").insert "c"
          error := some "in use" } := by
  intro rows removing screen reports reordered
  have distinct : (reports.map (·.name)).Nodup := by decide
  have same : reordered.Perm reports := by decide
  have applied :
      screen.applyAll (reports.map RemovalReport.event) =
        { blank .standard with
          rows := [⟨.named "b", false⟩, ⟨.named "a", false⟩, ⟨.named "a", true⟩]
          selected := (NameSet.empty.insert "b").insert "c"
          error := some "lost" } := by
    decide +kernel
  refine ⟨distinct, same, applied, ?_⟩
  rw [removal_reports_end_alike screen distinct same, applied]
  rfl

end Screen

end CohortDesk
