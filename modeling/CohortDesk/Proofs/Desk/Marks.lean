import CohortDesk.Proofs.Desk.Rows
import Mathlib.Data.List.Nodup

/-!
# Removal marks

A removal in flight is noted twice: by the mark on a row and by the name in a set that outlives the
rows. The two agree over every run in which no listing shows a name twice. A listing that repeats a
name under removal breaks the agreement, because it marks every row of the name and the answer
releases one.
-/

namespace CohortDesk

set_option autoImplicit false

/-- Marks stand on names under removal only, and on the first row of a name only. -/
structure Tidy (rows : List Row) (removing : NameSet) : Prop where
  held : ∀ row ∈ rows, row.removing = true → row.name ∈ removing
  leading : rows.Pairwise fun earlier later =>
    later.removing = true → earlier.name ≠ later.name

/-- The marked rows are those of the names under removal, and no two rows share a name. -/
structure Exact (rows : List Row) (removing : NameSet) : Prop where
  distinct : (rows.map Row.name).Nodup
  marks : ∀ row ∈ rows, row.removing = true ↔ row.name ∈ removing

namespace Tidy

variable {rows : List Row} {removing : NameSet} {name : CohortName}

theorem nil (removing : NameSet) : Tidy [] removing :=
  ⟨fun _ member => absurd member List.not_mem_nil, .nil⟩

/-- A mark never stands behind another row of the same name. -/
theorem behind {before after : List Row} {row : Row}
    (leading : (before ++ row :: after).Pairwise fun earlier later =>
      later.removing = true → earlier.name ≠ later.name) {other : Row}
    (member : other ∈ before ++ after) (here : ∀ earlier ∈ before, earlier.removing = true →
      earlier.name ≠ row.name) (marked : other.removing = true) : other.name ≠ row.name := by
  rcases List.mem_append.1 member with earlier | later
  · exact here other earlier marked
  · have tail := (List.pairwise_append.1 leading).2.1
    exact ((List.pairwise_cons.1 tail).1 other later marked).symm

/-- A row may be marked if it is the first of its name, and may always be released. -/
theorem remark {before after : List Row} {row : Row}
    (leading : (before ++ row :: after).Pairwise fun earlier later =>
      later.removing = true → earlier.name ≠ later.name) {marks : Bool}
    (first : marks = true → ∀ earlier ∈ before, earlier.name ≠ row.name) :
    (before ++ { row with removing := marks } :: after).Pairwise fun earlier later =>
      later.removing = true → earlier.name ≠ later.name := by
  simp only [List.pairwise_append, List.pairwise_cons, List.mem_cons] at leading ⊢
  obtain ⟨pairsBefore, pairsAfter, across⟩ := leading
  refine ⟨pairsBefore, pairsAfter, ?_⟩
  rintro earlier isEarlier later (rfl | isLater) marked
  · exact first marked earlier isEarlier
  · exact across earlier isEarlier later (.inr isLater) marked

theorem mark (tidy : Tidy rows removing) (name : CohortName) :
    Tidy (Screen.changeFirst (·.name == name) (fun row => { row with removing := true }) rows)
      (removing.insert name) := by
  rcases Screen.first_or_none (·.name == name) rows with ⟨before, row, after, first⟩ | absent
  · obtain ⟨held, leading⟩ := tidy
    have named : row.name = name := beq_iff_eq.1 first.here
    have ahead (other : Row) (member : other ∈ before) : other.name ≠ row.name := by
      rw [named]
      exact beq_eq_false_iff_ne.1 (first.earlier other member)
    rw [first.change_first]
    rw [first.split] at held leading
    constructor
    · intro other member marked
      rw [NameSet.mem_insert]
      rcases List.mem_append.1 member with earlier | later
      · exact .inr (held other (List.mem_append_left _ earlier) marked)
      · rcases List.mem_cons.1 later with rfl | later
        · exact .inl named
        · exact .inr (held other (List.mem_append_right _ (.tail _ later)) marked)
    · exact remark leading fun _ => ahead
  · rw [Screen.change_first_of_none absent]
    refine ⟨fun row member marked => ?_, tidy.leading⟩
    exact NameSet.mem_insert.2 (.inr (tidy.held row member marked))

theorem drop (tidy : Tidy rows removing) (name : CohortName) :
    Tidy (rows.eraseP (·.name == name)) (removing.erase name) := by
  constructor
  · intro other member marked
    refine NameSet.mem_erase.2 ⟨tidy.held other (List.mem_of_mem_eraseP member) marked, ?_⟩
    rcases Screen.first_or_none (·.name == name) rows with ⟨before, row, after, first⟩ | absent
    · rw [first.eraseP] at member
      have leading := first.split ▸ tidy.leading
      have named : row.name = name := beq_iff_eq.1 first.here
      rw [← named]
      refine behind leading member (fun earlier isEarlier _ => ?_) marked
      rw [named]
      exact beq_eq_false_iff_ne.1 (first.earlier earlier isEarlier)
    · exact beq_eq_false_iff_ne.1 (absent other (List.mem_of_mem_eraseP member))
  · exact tidy.leading.sublist List.eraseP_sublist

theorem unmark (tidy : Tidy rows removing) (name : CohortName) :
    Tidy (Screen.changeFirst (fun row => row.name == name && row.removing)
      (fun row => { row with removing := false }) rows) (removing.erase name) := by
  rcases Screen.first_or_none (fun row => row.name == name && row.removing) rows with
    ⟨before, row, after, first⟩ | absent
  · obtain ⟨held, leading⟩ := tidy
    have both := first.here
    rw [Bool.and_eq_true, beq_iff_eq] at both
    have ahead (other : Row) (member : other ∈ before) (marked : other.removing = true) :
        other.name ≠ row.name := by
      have spared := first.earlier other member
      rw [marked, Bool.and_true] at spared
      rw [both.1]
      exact beq_eq_false_iff_ne.1 spared
    rw [first.change_first]
    rw [first.split] at held leading
    constructor
    · intro other member marked
      have kept : other ∈ before ++ after := by
        rcases List.mem_append.1 member with earlier | later
        · exact List.mem_append_left _ earlier
        · rcases List.mem_cons.1 later with rfl | later
          · cases marked
          · exact List.mem_append_right _ later
      have within : other ∈ before ++ row :: after :=
        (List.sublist_cons_self row after).append_left before |>.subset kept
      refine NameSet.mem_erase.2 ⟨held other within marked, ?_⟩
      rw [← both.1]
      exact behind leading kept ahead marked
    · exact remark leading fun marked => nomatch marked
  · rw [Screen.change_first_of_none absent]
    refine ⟨fun row member marked => ?_, tidy.leading⟩
    have other := absent row member
    rw [marked, Bool.and_true] at other
    exact NameSet.mem_erase.2 ⟨tidy.held row member marked, beq_eq_false_iff_ne.1 other⟩

theorem release (rows : List Row) :
    Tidy (rows.map fun row => { row with removing := false }) .empty := by
  constructor
  · intro row member marked
    obtain ⟨_, _, rfl⟩ := List.mem_map.1 member
    cases marked
  · rw [List.pairwise_map]
    exact List.pairwise_of_forall fun _ _ marked => nomatch marked

/-- A new listing marks all rows of a name under removal, so it must show each such name once. -/
theorem listed {cohorts : List Cohort}
    (single : ∀ name ∈ removing, (cohorts.map Cohort.name).count name ≤ 1) :
    Tidy (cohorts.map fun cohort => ⟨cohort, decide (cohort.name ∈ removing)⟩) removing := by
  constructor
  · intro row member marked
    obtain ⟨cohort, _, rfl⟩ := List.mem_map.1 member
    exact of_decide_eq_true marked
  · rw [List.pairwise_map]
    induction cohorts with
    | nil => exact .nil
    | cons first rest ih =>
        refine List.pairwise_cons.2 ⟨fun later member marked same => ?_, ih fun name held => ?_⟩
        · change first.name = later.name at same
          have held : later.name ∈ removing := of_decide_eq_true marked
          have twice := single later.name held
          rw [List.map_cons, same, List.count_cons_self] at twice
          have again : later.name ∈ rest.map Cohort.name := List.mem_map_of_mem member
          have present := List.count_pos_iff.2 again
          omega
        · have bound := single name held
          rw [List.map_cons] at bound
          exact Nat.le_trans List.count_le_count_cons bound

end Tidy

namespace Screen

variable {screen : Screen} {rows : List Row} {removing : NameSet} {name : CohortName}

/-- Where names are distinct, the first row of a name is the only one. -/
theorem change_first_of_distinct {qualifies : Row → Bool}
    (named : ∀ row, qualifies row = true → row.name = name) (change : Row → Row)
    (distinct : (rows.map Row.name).Nodup) :
    changeFirst qualifies change rows =
      rows.map fun row => if qualifies row = true then change row else row := by
  induction rows with
  | nil => rfl
  | cons row rest ih =>
      obtain ⟨absent, later⟩ := List.nodup_cons.1 distinct
      rw [changeFirst, List.map_cons]
      by_cases here : qualifies row = true
      · have others : rest.map (fun row => if qualifies row = true then change row else row) =
            rest := by
          refine (List.map_congr_left fun other member => if_neg fun there => ?_).trans
            (List.map_id rest)
          refine absent (List.mem_map.2 ⟨other, member, ?_⟩)
          rw [named other there, named row here]
        rw [if_pos here, if_pos here, others]
      · rw [if_neg here, if_neg here, ih later]

theorem eraseP_of_distinct (name : CohortName) (distinct : (rows.map Row.name).Nodup) :
    rows.eraseP (·.name == name) = rows.filter (·.name ≠ name) := by
  induction rows with
  | nil => rfl
  | cons row rest ih =>
      obtain ⟨absent, later⟩ := List.nodup_cons.1 distinct
      by_cases here : row.name = name
      · have others : rest.filter (·.name ≠ name) = rest := by
          rw [List.filter_eq_self]
          intro other member
          rw [decide_eq_true_iff]
          intro there
          exact absent (List.mem_map.2 ⟨other, member, there.trans here.symm⟩)
        rw [List.eraseP_cons_of_pos (by simp [here]), List.filter_cons_of_neg (by simp [here]),
          others]
      · rw [List.eraseP_cons_of_neg (by simp [here]), List.filter_cons_of_pos (by simp [here]),
          ih later]

theorem names_change_first {change : Row → Row} (keeps : ∀ row, (change row).cohort = row.cohort)
    (qualifies : Row → Bool) (rows : List Row) :
    (changeFirst qualifies change rows).map Row.name = rows.map Row.name := by
  have cohorts := congrArg (List.map Cohort.name) (cohorts_change_first keeps qualifies rows)
  rwa [List.map_map, List.map_map] at cohorts

theorem RowEffect.tidy {listing : Option (List Cohort)}
    (effect : screen.RowEffect listing rows removing)
    (single : ∀ cohorts ∈ listing, ∀ name ∈ screen.removing,
      (cohorts.map Cohort.name).count name ≤ 1)
    (tidy : Tidy screen.rows screen.removing) : Tidy rows removing := by
  cases effect with
  | kept => exact tidy
  | listed cohorts => exact Tidy.listed (single cohorts rfl)
  | marked name => exact tidy.mark name
  | confirmed name => exact tidy.drop name
  | failed name => exact tidy.unmark name
  | released => exact Tidy.release screen.rows

theorem RowEffect.exact {listing : Option (List Cohort)}
    (effect : screen.RowEffect listing rows removing)
    (distinct : ∀ cohorts ∈ listing, (cohorts.map Cohort.name).Nodup)
    (exact : Exact screen.rows screen.removing) : Exact rows removing := by
  obtain ⟨names, marks⟩ := exact
  cases effect with
  | kept => exact ⟨names, marks⟩
  | listed cohorts =>
      constructor
      · rw [List.map_map]
        exact distinct cohorts rfl
      · intro row member
        obtain ⟨cohort, _, rfl⟩ := List.mem_map.1 member
        exact decide_eq_true_iff
  | marked name =>
      constructor
      · rw [names_change_first fun row => by rfl]
        exact names
      · rw [change_first_of_distinct (fun _ => beq_iff_eq.1) _ names]
        intro row member
        obtain ⟨old, present, rfl⟩ := List.mem_map.1 member
        by_cases here : old.name = name
        · rw [if_pos (beq_iff_eq.2 here), NameSet.mem_insert]
          exact ⟨fun _ => .inl here, fun _ => rfl⟩
        · rw [if_neg (by simp [here]), NameSet.mem_insert, marks old present]
          exact ⟨.inr, fun known => known.resolve_left here⟩
  | confirmed name =>
      constructor
      · exact names.sublist (List.eraseP_sublist.map Row.name)
      · rw [eraseP_of_distinct name names]
        intro row member
        obtain ⟨present, other⟩ := List.mem_filter.1 member
        rw [marks row present, NameSet.mem_erase]
        exact ⟨fun held => ⟨held, of_decide_eq_true other⟩, And.left⟩
  | failed name =>
      constructor
      · rw [names_change_first fun row => by rfl]
        exact names
      · rw [change_first_of_distinct (fun row both => (by simpa using both : _ ∧ _).1) _ names]
        intro row member
        obtain ⟨old, present, rfl⟩ := List.mem_map.1 member
        by_cases here : old.name = name
        · by_cases marked : old.removing = true <;> simp [Row.name, here, marked]
        · simp [here, marks old present]
  | released =>
      constructor
      · rw [List.map_map]
        exact names
      · intro row member
        obtain ⟨old, _, rfl⟩ := List.mem_map.1 member
        simp

end Screen

namespace Desk

theorem run_exact {desk : Desk} (exact : Exact desk.screen.rows desk.screen.removing)
    {moves : List DeskMove}
    (distinct : ∀ cohorts ∈ desk.listings moves, (cohorts.map Cohort.name).Nodup) :
    Exact (desk.run moves).screen.rows (desk.run moves).screen.removing := by
  induction moves generalizing desk with
  | nil => exact exact
  | cons next rest ih =>
      have here (cohorts : List Cohort) (shown : cohorts ∈ desk.listed? next) :
          (cohorts.map Cohort.name).Nodup :=
        distinct cohorts (List.mem_append_left _ (Option.mem_toList.2 shown))
      have later (cohorts : List Cohort) (shown : cohorts ∈ (desk.move next).listings rest) :
          (cohorts.map Cohort.name).Nodup :=
        distinct cohorts (List.mem_append_right _ shown)
      exact ih ((desk.move_rows next).exact here exact) later

/-- As long as no listing shows a name twice, a row is marked exactly while its name is under
removal, through reloads, failures, refusals by the queue and failures of the worker. -/
theorem marked_exactly_while_removed (queue : CommandQueue) (options : ViewOptions)
    (moves : List DeskMove)
    (distinct : ∀ cohorts ∈ (start queue options).listings moves,
      (cohorts.map Cohort.name).Nodup) :
    let screen := ((start queue options).run moves).screen
    (∀ row ∈ screen.rows, row.removing = true ↔ row.name ∈ screen.removing) ∧
      (screen.rows.map Row.name).Nodup := by
  have blank : Exact (start queue options).screen.rows (start queue options).screen.removing := by
    rw [start_rows]
    exact ⟨.nil, fun _ member => absurd member List.not_mem_nil⟩
  have kept := run_exact blank distinct
  exact ⟨kept.marks, kept.distinct⟩

/-- A reload during two removals, of which one fails while its row is on another page. -/
theorem marked_after_reloads_and_failure :
    let moves : List DeskMove :=
      [.apply (.loaded 1 [.named "a", .named "b"]), .gesture (.remove "a"), .gesture (.remove "b"),
        .take, .gesture (.turnTo 2), .apply (.loaded 2 [.named "c"]),
        .apply (.removeFailed "a" ⟨.removal, "in use"⟩), .gesture (.turnTo 1), .gesture .refresh,
        .apply (.loaded 4 [.named "a", .named "b"])]
    let desk := start (.empty 4) .standard
    (∀ cohorts ∈ desk.listings moves, (cohorts.map Cohort.name).Nodup) ∧
      ∀ row ∈ (desk.run moves).screen.rows, row.removing = true ↔ row.name = "b" := by
  intro moves desk
  have distinct : ∀ cohorts ∈ desk.listings moves, (cohorts.map Cohort.name).Nodup := by
    decide +kernel
  have removing : (desk.run moves).screen.removing = NameSet.empty.insert "b" := by
    decide +kernel
  have marked := (marked_exactly_while_removed (.empty 4) .standard moves distinct).1
  refine ⟨distinct, fun row member => ?_⟩
  rw [marked row member, removing, NameSet.mem_insert]
  simp

/-- No listing repeats a name that is under removal when the listing is shown. -/
def RepeatsNone (desk : Desk) : List DeskMove → Prop
  | [] => True
  | next :: rest =>
    (∀ cohorts ∈ desk.listed? next, ∀ name ∈ desk.screen.removing,
      (cohorts.map Cohort.name).count name ≤ 1) ∧ (desk.move next).RepeatsNone rest

instance (removing : NameSet) (holds : CohortName → Prop) [DecidablePred holds] :
    Decidable (∀ name ∈ removing, holds name) :=
  inferInstanceAs (Decidable (∀ name ∈ removing.names, holds name))

instance decidableRepeatsNone : (desk : Desk) → (moves : List DeskMove) →
    Decidable (desk.RepeatsNone moves)
  | _, [] => .isTrue trivial
  | desk, next :: rest =>
    have := decidableRepeatsNone (desk.move next) rest
    inferInstanceAs (Decidable (_ ∧ _))

/-- Until the next listing is shown, the screen shows no mark while it is idle. -/
def ReleasesMarks (desk : Desk) : Prop :=
  ∀ rest, desk.listings rest = [] → (desk.run rest).screen.isBusy = false →
    ∀ row ∈ (desk.run rest).screen.rows, row.removing = false

theorem run_tidy {desk : Desk} (tidy : Tidy desk.screen.rows desk.screen.removing)
    {moves : List DeskMove} (single : desk.RepeatsNone moves) :
    Tidy (desk.run moves).screen.rows (desk.run moves).screen.removing := by
  induction moves generalizing desk with
  | nil => exact tidy
  | cons next rest ih => exact ih ((desk.move_rows next).tidy single.1 tidy) single.2

theorem repeats_none_of_listings_eq_nil {desk : Desk} {moves : List DeskMove}
    (quiet : desk.listings moves = []) : desk.RepeatsNone moves := by
  induction moves generalizing desk with
  | nil => trivial
  | cons next rest ih =>
      obtain ⟨here, later⟩ := listings_cons_eq_nil quiet
      constructor
      · intro cohorts shown
        rw [here] at shown
        cases shown
      · exact ih later

theorem unmarked_of_tidy {screen : Screen} (tidy : Tidy screen.rows screen.removing)
    (idle : screen.isBusy = false) {row : Row} (member : row ∈ screen.rows) :
    row.removing = false := by
  have none := (Bool.or_eq_false_iff.1 idle).2
  rw [Bool.not_eq_false', NameSet.is_empty_iff] at none
  rw [Bool.eq_false_iff]
  intro marked
  exact none row.name (tidy.held row member marked)

/-- Whether a row bears a mark under this name. -/
def bears (name : CohortName) (row : Row) : Bool := row.name == name && row.removing

theorem countP_eraseP_bears (rows : List Row) (erased name : CohortName) :
    rows.countP (bears name) ≤
      (rows.eraseP (·.name == erased)).countP (bears name) + if erased = name then 1 else 0 := by
  rcases Screen.first_or_none (·.name == erased) rows with ⟨before, row, after, first⟩ | absent
  · have named : row.name = erased := beq_iff_eq.1 first.here
    rw [first.eraseP, first.split, List.countP_append, List.countP_append, List.countP_cons]
    by_cases same : erased = name
    · rw [if_pos same]
      split <;> omega
    · have other : bears name row = false := by
        rw [bears, named, beq_eq_false_iff_ne.2 same, Bool.false_and]
      rw [other]
      simp
  · rw [Screen.eraseP_of_none absent]
    exact Nat.le_add_right _ _

/-- The names are confirmed as removed, one after another. -/
def confirming (names : List CohortName) : List DeskMove :=
  names.map fun name => .apply (.removed name)

theorem listings_confirming (desk : Desk) (names : List CohortName) :
    desk.listings (confirming names) = [] := by
  induction names generalizing desk with
  | nil => rfl
  | cons name rest ih => exact ih _

theorem run_confirming (desk : Desk) (names : List CohortName) :
    let screen := (desk.run (confirming names)).screen
    screen.pending = desk.screen.pending ∧
      (∀ name, name ∈ screen.removing ↔ name ∈ desk.screen.removing ∧ name ∉ names) ∧
      ∀ name, desk.screen.rows.countP (bears name) ≤
        screen.rows.countP (bears name) + names.count name := by
  induction names generalizing desk with
  | nil => exact ⟨rfl, fun name => by simp [confirming, run], fun name => Nat.le_refl _⟩
  | cons first rest ih =>
      obtain ⟨pending, removing, rows⟩ := ih (desk.move (.apply (.removed first)))
      refine ⟨pending, fun name => ?_, fun name => ?_⟩
      · refine (removing name).trans ?_
        change name ∈ desk.screen.removing.erase first ∧ name ∉ rest ↔ _
        rw [NameSet.mem_erase, List.mem_cons, not_or, and_assoc]
      · have dropped := countP_eraseP_bears desk.screen.rows first name
        have later := rows name
        change (desk.screen.rows.eraseP (·.name == first)).countP (bears name) ≤ _ at later
        rw [List.count_cons]
        simp only [beq_iff_eq]
        change _ ≤ ((desk.move (.apply (.removed first))).run (confirming rest)).screen.rows.countP
          (bears name) + _
        omega

/-- A listing shows one marked row for each time it lists a name under removal. -/
theorem countP_bears_listed {removing : NameSet} {name : CohortName} (held : name ∈ removing)
    (cohorts : List Cohort) :
    (cohorts.map fun cohort => (⟨cohort, decide (cohort.name ∈ removing)⟩ : Row)).countP
      (bears name) = (cohorts.map Cohort.name).count name := by
  rw [List.countP_map, List.count_eq_countP, List.countP_map]
  congr 1
  funext cohort
  by_cases same : cohort.name = name
  · simp [bears, Row.name, same, held]
  · simp [bears, Row.name, same]

/-- A listing that repeats a name under removal leaves a mark behind once every removal in flight is
confirmed. -/
theorem single_of_releases_marks {desk : Desk} {cohorts : List Cohort} {request : RequestNumber}
    (awaited : desk.screen.awaits request = true)
    (releases : (desk.apply (.loaded request cohorts)).ReleasesMarks) {name : CohortName}
    (held : name ∈ desk.screen.removing) : (cohorts.map Cohort.name).count name ≤ 1 := by
  let names := desk.screen.removing.names
  let shown := desk.apply (.loaded request cohorts)
  let settled := (shown.run (confirming names)).screen
  have listed : shown.screen = _ := Screen.apply_loaded awaited cohorts
  obtain ⟨pending, removing, marks⟩ := run_confirming shown names
  have none : settled.removing.isEmpty = true := by
    rw [NameSet.is_empty_iff]
    intro other left
    have stays := (removing other).1 left
    rw [listed] at stays
    exact stays.2 stays.1
  have idle : settled.isBusy = false := by
    rw [Screen.isBusy, none, pending, listed]
    rfl
  have unmarked := releases (confirming names) (listings_confirming _ names) idle
  have gone : settled.rows.countP (bears name) = 0 := by
    rw [List.countP_eq_zero]
    intro row member
    rw [bears, unmarked row member, Bool.and_false]
    exact Bool.false_ne_true
  have counted : shown.screen.rows.countP (bears name) =
      (cohorts.map Cohort.name).count name := by
    rw [listed]
    exact countP_bears_listed held cohorts
  have distinct : names.Nodup := desk.screen.removing.ascending.imp String.ne_of_lt
  have once := List.nodup_iff_count_le_one.1 distinct name
  calc
    (cohorts.map Cohort.name).count name = shown.screen.rows.countP (bears name) := counted.symm
    _ ≤ settled.rows.countP (bears name) + names.count name := marks name
    _ = names.count name := by rw [gone, Nat.zero_add]
    _ ≤ 1 := once

/-- An idle screen shows no mark in a run whose listings repeat no name under removal. A listing
that does repeat one leaves a mark behind in some run, so that this is the exact condition. -/
theorem idle_screen_is_unmarked_unless_names_repeat (queue : CommandQueue)
    (options : ViewOptions) :
    (∀ moves, (start queue options).RepeatsNone moves →
      let screen := ((start queue options).run moves).screen
      screen.isBusy = false → ∀ row ∈ screen.rows, row.removing = false) ∧
      ∀ before request cohorts,
        let desk := (start queue options).run before
        desk.screen.awaits request = true →
          ((desk.apply (.loaded request cohorts)).ReleasesMarks ↔
            ∀ name ∈ desk.screen.removing, (cohorts.map Cohort.name).count name ≤ 1) := by
  constructor
  · intro moves single screen idle row member
    have blank : Tidy (start queue options).screen.rows (start queue options).screen.removing := by
      rw [start_rows]
      exact Tidy.nil _
    exact unmarked_of_tidy (run_tidy blank single) idle member
  · intro before request cohorts desk awaited
    constructor
    · intro releases name held
      exact single_of_releases_marks awaited releases held
    · intro single rest quiet idle row member
      have listed : Tidy (desk.apply (.loaded request cohorts)).screen.rows
          (desk.apply (.loaded request cohorts)).screen.removing := by
        rw [apply, Screen.apply_loaded awaited]
        exact Tidy.listed single
      have kept := run_tidy listed (repeats_none_of_listings_eq_nil quiet)
      exact unmarked_of_tidy kept idle member

/-- A name may well be repeated while another one is under removal. -/
theorem idle_screen_of_repeats_beside_removal :
    let moves : List DeskMove :=
      [.apply (.loaded 1 [.named "a", .named "b", .named "b"]), .gesture (.remove "a"),
        .gesture .refresh, .apply (.loaded 2 [.named "b", .named "a", .named "b"]),
        .apply (.removed "a")]
    let desk := start (.empty 4) .standard
    desk.RepeatsNone moves ∧ (desk.run moves).screen.isBusy = false ∧
      ∀ row ∈ (desk.run moves).screen.rows, row.removing = false := by
  intro moves desk
  have single : desk.RepeatsNone moves := by decide +kernel
  have idle : (desk.run moves).screen.isBusy = false := by decide +kernel
  have unmarked := (idle_screen_is_unmarked_unless_names_repeat (.empty 4) .standard).1
  exact ⟨single, idle, unmarked moves single idle⟩

/-- Both rows of the name are marked by the reload, and the confirmation takes one of them. -/
theorem idle_screen_keeps_a_mark :
    let moves : List DeskMove :=
      [.apply (.loaded 1 [.named "a", .named "a"]), .gesture (.remove "a"), .gesture .refresh,
        .apply (.loaded 2 [.named "a", .named "a"]), .apply (.removed "a")]
    let screen := ((start (.empty 4) .standard).run moves).screen
    screen.isBusy = false ∧ ∃ row ∈ screen.rows, row.removing = true := by
  decide +kernel

end Desk

end CohortDesk
