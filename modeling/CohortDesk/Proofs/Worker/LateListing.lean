import CohortDesk.Proofs.Worker.Arrival

/-!
# Listings that arrive after a removal

A removal does not supersede the listings that were asked for before it. One that is still the
latest attempt replaces the rows when it arrives, and shows the removed cohort again if the service
listed it; one that a later attempt has superseded changes nothing.
-/

namespace CohortDesk

set_option autoImplicit false

def Screen.shows (screen : Screen) (name : CohortName) : Prop :=
  name ∈ screen.rows.map Row.name

instance (screen : Screen) (name : CohortName) : Decidable (screen.shows name) :=
  inferInstanceAs (Decidable (_ ∈ _))

namespace Screen

theorem apply_loaded_names {screen : Screen} {request : RequestNumber}
    (awaited : screen.awaits request = true) (cohorts : List Cohort) :
    (screen.apply (.loaded request cohorts)).rows.map Row.name = cohorts.map Cohort.name := by
  rw [apply_loaded awaited, List.map_map]
  rfl

theorem apply_load_failed_rows (screen : Screen) (request : RequestNumber) (notice : Notice) :
    (screen.apply (.loadFailed request notice)).rows = screen.rows := by
  simp only [apply]
  split <;> rfl

/-- The answer to a listing brings a name onto the screen only as part of an accepted listing. -/
theorem shows_of_apply_listing {screen : Screen} {event : Event} {request : RequestNumber}
    (about : event.errand? = some (.listing request)) {name : CohortName}
    (absent : ¬ screen.shows name) :
    (screen.apply event).shows name ↔
      screen.pending = some request ∧
        ∃ cohorts, event = .loaded request cohorts ∧ name ∈ cohorts.map Cohort.name := by
  by_cases waiting : screen.pending = some request
  · cases event with
    | loaded number cohorts =>
        cases about
        have awaited : screen.awaits request = true := (awaits_iff screen request).2 waiting
        rw [shows, apply_loaded_names awaited]
        constructor
        · intro listed
          exact ⟨waiting, cohorts, rfl, listed⟩
        · rintro ⟨_, _, same, listed⟩
          cases same
          exact listed
    | loadFailed number notice =>
        rw [shows, apply_load_failed_rows]
        constructor
        · exact fun present => absurd present absent
        · rintro ⟨_, _, same, _⟩
          cases same
    | removed other => cases about
    | removeFailed other notice => cases about
    | workerFailed notice => cases about
  · rw [apply_unawaited screen about waiting]
    exact ⟨fun present => absurd present absent, fun accepted => absurd accepted.1 waiting⟩

end Screen

namespace Worker

/-- An attempt stays the latest one as long as no other is made. -/
theorem eq_attempts_append_iff {request : Nat} {before : List Move}
    (earlier : request ≤ attempts before) (after : List Move) :
    request = attempts (before ++ after) ↔
      request = attempts before ∧ ∀ next ∈ after, next.retrieves = false := by
  have none : after.countP Move.retrieves = 0 ↔ ∀ next ∈ after, next.retrieves = false := by
    simp only [List.countP_eq_zero, Bool.not_eq_true]
  rw [attempts_append, ← none]
  omega

/-- Once its removal is confirmed, a name comes under removal again only by a gesture. -/
theorem removing_after_removed {worker : Worker} {name : CohortName}
    (confirmed : worker.arriving = some (.removed name)) {after : List Move}
    (held : name ∈ (worker.run (.apply :: after)).desk.screen.removing) :
    .gesture (.remove name) ∈ after := by
  change name ∈ ((worker.move .apply).run after).desk.screen.removing at held
  rcases removing_of_run held with left | again
  · rw [apply_screen confirmed] at left
    exact absurd rfl (NameSet.mem_erase.1 left).2
  · exact again

/-- What the answer to a listing that was asked for before a removal does after it: it shows the
removed cohort again exactly if no attempt was made since and the service still listed the
cohort. -/
theorem late_listing_shows_what_it_lists (options : ViewOptions)
    {commandCapacity eventCapacity : Nat} {ready : Bool} {before between : List Move}
    {name : CohortName} {request : Nat} {event : Event}
    (confirmed : ((launchWith commandCapacity eventCapacity ready options).run before).arriving =
      some (.removed name))
    (earlier : request ≤ attempts before) (about : event.errand? = some (.listing request))
    (arrives : ((launchWith commandCapacity eventCapacity ready options).run
      (before ++ .apply :: between)).arriving = some event) :
    let worker := (launchWith commandCapacity eventCapacity ready options).run
      (before ++ .apply :: between)
    let screen := (worker.move .apply).desk.screen
    let latest := request = attempts before ∧ ∀ next ∈ between, next.retrieves = false
    (¬ worker.desk.screen.shows name →
      (screen.shows name ↔
        latest ∧ ∃ cohorts, event = .loaded request cohorts ∧ name ∈ cohorts.map Cohort.name)) ∧
      (¬ latest → screen = worker.desk.screen) ∧
      ∀ cohorts, latest → event = .loaded request cohorts →
        screen.cohorts = cohorts ∧
          ∀ row ∈ screen.rows, row.name = name → row.removing = true →
            .gesture (.remove name) ∈ between := by
  intro worker screen latest
  have applied : screen = worker.desk.screen.apply event := apply_screen arrives
  have awaited : worker.desk.screen.pending = some request ↔ latest := by
    have counted := (arriving_listing rfl arrives about).2
    rw [eq_attempts_append_iff earlier, List.forall_mem_cons] at counted
    exact counted.trans (and_congr_right fun _ => and_iff_right rfl)
  rw [applied]
  refine ⟨?_, ?_, ?_⟩
  · intro absent
    rw [Screen.shows_of_apply_listing about absent, awaited]
  · intro superseded
    exact Screen.apply_unawaited _ about fun pending => superseded (awaited.1 pending)
  · rintro cohorts current rfl
    have accepted := (Screen.awaits_iff _ request).2 (awaited.2 current)
    rw [Screen.apply_loaded accepted]
    constructor
    · simp [Screen.cohorts, Function.comp_def]
    · intro row member named marked
      obtain ⟨cohort, _, rfl⟩ := List.mem_map.1 member
      have held : name ∈ worker.desk.screen.removing := named ▸ of_decide_eq_true marked
      have since : worker = ((launchWith commandCapacity eventCapacity ready options).run
          before).run (.apply :: between) := run_append _ _ _
      rw [since] at held
      exact removing_after_removed confirmed held

/-- Both calls are under way together, and the removal is answered first. -/
def removalOvertakes : List Move :=
  [.start, .answer 0 (.success [.named "a"]), .deliver 0, .apply, .gesture .refresh, .start,
    .gesture (.remove "a"), .start, .answer 2 (.success []), .deliver 0]

def listingFollows : List Move := [.answer 1 (.success [.named "a"]), .deliver 0]

/-- The screen has turned to another page before the listing arrives. -/
theorem superseded_listing_stays_without_effect :
    let worker := (launchWith 4 4 false .standard).run
      (removalOvertakes ++ .apply :: .gesture (.turnTo 2) :: listingFollows)
    ((launchWith 4 4 false .standard).run removalOvertakes).arriving = some (.removed "a") ∧
      worker.arriving = some (.loaded 2 [.named "a"]) ∧
      (worker.move .apply).desk.screen = worker.desk.screen := by
  intro worker
  have confirmed : ((launchWith 4 4 false .standard).run removalOvertakes).arriving =
      some (.removed "a") := by
    decide +kernel
  have arrives : worker.arriving = some (.loaded 2 [.named "a"]) := by decide +kernel
  have late := late_listing_shows_what_it_lists .standard confirmed (by decide) rfl arrives
  refine ⟨confirmed, arrives, late.2.1 fun latest => ?_⟩
  have turned := latest.2 (.gesture (.turnTo 2)) List.mem_cons_self
  exact absurd turned (by decide)

theorem late_listing_shows_removed_cohort :
    let worker := (launchWith 4 4 false .standard).run
      (removalOvertakes ++ .apply :: listingFollows)
    ((launchWith 4 4 false .standard).run removalOvertakes).arriving = some (.removed "a") ∧
      2 ≤ attempts removalOvertakes ∧
      worker.arriving = some (.loaded 2 [.named "a"]) ∧
      ¬ worker.desk.screen.shows "a" ∧ (worker.move .apply).desk.screen.shows "a" := by
  decide +kernel

end Worker

end CohortDesk
