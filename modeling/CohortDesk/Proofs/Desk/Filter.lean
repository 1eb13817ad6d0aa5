import CohortDesk.Proofs.Desk.Listings
import CohortDesk.Proofs.Desk.Requests
import CohortDesk.Proofs.Desk.Shown

/-!
# The filter panel

A panel is shown with a form only, and a form that nobody has edited is empty; no run of a desk
breaks this or loses a form. So removing the filter, which clears an edited form only, leaves a
fresh one. It changes nothing else: a desk that loses its filter goes on like one that keeps it,
apart from the query and the panel, and accepts the same listings.
-/

namespace CohortDesk

set_option autoImplicit false

namespace FilterPanel

structure Sound (panel : FilterPanel) : Prop where
  shown : panel.shown = true → panel.form.isSome = true
  pristine : ∀ form, panel.form = some form → form.dirty = false → form.draft = ""

def cleared (panel : FilterPanel) : FilterPanel :=
  { panel with
    shown := false
    form := panel.form.map fun form => if form.dirty then .fresh else form }

/-- Everything a move of a desk can do to its panel. -/
inductive Change (panel : FilterPanel) : FilterPanel → Prop
  | kept : Change panel panel
  | opened : Change panel { panel with shown := true, form := some (panel.form.getD .fresh) }
  | edited (text : String) :
      Change panel { panel with form := some { draft := text, dirty := true } }
  | removed : Change panel panel.cleared

variable {panel after : FilterPanel}

theorem Sound.form_cleared (sound : panel.Sound) :
    panel.cleared.form = panel.form.map fun _ => .fresh := by
  apply Option.map_congr
  intro form present
  cases dirty : form.dirty with
  | true => rfl
  | false =>
      obtain ⟨draft, _⟩ := form
      cases dirty
      cases sound.pristine _ present rfl
      rfl

theorem Change.sound (change : Change panel after) (sound : panel.Sound) : after.Sound := by
  cases change with
  | kept => exact sound
  | opened =>
      refine ⟨fun _ => rfl, ?_⟩
      intro form present clean
      cases before : panel.form with
      | none =>
          rw [before] at present
          cases present
          rfl
      | some old =>
          rw [before] at present
          cases present
          exact sound.pristine old before clean
  | edited text =>
      refine ⟨fun _ => rfl, ?_⟩
      intro form present clean
      cases present
      cases clean
  | removed =>
      refine ⟨nofun, ?_⟩
      intro form present _
      rw [sound.form_cleared] at present
      obtain ⟨old, -, rfl⟩ := Option.map_eq_some_iff.1 present
      rfl

theorem Change.form (change : Change panel after) (present : panel.form.isSome = true) :
    after.form.isSome = true := by
  cases change with
  | kept => exact present
  | opened => rfl
  | edited text => rfl
  | removed => exact Option.isSome_map.trans present

end FilterPanel

@[simp] theorem Screen.apply_filter (screen : Screen) (event : Event) :
    (screen.apply event).filter = screen.filter := by
  cases event <;> simp only [apply] <;> split <;> rfl

theorem Choices.after_filter (choices : Choices) (made : Gesture) :
    choices.filter.Change (choices.after made).filter := by
  cases made with
  | showFilter => exact .opened
  | editFilter text => exact .edited text
  | removeFilter => exact .removed
  | _ => exact .kept

/-- Two queues with the same errands waiting, which may ask for listings by different queries. -/
def CommandQueue.Alike (queue other : CommandQueue) : Prop :=
  ∃ waiting, other = { queue with waiting } ∧
    waiting.map Command.errand = queue.waiting.map Command.errand

/-- Queues that are alike take the same errands. -/
theorem CommandQueue.Alike.offer {queue other : CommandQueue} (alike : queue.Alike other)
    (command counterpart : Command) (same : counterpart.errand = command.errand) :
    (∃ fault, queue.offer command = .error fault ∧ other.offer counterpart = .error fault) ∨
      ∃ after later, queue.offer command = .ok after ∧ other.offer counterpart = .ok later ∧
        after.Alike later := by
  obtain ⟨waiting, rfl, errands⟩ := alike
  have length : waiting.length = queue.waiting.length := by
    simpa only [List.length_map] using congrArg List.length errands
  unfold CommandQueue.offer hasRoom
  rw [length]
  split
  · exact .inl ⟨_, rfl, rfl⟩
  · split
    · refine .inr ⟨_, _, rfl, rfl, _, rfl, ?_⟩
      rw [List.map_append, List.map_append, errands, List.map_singleton, List.map_singleton, same]
    · exact .inl ⟨_, rfl, rfl⟩

namespace Desk

variable {desk other : Desk}

section Panel

theorem move_filter (desk : Desk) (next : DeskMove) :
    desk.screen.filter.Change (desk.move next).screen.filter := by
  cases next with
  | gesture made =>
      have choices := congrArg Choices.filter (perform_choices desk made)
      change (desk.move (.gesture made)).screen.filter = _ at choices
      rw [choices]
      exact desk.screen.choices.after_filter made
  | apply event =>
      rw [move, apply, Screen.apply_filter]
      exact .kept
  | await => exact .kept
  | take =>
      rw [take_screen]
      exact .kept
  | disconnect => exact .kept

theorem run_sound (sound : desk.screen.filter.Sound) (moves : List DeskMove) :
    (desk.run moves).screen.filter.Sound := by
  induction moves generalizing desk with
  | nil => exact sound
  | cons next rest ih => exact ih ((move_filter desk next).sound sound)

theorem run_form (present : desk.screen.filter.form.isSome = true) (moves : List DeskMove) :
    (desk.run moves).screen.filter.form.isSome = true := by
  induction moves generalizing desk with
  | nil => exact present
  | cons next rest ih => exact ih ((move_filter desk next).form present)

theorem start_sound (queue : CommandQueue) (options : ViewOptions) :
    (start queue options).screen.filter.Sound := by
  have blank : (start queue options).screen.filter = (Screen.blank options).filter :=
    congrArg Choices.filter (start_choices queue options)
  rw [blank]
  exact ⟨nofun, nofun⟩

end Panel

section Alike

/-- Two desks that differ at most in the query, in the panel, and in the queries of what waits. -/
structure Alike (desk other : Desk) : Prop where
  screen : ∃ query filter, other.screen = { desk.screen with query, filter }
  queue : desk.queue.Alike other.queue

theorem Alike.fetch (alike : desk.Alike other) (query counterpart : Option Query) :
    (desk.fetch query).1.Alike (other.fetch counterpart).1 := by
  obtain ⟨screen, queue⟩ := other
  obtain ⟨⟨changed, filter, rfl⟩, queues⟩ := alike
  rcases queues.offer (.fetch (desk.screen.lastRequest + 1) query)
      (.fetch (desk.screen.lastRequest + 1) counterpart) rfl with
    ⟨fault, refused, likewise⟩ | ⟨after, later, taken, likewise, still⟩
  · simp only [Desk.fetch, refused, likewise]
    exact ⟨⟨changed, filter, rfl⟩, queues⟩
  · simp only [Desk.fetch, taken, likewise]
    exact ⟨⟨changed, filter, rfl⟩, still⟩

theorem Alike.remove (alike : desk.Alike other) (name : CohortName) :
    (desk.remove name).1.Alike (other.remove name).1 := by
  obtain ⟨screen, queue⟩ := other
  obtain ⟨⟨changed, filter, rfl⟩, queues⟩ := alike
  by_cases removing : name ∈ desk.screen.removing
  · simp only [Desk.remove, removing, if_true]
    exact ⟨⟨changed, filter, rfl⟩, queues⟩
  · by_cases shown : desk.screen.rows.any (·.name == name) = true
    · simp only [Desk.remove, removing, if_false, shown, if_true]
      rcases queues.offer (.remove name) (.remove name) rfl with
        ⟨fault, refused, likewise⟩ | ⟨after, later, taken, likewise, still⟩
      · rw [refused, likewise]
        exact ⟨⟨changed, filter, rfl⟩, queues⟩
      · rw [taken, likewise]
        exact ⟨⟨changed, filter, rfl⟩, still⟩
    · simp only [Desk.remove, removing, if_false, shown, Bool.false_eq_true]
      exact ⟨⟨changed, filter, rfl⟩, queues⟩

/-- The gestures that stay on the screen: the panel, which may differ, and the selection. -/
theorem Alike.choose (alike : desk.Alike other) {made : Gesture} (plain : made.retrieves = false)
    (spares : ∀ name, made ≠ .remove name) :
    (desk.perform made).1.Alike (other.perform made).1 := by
  obtain ⟨screen, queue⟩ := other
  obtain ⟨⟨query, filter, rfl⟩, queues⟩ := alike
  cases made with
  | showFilter => exact ⟨⟨_, _, rfl⟩, queues⟩
  | editFilter text => exact ⟨⟨_, _, rfl⟩, queues⟩
  | removeFilter => exact ⟨⟨_, _, rfl⟩, queues⟩
  | toggle name =>
      simp only [Desk.perform, toggle]
      split <;> exact ⟨⟨_, _, rfl⟩, queues⟩
  | remove name => exact absurd rfl (spares name)
  | search predicate => cases plain
  | sort order => cases plain
  | turnTo page => cases plain
  | resize limit => cases plain
  | refresh => cases plain

theorem Alike.perform (alike : desk.Alike other) (made : Gesture) :
    (desk.perform made).1.Alike (other.perform made).1 := by
  cases retrieves : made.retrieves with
  | true =>
      -- The two requests carry different queries, but the same number.
      rw [perform_retrieval desk retrieves, perform_retrieval other retrieves]
      obtain ⟨⟨query, filter, screen⟩, queues⟩ := alike
      have edited : (desk.changeQuery fun query => query.edited made).Alike
          (other.changeQuery fun query => query.edited made) := by
        refine ⟨⟨query.edited made, filter, ?_⟩, queues⟩
        simp only [changeQuery, screen]
      exact edited.fetch _ _
  | false =>
      by_cases removes : ∃ name, made = .remove name
      · obtain ⟨name, rfl⟩ := removes
        exact alike.remove name
      · exact alike.choose retrieves fun name same => removes ⟨name, same⟩

theorem Alike.apply (alike : desk.Alike other) (event : Event) :
    (desk.apply event).Alike (other.apply event) := by
  obtain ⟨screen, queue⟩ := other
  obtain ⟨⟨query, filter, rfl⟩, queues⟩ := alike
  refine ⟨⟨query, filter, ?_⟩, queues⟩
  cases event with
  | loaded request cohorts =>
      by_cases awaited : desk.screen.pending = some request <;>
        simp [Desk.apply, Screen.apply, Screen.awaits, awaited]
  | loadFailed request notice =>
      by_cases awaited : desk.screen.pending = some request <;>
        simp [Desk.apply, Screen.apply, Screen.awaits, awaited]
  | removed name => rfl
  | removeFailed name notice => rfl
  | workerFailed notice => rfl

theorem Alike.take (alike : desk.Alike other) : (desk.move .take).Alike (other.move .take) := by
  obtain ⟨screen, waiting, same, errands⟩ := alike
  simp only [move, CommandQueue.take?, same]
  cases queued : desk.queue.waiting with
  | nil =>
      rw [queued, List.map_nil, List.map_eq_nil_iff] at errands
      subst errands
      exact ⟨screen, [], same, by rw [queued]⟩
  | cons command rest =>
      rw [queued] at errands
      obtain ⟨counterpart, others, rfl, -, later⟩ := List.map_eq_cons_iff.1 errands
      exact ⟨screen, others, rfl, later⟩

theorem Alike.move (alike : desk.Alike other) (next : DeskMove) :
    (desk.move next).Alike (other.move next) := by
  cases next with
  | gesture made => exact alike.perform made
  | apply event => exact alike.apply event
  | await =>
      obtain ⟨screen, waiting, same, errands⟩ := alike
      refine ⟨screen, waiting, ?_, errands⟩
      have empty : waiting.isEmpty = desk.queue.waiting.isEmpty := by
        rw [← List.isEmpty_map, errands, List.isEmpty_map]
      simp only [Desk.move, CommandQueue.await, same, empty]
  | take => exact alike.take
  | disconnect =>
      obtain ⟨screen, waiting, same, errands⟩ := alike
      refine ⟨screen, [], ?_, rfl⟩
      simp only [Desk.move, CommandQueue.disconnect, same]

theorem Alike.run (alike : desk.Alike other) (moves : List DeskMove) :
    (desk.run moves).Alike (other.run moves) := by
  induction moves generalizing desk other with
  | nil => exact alike
  | cons next rest ih => exact ih (alike.move next)

theorem Alike.accepted_by (alike : desk.Alike other) (next : DeskMove) :
    other.acceptedBy next = desk.acceptedBy next := by
  obtain ⟨⟨query, filter, screen⟩, -⟩ := alike
  have pending : other.screen.pending = desk.screen.pending := by rw [screen]
  cases next with
  | apply event =>
      cases about : event.errand? with
      | none => simp only [Desk.acceptedBy, about]
      | some errand =>
          cases errand with
          | listing request =>
              simp only [Desk.acceptedBy, about, apply_eq_self_iff desk about,
                apply_eq_self_iff other about, pending]
          | removal name => simp only [Desk.acceptedBy, about]
  | _ => rfl

theorem Alike.accepted (alike : desk.Alike other) (moves : List DeskMove) :
    other.accepted moves = desk.accepted moves := by
  induction moves generalizing desk other with
  | nil => rfl
  | cons next rest ih => rw [Desk.accepted, Desk.accepted, alike.accepted_by, ih (alike.move next)]

end Alike

/-- A desk whose panel is hidden, with an empty form if there is one, and whose query has no
filter. -/
def unfiltered (desk : Desk) : Desk :=
  { desk with
    screen := { desk.screen with
      query := { desk.screen.query with filter := "" }
      filter := { desk.screen.filter with
        shown := false, form := desk.screen.filter.form.map fun _ => .fresh } } }

theorem alike_unfiltered (desk : Desk) : desk.Alike desk.unfiltered :=
  ⟨⟨_, _, rfl⟩, _, rfl, rfl⟩

/-- Removing the filter does what it is for and nothing else: no command is queued, and only the
panel and the filter of the query change. Whatever happens next, the desk goes on as if it had kept
its filter, so it accepts the same listings, among them the one it waits for. -/
structure FilterRemoval (desk : Desk) : Prop where
  outcome : desk.perform .removeFilter = (desk.unfiltered, .nothing)
  again : (desk.perform .removeFilter).1.perform .removeFilter = desk.perform .removeFilter
  accepts : ∀ moves, desk.unfiltered.accepted moves = desk.accepted moves
  continues : ∀ moves, (desk.run moves).Alike (desk.unfiltered.run moves)
  shows : ∀ request cohorts, desk.screen.pending = some request →
    let after := desk.unfiltered.apply (.loaded request cohorts)
    after ≠ desk.unfiltered ∧ after.screen.cohorts = cohorts

theorem perform_remove_filter (sound : desk.screen.filter.Sound) :
    desk.perform .removeFilter = (desk.unfiltered, .nothing) := by
  have form := sound.form_cleared
  simp only [FilterPanel.cleared] at form
  simp only [perform, removeFilter, changeFilter, changeQuery, unfiltered, form]

theorem filter_removal (sound : desk.screen.filter.Sound) : desk.FilterRemoval := by
  have outcome := perform_remove_filter sound
  have still : desk.unfiltered.screen.filter.Sound := by
    have after := (move_filter desk (.gesture .removeFilter)).sound sound
    rwa [move, outcome] at after
  refine ⟨outcome, ?_, desk.alike_unfiltered.accepted, desk.alike_unfiltered.run, ?_⟩
  · rw [outcome, perform_remove_filter still]
    simp only [unfiltered, Option.map_map, Function.comp_def]
  · intro request cohorts pending
    have waiting : desk.unfiltered.screen.pending = some request := pending
    refine ⟨fun same => ?_, Screen.cohorts_loaded waiting cohorts⟩
    exact (apply_eq_self_iff desk.unfiltered rfl).1 same waiting

/-- In every state that a run of a desk reaches: a panel that is shown has a form, a form that was
not edited is empty, a form stays for good, and the filter can be removed as described. -/
theorem filter_can_be_removed_at_any_time (queue : CommandQueue) (options : ViewOptions)
    (moves : List DeskMove) :
    let desk := (start queue options).run moves
    desk.screen.filter.Sound ∧
      (∀ later, desk.screen.filter.form.isSome = true →
        (desk.run later).screen.filter.form.isSome = true) ∧
      desk.FilterRemoval := by
  intro desk
  have sound : desk.screen.filter.Sound := run_sound (start_sound queue options) moves
  exact ⟨sound, fun later present => run_form present later, filter_removal sound⟩

/-- The listing for an edited filter is on its way while the filter is removed, and still counts. -/
example :
    let desk := (start (.empty 2) .standard).run
      [.gesture .showFilter, .gesture (.editFilter "x"), .gesture (.search "x"),
        .gesture .removeFilter]
    desk.screen.filter = { shown := false, form := some .fresh, debounceMs := 500 } ∧
      desk.screen.query = .initial ∧
      (desk.apply (.loaded 2 [.named "ax"])).screen.cohorts = [.named "ax"] := by
  decide

end Desk

end CohortDesk
