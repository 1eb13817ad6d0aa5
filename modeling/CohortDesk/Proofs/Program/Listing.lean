import CohortDesk.Proofs.Program.Run
import CohortDesk.Proofs.Service.Listing

/-!
# Runs that list cohorts

Each option on the command line is one more listing, asked for with the options before it already in
the query. The page that is printed has the query of all options and the cohorts of the last listing
that succeeded; what the last listing of all brought decides about the exit code.
-/

namespace CohortDesk

set_option autoImplicit false

open CommandLine

namespace Program

/-- The query of all options, where a standard value stands for one that is not given. -/
def finalQuery (settings : Settings) (filter order : Option String) (limit page : Option UInt32) :
    Query :=
  { filter := filter.getD ""
    order := order.getD settings.defaultOrder
    limit := limit.getD settings.pageSize
    page := page.getD Query.firstPage }

section Options

variable (settings : Settings) (filter order : Option String) (limit page : Option UInt32)

theorem foldl_edited_gestures :
    (gestures (.list filter order limit page)).foldl Query.edited
        (Page.initial settings.viewOptions).query =
      finalQuery settings filter order limit page := by
  -- A page size turns back to the first page, and the page is turned to last.
  cases limit <;> cases filter <;> cases order <;> cases page <;> rfl

theorem length_gestures :
    (gestures (.list filter order limit page)).length =
      [filter.isSome, order.isSome, limit.isSome, page.isSome].count true := by
  cases limit <;> cases filter <;> cases order <;> cases page <;> rfl

theorem gestures_retrieve :
    ∀ made ∈ gestures (.list filter order limit page), made.retrieves = true := by
  intro made member
  simp only [gestures, List.mem_append, Option.mem_toList, Option.map_eq_some_iff] at member
  rcases member with ((⟨_, _, rfl⟩ | ⟨_, _, rfl⟩) | ⟨_, _, rfl⟩) | ⟨_, _, rfl⟩ <;> rfl

end Options

theorem length_asked (options : ViewOptions) (gestures : List Gesture) :
    (asked options gestures).length = 1 + gestures.length := by
  rw [asked, List.length_cons, List.length_map, Query.length_edits, Nat.add_comm]

/-- The last gesture is asked for with the query that all of them have made. -/
theorem getLast?_asked (options : ViewOptions) {gestures : List Gesture} (any : gestures ≠ []) :
    (asked options gestures).getLast? =
      some (some (gestures.foldl Query.edited (Page.initial options).query)) := by
  cases gestures with
  | nil => exact absurd rfl any
  | cons made rest =>
      rw [asked, Query.edits, List.map_cons, List.getLast?_cons_cons, ← List.map_cons,
        List.getLast?_map, Query.getLast?_edits, List.foldl_cons, Option.map_some]

theorem request?_of_admits {client : Client} (web : client.base.isWeb = true)
    (fits : client.base.hostFits = true) {query : Option Query} (short : client.Admits query) :
    (Service.remote client).request? (.list query) = .ok (client.listingRequest query) := by
  rw [Service.request?, Client.request?, Client.listing_request?_ok web fits short]
  rfl

/-- What the exchange for a listing leaves as the error. -/
def errorOf (entry : Request × Exchange) : Option String :=
  match Client.listed entry with
  | .ok _ => none
  | .error failure => some failure.message

theorem error_of_eq_none_iff (entry : Request × Exchange) :
    errorOf entry = none ↔ ∃ cohorts, Client.listed entry = .ok cohorts := by
  unfold errorOf
  cases Client.listed entry with
  | ok cohorts => exact iff_of_true rfl ⟨cohorts, rfl⟩
  | error failure => simp

theorem error_listed (page : Page) (answers : List Answer) (entry : Request × Exchange) :
    ((answers ++ [Answer.ofListing (Client.listed entry)]).foldl Page.listed page).error =
      errorOf entry := by
  rw [List.foldl_append, errorOf]
  cases Client.listed entry <;> rfl

section Configured

variable {clock : Nat} {arguments : Arguments} {place : Settings.Place} {environment : Environment}
  {settings : Settings} {client : Client} {filter order : Option String}
  {limit page : Option UInt32}
  (configured : Configured clock arguments place environment settings client)
  (action : arguments.action = .list filter order limit page)
  (short : ∀ query ∈ asked settings.viewOptions (gestures arguments.action),
    client.Admits query)

include configured action short

/-- One exchange is made for each listing asked for. The page that they leave is the one shown. -/
theorem conversation_of_listing (peer : Peer) :
    ∃ session number last,
      session.requests = (asked settings.viewOptions (gestures arguments.action)).map
          client.listingRequest ∧
        session.getLast? = some last ∧
        conversation clock peer arguments place environment =
          (shown (Page.screen settings.viewOptions number
            ⟨finalQuery settings filter order limit page, session.latest, errorOf last⟩),
            session) := by
  have retrieve : ∀ made ∈ gestures arguments.action, made.retrieves = true := by
    rw [action]
    exact gestures_retrieve filter order limit page
  have patient := (can_wait_iff clock settings).mpr configured.patient
  obtain ⟨answers, session, answered, ran⟩ :=
    final_desk_run_of_retrievals (.remote client) peer settings.viewOptions retrieve
  have latest := answered.listings_eq (by simp [Call.method])
  obtain ⟨requests, rfl⟩ := answered.of_built fun query member =>
    request?_of_admits configured.web configured.fits (short query member)
  have present : session ≠ [] := by
    rintro rfl
    cases requests
  obtain ⟨earlier, last, rfl⟩ := (List.eq_nil_or_concat session).resolve_left present
  rw [List.concat_eq_append] at *
  refine ⟨earlier ++ [last], 1 + (gestures arguments.action).length, last, requests,
    List.getLast?_concat, ?_⟩
  rw [conversation_of_serves configured.toServes patient ran]
  refine congrArg (fun (page : Page) => (shown (page.screen settings.viewOptions _), _)) ?_
  have final : (gestures arguments.action).foldl Query.edited
      (Page.initial settings.viewOptions).query = finalQuery settings filter order limit page := by
    rw [action, foldl_edited_gestures]
  refine Page.ext ?_ ?_ ?_
  · rw [Page.query_listed, final]
    rfl
  · rw [Page.cohorts_listed, ← latest]
    rfl
  · rw [List.map_append, List.map_singleton, error_listed]

/-- A run asks for one listing more than there are options, first without a query and last with the
query of all options. It prints the cohorts of the last listing that succeeded under that query, and
succeeds if the last listing of all did. -/
theorem listing_run_shows_the_latest_listing (peer : Peer) :
    let queries := asked settings.viewOptions (gestures arguments.action)
    let given := [filter.isSome, order.isSome, limit.isSome, page.isSome]
    let final := finalQuery settings filter order limit page
    let outcome := (conversation clock peer arguments place environment).1
    let session := (conversation clock peer arguments place environment).2
    queries.length = 1 + given.count true ∧ queries.head? = some none ∧
      (true ∈ given → queries.getLast? = some (some final)) ∧
      session.requests = queries.map client.listingRequest ∧
      ∃ last, session.getLast? = some last ∧
        (Grid.Fits session.latest →
          outcome.output =
              (Page.mk final session.latest (outcome.complaint?.map (·.message))).text ∧
            (Page.mk final session.latest (outcome.complaint?.map (·.message))).Tells
              outcome.output ∧
            (outcome.exitCode = 0 ↔ ∃ cohorts, Client.listed last = .ok cohorts) ∧
            ∀ failure, Client.listed last = .error failure →
              outcome.exitCode = 1 ∧
                outcome.complaint? = some { message := failure.message, cause := none } ∧
                ∃ above, outcome.output = above ++ "error: " ++ failure.message ++ "\n") := by
  intro queries given final outcome session
  have length : queries.length = 1 + given.count true := by
    rw [length_asked, action, length_gestures]
  have lastQuery (any : true ∈ given) : queries.getLast? = some (some final) := by
    have made : gestures arguments.action ≠ [] := by
      have positive := List.count_pos_iff.mpr any
      rw [← length_gestures, ← action] at positive
      exact List.length_pos_iff.mp positive
    rw [getLast?_asked settings.viewOptions made, action, foldl_edited_gestures]
  obtain ⟨log, number, last, requests, ends, ran⟩ :=
    conversation_of_listing configured action short peer
  have sessionEq : session = log := congrArg Prod.snd ran
  have outcomeEq : outcome = shown (Page.screen settings.viewOptions number
      ⟨final, log.latest, errorOf last⟩) := congrArg Prod.fst ran
  clear_value session outcome
  subst sessionEq
  refine ⟨length, rfl, lastQuery, requests, last, ends, fun fits => ?_⟩
  rw [Page.shown_of_fits _ _ _ fits] at outcomeEq
  subst outcomeEq
  refine ⟨?_, ?_, ?_, ?_⟩
  · rw [Page.complaint?_outcome]
    rfl
  · rw [Page.complaint?_outcome]
    exact Page.text_tells _
  · rw [Page.exit_code_eq_zero_iff]
    exact error_of_eq_none_iff last
  · intro failure failed
    have error : (Page.mk final session.latest (errorOf last)).error = some failure.message := by
      rw [errorOf, failed]
    obtain ⟨code, complaint, closing⟩ := Page.outcome_of_error error
    exact ⟨code, complaint, _, closing⟩

end Configured

/-- Arguments for the service at `http://cohorts.test/api`, with the settings file where it is
expected. -/
def atSample (action : Action) : Arguments :=
  { settingsPath := defaultSettingsPath, serverUrl := some "http://cohorts.test/api", action }

def unset : Environment := fun _ => none

/-- What a clock reads that was started an hour ago. -/
def anHour : Nat := 3600

set_option maxRecDepth 4000 in
theorem at_sample_configured (action : Action) :
    Configured anHour (atSample action) .missing unset
      (Settings.standard.setServerUrl "http://cohorts.test/api") Client.sample where
  loaded := rfl
  served := rfl
  web := by decide
  fits := by decide
  patient := by decide

theorem filtering_asks_three_times :
    let arguments := atSample (.list (some "a") none none (some 2))
    Invocation.of
        ["--server-url", "http://cohorts.test/api", "list", "--filter", "a", "--page", "2"] =
      .run arguments ∧
      Configured anHour arguments .missing unset
        (Settings.standard.setServerUrl "http://cohorts.test/api") Client.sample ∧
      (∀ query ∈ asked Settings.standard.viewOptions (gestures arguments.action),
        Client.sample.Admits query) ∧
      ∀ peer, (conversation anHour peer arguments .missing unset).2.requests =
        [Client.sample.listingRequest none,
          Client.sample.listingRequest (some { Query.initial with filter := "a" }),
          Client.sample.listingRequest (some { Query.initial with filter := "a", page := 2 })] := by
  intro arguments
  have configured := at_sample_configured (.list (some "a") none none (some 2))
  have short : ∀ query ∈ asked Settings.standard.viewOptions (gestures arguments.action),
      Client.sample.Admits query := by decide +kernel
  refine ⟨by decide +kernel, configured, short, fun peer => ?_⟩
  exact (listing_run_shows_the_latest_listing configured rfl short peer).2.2.2.1

end Program

end CohortDesk
