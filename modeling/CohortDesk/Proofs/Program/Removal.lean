import CohortDesk.Proofs.Program.Listing

/-!
# Runs that remove a cohort

The listing comes first, and a removal is asked for only if the name is on it. A removal that is
confirmed takes the first cohort of the name off the page; any other leaves the page as it was
listed, with the failure below it.
-/

namespace CohortDesk

set_option autoImplicit false

open CommandLine Text

theorem Grid.Fits.without_first {cohorts : List Cohort} (fits : Fits cohorts) (name : CohortName) :
    Fits (withoutFirst cohorts name) := fun cohort member =>
  fits cohort (List.mem_of_mem_eraseP member)

theorem any_name_iff {cohorts : List Cohort} {name : CohortName} :
    cohorts.any (·.name == name) = true ↔ ∃ cohort ∈ cohorts, cohort.name = name := by
  simp only [List.any_eq_true, beq_iff_eq]

/-- The page of a removal run, from what the listing brought and what the removal brought, if it was
asked for. -/
inductive RemovalPage (query : Query) (name : CohortName) :
    Except Failure (List Cohort) → Option (Except Failure Unit) → Page → Prop
  | unlisted (failure : Failure) :
      RemovalPage query name (.error failure) none ⟨query, [], some failure.message⟩
  | absent {cohorts : List Cohort} (missing : ∀ cohort ∈ cohorts, cohort.name ≠ name) :
      RemovalPage query name (.ok cohorts) none ⟨query, cohorts, none⟩
  | confirmed {cohorts : List Cohort} (found : ∃ cohort ∈ cohorts, cohort.name = name)
      {result : Except Failure Unit} (gone : Client.confirms result = true) :
      RemovalPage query name (.ok cohorts) (some result)
        ⟨query, withoutFirst cohorts name, none⟩
  | kept {cohorts : List Cohort} (found : ∃ cohort ∈ cohorts, cohort.name = name)
      {failure : Failure} (stays : failure.isNotFound = false) :
      RemovalPage query name (.ok cohorts) (some (.error failure))
        ⟨query, cohorts, some failure.message⟩

/-- How a removal run ends, from what the listing and the removal brought. -/
structure RemovalRun (query : Query) (name : CohortName) (listing : Except Failure (List Cohort))
    (removal? : Option (Except Failure Unit)) (outcome : Outcome) : Prop where
  succeeds : outcome.exitCode = 0 ↔
    ∃ cohorts, listing = .ok cohorts ∧ ∀ removal ∈ removal?, Client.confirms removal = true
  removed : ∀ cohorts, listing = .ok cohorts → outcome.exitCode = 0 →
    outcome =
      (Page.mk query (if removal?.isSome then withoutFirst cohorts name else cohorts) none).outcome
  kept : ∀ cohorts failure, listing = .ok cohorts → removal? = some (.error failure) →
    failure.isNotFound = false →
      outcome = (Page.mk query cohorts (some failure.message)).outcome ∧ outcome.exitCode = 1
  unlisted : ∀ failure, listing = .error failure →
    outcome = (Page.mk query [] (some failure.message)).outcome ∧ outcome.exitCode = 1

namespace RemovalPage

variable {query : Query} {name : CohortName} {listing : Except Failure (List Cohort)}
  {removal? : Option (Except Failure Unit)} {page : Page}

theorem of_result {cohorts : List Cohort} (found : ∃ cohort ∈ cohorts, cohort.name = name)
    (result : Except Failure Unit) :
    RemovalPage query name (.ok cohorts) (some result)
      (Page.removed name ⟨query, cohorts, none⟩ (.ofRemoval result)) := by
  cases result with
  | ok nothing => exact .confirmed found rfl
  | error failure =>
      rw [Answer.ofRemoval, Page.removed]
      cases gone : failure.isNotFound with
      | true => exact .confirmed found gone
      | false => exact .kept found gone

theorem is_some_iff (shows : RemovalPage query name listing removal? page) :
    removal?.isSome = true ↔
      ∃ cohorts, listing = .ok cohorts ∧ ∃ cohort ∈ cohorts, cohort.name = name := by
  cases shows with
  | unlisted failure => simp
  | absent missing => simpa using missing
  | confirmed found gone => simpa using found
  | kept found stays => simpa using found

theorem fits (shows : RemovalPage query name listing removal? page)
    (narrow : ∀ cohorts, listing = .ok cohorts → Grid.Fits cohorts) : Grid.Fits page.cohorts := by
  cases shows with
  | unlisted failure => exact fun cohort member => absurd member List.not_mem_nil
  | absent missing => exact narrow _ rfl
  | confirmed found gone => exact (narrow _ rfl).without_first name
  | kept found stays => exact narrow _ rfl

theorem ends (shows : RemovalPage query name listing removal? page) :
    RemovalRun query name listing removal? page.outcome := by
  have succeeded (cohorts : List Cohort) : (Page.mk query cohorts none).outcome.exitCode = 0 :=
    Page.exit_code_eq_zero_iff.mpr rfl
  have failed (cohorts : List Cohort) (message : String) :
      (Page.mk query cohorts (some message)).outcome.exitCode = 1 :=
    (Page.outcome_of_error rfl).1
  cases shows with
  | unlisted failure =>
      refine ⟨?_, nofun, nofun, ?_⟩
      · simp [failed]
      · rintro _ ⟨⟩
        exact ⟨rfl, failed _ _⟩
  | @absent cohorts missing =>
      refine ⟨?_, ?_, nofun, nofun⟩
      · simp [succeeded]
      · rintro _ ⟨⟩ _
        rfl
  | @confirmed cohorts found result gone =>
      refine ⟨?_, ?_, ?_, nofun⟩
      · simp [succeeded, gone]
      · rintro _ ⟨⟩ _
        rfl
      · rintro _ failure ⟨⟩ ⟨⟩ stays
        rw [Client.confirms, stays] at gone
        cases gone
  | @kept cohorts found failure stays =>
      refine ⟨?_, ?_, ?_, nofun⟩
      · simp [failed, Client.confirms, stays]
      · rintro _ ⟨⟩ success
        rw [failed] at success
        cases success
      · rintro _ _ ⟨⟩ ⟨⟩ _
        exact ⟨rfl, failed _ _⟩

end RemovalPage

namespace Program

theorem request?_of_short {client : Client} (web : client.base.isWeb = true)
    (fits : client.base.hostFits = true) {name : CohortName}
    (short : (Utf8.encode (client.cohortUrl name).bare.text).length ≤ Url.longest) :
    (Service.remote client).request? (.remove name) = .ok (client.removalRequest name) := by
  rw [Service.request?, Client.request?,
    (Client.removal_request?_eq_ok_iff web short _).mpr ⟨fits, rfl⟩]
  rfl

section Configured

variable {clock : Nat} {arguments : Arguments} {place : Settings.Place} {environment : Environment}
  {settings : Settings} {client : Client} {name : CohortName}
  (configured : Configured clock arguments place environment settings client)
  (action : arguments.action = .remove name)
  (shortListing : client.Admits none)
  (shortRemoval : (Utf8.encode (client.cohortUrl name).bare.text).length ≤ Url.longest)

include configured action shortListing shortRemoval

theorem conversation_of_removal (peer : Peer) :
    ∃ (listed : Exchange) (removed? : Option Exchange) (page : Page),
      RemovalPage (Page.initial settings.viewOptions).query name
          (Client.listed (client.listingRequest none, listed))
          (removed?.map fun removed => Client.removed (client.removalRequest name, removed)) page ∧
        conversation clock peer arguments place environment =
          (shown (page.screen settings.viewOptions 1),
            (client.listingRequest none, listed) ::
              (removed?.map fun removed => (client.removalRequest name, removed)).toList) := by
  have patient := (can_wait_iff clock settings).mpr configured.patient
  have listing := request?_of_admits configured.web configured.fits shortListing
  have removal := request?_of_short configured.web configured.fits shortRemoval
  obtain ⟨page, session, removes, ran⟩ :=
    final_desk_run_of_removal (.remote client) peer settings.viewOptions name
  rw [← action] at ran
  have converses := conversation_of_serves configured.toServes patient ran
  cases removes with
  | absent listed missing =>
      obtain ⟨exchange, rfl, rfl⟩ := listed.single listing
      refine ⟨exchange, none, _, ?_, converses⟩
      rw [Call.answerOf] at missing ⊢
      cases brought : Client.listed (client.listingRequest none, exchange) with
      | error failure => exact .unlisted failure
      | ok cohorts =>
          rw [brought] at missing
          refine .absent fun cohort member same => Bool.eq_false_iff.mp missing ?_
          exact any_name_iff.mpr ⟨cohort, member, same⟩
  | present listed found removed =>
      obtain ⟨exchange, rfl, rfl⟩ := listed.single listing
      obtain ⟨answered, rfl, rfl⟩ := removed.single removal
      refine ⟨exchange, some answered, _, ?_, converses⟩
      rw [Call.answerOf] at found ⊢
      cases brought : Client.listed (client.listingRequest none, exchange) with
      | error failure =>
          rw [brought] at found
          cases found
      | ok cohorts =>
          rw [brought] at found
          exact RemovalPage.of_result (any_name_iff.mp found) _

/-- A run asks for the listing and then, if that has the name, once for the removal. What it ends
with goes by what the two brought. -/
theorem removal_run_removes_the_listed_name (peer : Peer) :
    let outcome := (conversation clock peer arguments place environment).1
    let session := (conversation clock peer arguments place environment).2
    ∃ (listed : Exchange) (removed? : Option Exchange),
      let listing := Client.listed (client.listingRequest none, listed)
      let removal? := removed?.map fun removed =>
        Client.removed (client.removalRequest name, removed)
      session = (client.listingRequest none, listed) ::
          (removed?.map fun removed => (client.removalRequest name, removed)).toList ∧
        (removed?.isSome = true ↔
          ∃ cohorts, listing = .ok cohorts ∧ ∃ cohort ∈ cohorts, cohort.name = name) ∧
        ((∀ cohorts, listing = .ok cohorts → Grid.Fits cohorts) →
          RemovalRun (Page.initial settings.viewOptions).query name listing removal? outcome) := by
  obtain ⟨listed, removed?, page, shows, ran⟩ :=
    conversation_of_removal configured action shortListing shortRemoval peer
  intro outcome session
  have exchanged := congrArg Prod.snd ran
  have ends : outcome = shown (page.screen settings.viewOptions 1) := congrArg Prod.fst ran
  clear_value outcome
  refine ⟨listed, removed?, exchanged, ?_, fun fits => ?_⟩
  · rw [← shows.is_some_iff, Option.isSome_map]
  · rw [ends, Page.shown_of_fits _ _ _ (shows.fits fits)]
    exact shows.ends

end Configured

theorem removing_asks_at_most_twice :
    let arguments := atSample (.remove "a b/c")
    Invocation.of ["--server-url", "http://cohorts.test/api", "remove", "a b/c"] =
        .run arguments ∧
      Configured anHour arguments .missing unset
        (Settings.standard.setServerUrl "http://cohorts.test/api") Client.sample ∧
      Client.sample.Admits none ∧
      (Utf8.encode (Client.sample.cohortUrl "a b/c").bare.text).length ≤ Url.longest ∧
      ∀ peer, ∃ (listed : Exchange) (removed? : Option Exchange),
        (conversation anHour peer arguments .missing unset).2 =
          (Client.sample.listingRequest none, listed) ::
            (removed?.map fun removed =>
              (Client.sample.removalRequest "a b/c", removed)).toList := by
  intro arguments
  have configured := at_sample_configured (.remove "a b/c")
  have shortListing : Client.sample.Admits none := by decide +kernel
  have shortRemoval :
      (Utf8.encode (Client.sample.cohortUrl "a b/c").bare.text).length ≤ Url.longest := by
    decide +kernel
  refine ⟨by decide +kernel, configured, shortListing, shortRemoval, fun peer => ?_⟩
  obtain ⟨listed, removed?, exchanged, -⟩ :=
    removal_run_removes_the_listed_name configured rfl shortListing shortRemoval peer
  exact ⟨listed, removed?, exchanged⟩

end Program

end CohortDesk
