import CohortDesk.Proofs.Program.Removal
import CohortDesk.Proofs.Wire

/-!
# The limits of a run

A run crashes for two reasons only: the clock cannot tell the end of the wait, or a cell of the
cohorts left at the end is too long for the widest column. Settings and listings may do either.
-/

namespace CohortDesk

set_option autoImplicit false

open CommandLine Text

namespace Session

/-- Whether an exchange confirmed a removal. -/
def confirms (entry : Request × Exchange) : Bool :=
  entry.1.method == .delete && Client.confirms (Client.removed entry)

/-- The cohorts that a session leaves on the page of an action. -/
def left (session : Session) : Action → List Cohort
  | .list _ _ _ _ => session.latest
  | .remove name =>
    if session.any confirms then withoutFirst session.latest name else session.latest

theorem latest_append_of_deletes (session : Session) {more : Session}
    (deletes : ∀ entry ∈ more, entry.1.method = .delete) :
    latest (session ++ more) = session.latest := by
  have nothing : listings more = [] := by
    refine List.filterMap_eq_nil_iff.mpr fun entry member => ?_
    rw [listing?, deletes entry member, if_neg (by decide)]
  rw [latest, listings, List.filterMap_append]
  change (session.listings ++ more.listings).getLast?.getD [] = _
  rw [nothing, List.append_nil, latest]

end Session

/-- A success with a listing in its body. -/
def Reply.carrying (cohorts : List Cohort) : Reply :=
  { status := 200
    body := Utf8.encode (encode Cohort.listToJson cohorts).toList
    complete := true }

/-- Whatever the cohorts, their listing can be received. -/
theorem Reply.listing_carrying (cohorts : List Cohort) :
    (Reply.carrying cohorts).listing = .ok cohorts := by
  have read : (Reply.carrying cohorts).cohorts? = some cohorts := by
    simp only [cohorts?, carrying, if_true, decode_bytes?_encode]
    exact Cohort.listing_reads_back.round_trips.restores cohorts
  have success : (Reply.carrying cohorts).isSuccess = true := rfl
  rw [listing, if_pos success, read]

namespace Service.Answered

variable {service : Service} {calls : List Call} {session : Session} {answers : List Answer}

theorem methods {method : Method} (answered : service.Answered calls session answers)
    (same : ∀ call ∈ calls, call.method = method) : ∀ entry ∈ session, entry.1.method = method := by
  induction answered with
  | nil => exact fun entry member => absurd member List.not_mem_nil
  | exchanged exchange built rest ih =>
      intro entry member
      rcases List.mem_cons.mp member with rfl | later
      · exact (method_of_request? built).trans (same _ List.mem_cons_self)
      · exact ih (fun next member => same next (List.mem_cons_of_mem _ member)) entry later
  | refused unbuilt rest ih =>
      exact ih fun next member => same next (List.mem_cons_of_mem _ member)

end Service.Answered

namespace Program

variable {service : Service} {options : ViewOptions} {name : CohortName} {page : Page}
  {session : Session}

/-- The first listing of a run, as its log has it. -/
theorem cohorts_of_first {answer : Answer}
    (listed : service.Answered [.list none] session [answer]) :
    ((Page.initial options).listed answer).cohorts = session.latest ∧
      session.any Session.confirms = false := by
  have reads : ∀ call ∈ [Call.list none], call.method = .get := by simp [Call.method]
  constructor
  · rw [Session.latest, listed.listings_eq reads]
    exact Page.cohorts_listed (Page.initial options) [answer]
  · refine List.any_eq_false.mpr fun entry member => ?_
    rw [Session.confirms, listed.methods reads entry member]
    exact Bool.false_ne_true

/-- A removal, as the log has it: one that could not be sent is not confirmed either. -/
theorem removed_of_answered {answer : Answer}
    (removed : service.Answered [.remove name] session [answer]) (page : Page) :
    (page.removed name answer).cohorts =
      if session.any Session.confirms then withoutFirst page.cohorts name else page.cohorts := by
  cases removed with
  | @exchanged call request exchange calls rest answers built nothing =>
      cases nothing
      have method : request.method = .delete := Service.method_of_request? built
      have confirms : [(request, exchange)].any Session.confirms =
          Client.confirms (Client.removed (request, exchange)) := by
        rw [List.any_cons, List.any_nil, Bool.or_false, Session.confirms, method]
        rfl
      rw [confirms, Call.answerOf, Page.removed_cohorts]
  | refused unbuilt nothing =>
      cases nothing
      have stays := Service.is_not_found_of_request? unbuilt
      rw [Page.removed, stays, if_neg Bool.false_ne_true, List.any_nil,
        if_neg Bool.false_ne_true]

/-- What a removal run leaves on its page can be told from what it exchanged. -/
theorem Removes.cohorts (removes : Removes service options name page session) :
    page.cohorts = session.left (.remove name) := by
  cases removes with
  | absent listed missing =>
      obtain ⟨cohorts, unconfirmed⟩ := cohorts_of_first listed
      rw [Session.left, unconfirmed, if_neg Bool.false_ne_true, cohorts]
  | present listed found removed =>
      -- The listing confirms no removal, and the removal brings no listing.
      have deletes : ∀ call ∈ [Call.remove name], call.method = .delete := by simp [Call.method]
      obtain ⟨cohorts, unconfirmed⟩ := cohorts_of_first listed
      rw [removed_of_answered removed, cohorts, Session.left,
        Session.latest_append_of_deletes _ (removed.methods deletes), List.any_append,
        unconfirmed, Bool.false_or]

/-- Every run that asks the service comes to rest at a page with the cohorts that its session
left. -/
theorem final_desk_run_shows (service : Service) (peer : Peer) (options : ViewOptions)
    (action : Action) :
    ∃ page number session, page.cohorts = session.left action ∧
      (finalDesk service peer.converse options action).run [] =
        (.resting options number page, session) := by
  cases action with
  | list filter order limit page =>
      obtain ⟨answers, session, answered, ran⟩ := final_desk_run_of_retrievals service peer options
        (gestures_retrieve filter order limit page)
      refine ⟨_, _, session, ?_, ran⟩
      rw [Page.cohorts_listed, Session.left, Session.latest,
        answered.listings_eq (by simp [Call.method])]
      rfl
  | remove name =>
      obtain ⟨page, session, removes, ran⟩ := final_desk_run_of_removal service peer options name
      exact ⟨page, 1, session, removes.cohorts, ran⟩

theorem crashed_iff_of_serves {arguments : Arguments} {place : Settings.Place}
    {environment : Environment} {settings : Settings}
    (serves : Serves arguments place environment settings service) (clock : Nat) (peer : Peer) :
    (conversation clock peer arguments place environment).1 = .crashed ↔
      clockLimit < clock + (settings.requestTimeoutSecs.toNat + Settings.settleMargin) ∨
        ¬Grid.Fits
          ((conversation clock peer arguments place environment).2.left arguments.action) := by
  by_cases patient : canWait clock settings = true
  · obtain ⟨page, number, session, cohorts, ran⟩ :=
      final_desk_run_shows service peer settings.viewOptions arguments.action
    have soon := Nat.not_lt.mpr ((can_wait_iff clock settings).mp patient)
    rw [conversation_of_serves serves patient ran, or_iff_right soon, ← cohorts]
    exact Page.shown_eq_crashed_iff settings.viewOptions number page
  · have late :
        clockLimit < clock + (settings.requestTimeoutSecs.toNat + Settings.settleMargin) :=
      Nat.not_le.mp (mt (can_wait_iff clock settings).mpr patient)
    rw [conversation, run_of_serves serves, if_neg patient]
    exact iff_of_true rfl (Or.inl late)

/-- A run crashes exactly if the clock cannot tell the end of the wait for the service, or if a cell
of the cohorts that are left to be shown is too long. -/
theorem run_crashes_exactly_beyond_its_limits (clock : Nat) (peer : Peer) (arguments : Arguments)
    (place : Settings.Place) (environment : Environment) :
    let outcome := (conversation clock peer arguments place environment).1
    let session := (conversation clock peer arguments place environment).2
    outcome = .crashed ↔
      ∃ settings service, Serves arguments place environment settings service ∧
        (clockLimit < clock + (settings.requestTimeoutSecs.toNat + Settings.settleMargin) ∨
          ∃ cohort ∈ session.left arguments.action, ∃ column : Column,
            Grid.widestColumn < (column.cell cohort).length) := by
  intro outcome session
  have wide : (∃ cohort ∈ session.left arguments.action, ∃ column : Column,
      Grid.widestColumn < (column.cell cohort).length) ↔
        ¬Grid.Fits (session.left arguments.action) := by
    simp only [Grid.Fits, not_forall, Nat.not_le, exists_prop]
  simp only [wide]
  constructor
  · intro crashed
    by_contra lost
    have unserved (settings : Settings) (service : Service) :
        ¬Serves arguments place environment settings service := fun serves =>
      lost ⟨settings, service, serves, (crashed_iff_of_serves serves clock peer).mp crashed⟩
    obtain ⟨output, complaint, finished⟩ := finished_of_not_serves clock peer unserved
    exact absurd (finished.symm.trans crashed) nofun
  · rintro ⟨settings, service, serves, limits⟩
    exact (crashed_iff_of_serves serves clock peer).mpr limits

/-- A peer that answers with a listing of a cell too long makes any plain run crash. -/
theorem crashed_of_wide_listing {clock : Nat} {arguments : Arguments} {place : Settings.Place}
    {environment : Environment} {settings : Settings} {client : Client}
    (configured : Configured clock arguments place environment settings client)
    (action : arguments.action = .list none none none none) (short : client.Admits none)
    {cohorts : List Cohort} (wide : ¬Grid.Fits cohorts) :
    (conversation clock (fun _ _ => .answered (.carrying cohorts)) arguments place environment).1 =
      .crashed := by
  have patient := (can_wait_iff clock settings).mpr configured.patient
  let entry : Request × Exchange := (client.listingRequest none, .answered (.carrying cohorts))
  have brought : Client.listed entry = .ok cohorts := Reply.listing_carrying cohorts
  have answered : ((Service.remote client).answer
      (Peer.converse fun _ _ => .answered (.carrying cohorts)) (.list none)).run [] =
        (.success cohorts, [entry]) := by
    rw [Service.answer_run, request?_of_admits configured.web configured.fits short]
    change (Answer.ofListing (Client.listed entry), [entry]) = _
    rw [brought]
    rfl
  have ran : (finalDesk (.remote client)
      (Peer.converse fun _ _ => .answered (.carrying cohorts)) settings.viewOptions
      arguments.action).run [] =
        (.resting settings.viewOptions 1
          ((Page.initial settings.viewOptions).listed (.success cohorts)), [entry]) := by
    rw [action, finalDesk, Desk.start_eq_fetch, settled_fetch, bind_assoc]
    exact StateM.run_bind_of_run answered _
  rw [conversation_of_serves configured.toServes patient ran]
  exact (Page.shown_eq_crashed_iff settings.viewOptions 1 _).mpr wide

/-- Asks for requests that may take longer than any clock can tell. -/
def endless : Environment := fun name =>
  if name = "APP__REQUEST_TIMEOUT_SECS" then some "18446744073709551611" else none

set_option maxRecDepth 4000 in
theorem endless_wait_and_long_name_crash :
    (∃ settings, Settings.load defaultSettingsPath .missing endless = .ok settings ∧
        settings.settleTimeout? = none) ∧
      (∀ clock peer, (conversation clock peer
        { settingsPath := defaultSettingsPath
          serverUrl := none
          action := .list none none none none } .missing endless).1 = .crashed) ∧
      ∃ reply cohorts, Reply.listing reply = .ok cohorts ∧
        (conversation anHour (fun _ _ => .answered reply) (atSample (.list none none none none))
          .missing unset).1 = .crashed := by
  have loaded : Settings.load defaultSettingsPath .missing endless =
      .ok { Settings.standard with requestTimeoutSecs := 18446744073709551611 } := by
    rfl
  have wide : ¬Grid.Fits [Cohort.named (String.ofList (List.replicate 65536 'a'))] := by
    intro fits
    have narrow := fits _ (List.mem_singleton_self _) .name
    rw [Column.cell, Cohort.named, String.toList_ofList, List.length_replicate] at narrow
    exact absurd narrow (by decide)
  refine ⟨⟨_, loaded, by decide⟩, fun clock peer => ?_, _, _, Reply.listing_carrying _,
    crashed_of_wide_listing (at_sample_configured _) rfl (by decide +kernel) wide⟩
  have serves : Serves
      { settingsPath := defaultSettingsPath
        serverUrl := none
        action := .list none none none none } .missing endless
      { Settings.standard with requestTimeoutSecs := 18446744073709551611 } .missing :=
    { loaded := by rfl
      served := rfl }
  exact (crashed_iff_of_serves serves clock peer).mpr (Or.inl (Nat.lt_add_left clock (by decide)))

end Program

end CohortDesk
