import CohortDesk.Proofs.Program.Gestures
import CohortDesk.Proofs.Service.Session

/-!
# Runs against a service

A whole run with a peer, from the settings to the outcome, together with the log of what it
exchanged. Once settings and service are there and the clock can wait for them, a run is its calls,
and it ends with the page that their answers make.
-/

namespace CohortDesk

set_option autoImplicit false

open CommandLine

namespace Page

/-- The cohorts on a page are those of the last listing that succeeded. -/
theorem cohorts_listed (page : Page) (answers : List Answer) :
    (answers.foldl listed page).cohorts =
      (answers.filterMap Answer.listing?).getLast?.getD page.cohorts := by
  induction answers generalizing page with
  | nil => rfl
  | cons answer rest ih =>
      rw [List.foldl_cons, ih, List.filterMap_cons]
      cases answer with
      | success cohorts => rw [Answer.listing?, List.getLast?_cons, Option.getD_some, listed]
      | failure failure => rfl

theorem query_listed (page : Page) (answers : List Answer) :
    (answers.foldl listed page).query = page.query := by
  induction answers generalizing page with
  | nil => rfl
  | cons answer rest ih => rw [List.foldl_cons, ih, listed_query]

theorem removed_cohorts (page : Page) (name : CohortName) (result : Except Failure Unit) :
    (page.removed name (.ofRemoval result)).cohorts =
      if Client.confirms result then withoutFirst page.cohorts name else page.cohorts := by
  cases result with
  | ok nothing => rfl
  | error failure =>
      rw [Answer.ofRemoval, removed, Client.confirms]
      split <;> rfl

end Page

namespace Program

/-- How a run ends and what it exchanged. -/
def conversation (clock : Nat) (peer : Peer) (arguments : Arguments) (place : Settings.Place)
    (environment : Environment) : Outcome × Session :=
  (run clock peer.converse arguments place environment).run []

/-- The settings that a run works with and the service they name. -/
structure Serves (arguments : Arguments) (place : Settings.Place) (environment : Environment)
    (settings : Settings) (service : Service) : Prop where
  loaded : (Settings.load arguments.settingsPath place environment).map
    (·.overrideUrl arguments.serverUrl) = .ok settings
  served : Service.of? settings = .ok service

/-- The service is a web server, under a host that requests may have, and the clock can tell the end
of the wait for it. Such a host has no quotation mark, no backquote and no brace, opening or
closing: a URL may have these four in its host, but no request can be sent there. -/
structure Configured (clock : Nat) (arguments : Arguments) (place : Settings.Place)
    (environment : Environment) (settings : Settings) (client : Client) : Prop
    extends Serves arguments place environment settings (.remote client) where
  web : client.base.isWeb = true
  fits : client.base.hostFits = true
  patient : clock + (settings.requestTimeoutSecs.toNat + Settings.settleMargin) ≤ clockLimit

theorem can_wait_iff (clock : Nat) (settings : Settings) :
    canWait clock settings = true ↔
      clock + (settings.requestTimeoutSecs.toNat + Settings.settleMargin) ≤ clockLimit := by
  have below : clockLimit < UInt64.size := by decide
  rw [canWait, Settings.settleTimeout?]
  by_cases held : settings.requestTimeoutSecs.toNat + Settings.settleMargin < UInt64.size
  · rw [if_pos held, Option.any_some, decide_eq_true_iff]
  · rw [if_neg held, Option.any_none]
    exact iff_of_false Bool.false_ne_true fun soon =>
      held (Nat.lt_of_le_of_lt (Nat.le_of_add_left_le soon) below)

section Serves

variable {arguments : Arguments} {place : Settings.Place} {environment : Environment}
  {settings : Settings} {service : Service}

theorem run_of_serves {m : Type → Type} [Monad m]
    (serves : Serves arguments place environment settings service) (clock : Nat)
    (send : Request → m Exchange) :
    run clock send arguments place environment =
      if canWait clock settings then do
        let desk ← finalDesk service send settings.viewOptions arguments.action
        pure (shown desk.screen)
      else pure .crashed := by
  obtain ⟨loaded, served⟩ := serves
  unfold run
  cases read : Settings.load arguments.settingsPath place environment with
  | error fault =>
      rw [read] at loaded
      cases loaded
  | ok first =>
      rw [read] at loaded
      cases loaded
      simp only [runWith, served]

/-- A run in which nothing keeps the clock from waiting shows the final desk. -/
theorem conversation_of_serves (serves : Serves arguments place environment settings service)
    {clock : Nat} (patient : canWait clock settings = true) {peer : Peer} {desk : Desk}
    {session : Session}
    (ran : (finalDesk service peer.converse settings.viewOptions arguments.action).run [] =
      (desk, session)) :
    conversation clock peer arguments place environment = (shown desk.screen, session) := by
  rw [conversation, run_of_serves serves, if_pos patient, StateM.run_bind_of_run ran]
  rfl

end Serves

/-- A run without settings or without a service prints a complaint. -/
theorem finished_of_not_serves {arguments : Arguments} {place : Settings.Place}
    {environment : Environment} (clock : Nat) (peer : Peer)
    (lost : ∀ settings service, ¬Serves arguments place environment settings service) :
    ∃ output complaint,
      (conversation clock peer arguments place environment).1 =
        .finished output (some complaint) := by
  unfold conversation run
  cases read : Settings.load arguments.settingsPath place environment with
  | error fault => exact ⟨_, _, rfl⟩
  | ok first =>
      simp only [runWith]
      cases found : Service.of? (first.overrideUrl arguments.serverUrl) with
      | error failure => exact ⟨_, _, rfl⟩
      | ok service =>
          refine absurd ⟨?_, found⟩ (lost _ service)
          rw [read]
          rfl

/-- A run that only asks for listings: its calls and the desk it ends with. -/
theorem final_desk_run_of_retrievals (service : Service) (peer : Peer) (options : ViewOptions)
    {action : Action} (retrieve : ∀ made ∈ gestures action, made.retrieves = true) :
    ∃ answers session,
      service.Answered ((asked options (gestures action)).map .list) session answers ∧
        (finalDesk service peer.converse options action).run [] =
          (.resting options (1 + (gestures action).length)
            (answers.foldl Page.listed
              ((Page.initial options).asking
                ((gestures action).foldl Query.edited (Page.initial options).query))),
            session) := by
  obtain ⟨answers, session, ran, answered⟩ :=
    service.answers_answered peer ((asked options (gestures action)).map .list) []
  refine ⟨answers, session, answered, ?_⟩
  rw [List.mapM_map] at ran
  rw [final_desk_of_retrievals service peer.converse options retrieve]
  exact StateM.run_bind_of_run ran _

/-- The page and the log of a run that removes a cohort: the removal is called for if the first
listing has the name. -/
inductive Removes (service : Service) (options : ViewOptions) (name : CohortName) :
    Page → Session → Prop
  | absent {first : Answer} {session : Session}
      (listed : service.Answered [.list none] session [first])
      (missing : ((Page.initial options).listed first).cohorts.any (·.name == name) = false) :
      Removes service options name ((Page.initial options).listed first) session
  | present {first second : Answer} {session more : Session}
      (listed : service.Answered [.list none] session [first])
      (found : ((Page.initial options).listed first).cohorts.any (·.name == name) = true)
      (removed : service.Answered [.remove name] more [second]) :
      Removes service options name (((Page.initial options).listed first).removed name second)
        (session ++ more)

theorem final_desk_run_of_removal (service : Service) (peer : Peer) (options : ViewOptions)
    (name : CohortName) :
    ∃ page session, Removes service options name page session ∧
      (finalDesk service peer.converse options (.remove name)).run [] =
        (.resting options 1 page, session) := by
  obtain ⟨first, session, ran, listed⟩ := service.answer_answered peer (.list none) []
  rw [final_desk_of_removal service peer.converse options name, StateM.run_bind_of_run ran]
  cases found : ((Page.initial options).listed first).cohorts.any (·.name == name) with
  | true =>
      obtain ⟨second, more, ranMore, removed⟩ :=
        service.answer_answered peer (.remove name) session
      refine ⟨_, _, .present listed found removed, ?_⟩
      simp only [found, if_true, List.nil_append]
      exact StateM.run_bind_of_run ranMore _
  | false =>
      refine ⟨_, _, .absent listed found, ?_⟩
      simp only [found, Bool.false_eq_true, if_false, List.nil_append]
      rfl

end Program

end CohortDesk
