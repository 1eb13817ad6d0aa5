import CohortDesk.Program

/-!
# Sessions with a service

A peer that answers each request by everything exchanged before it, and the log of these exchanges.
A call whose request cannot be built fails without an exchange; any other makes exactly one, and its
answer is what that exchange brings.
-/

namespace CohortDesk

set_option autoImplicit false

theorem StateM.run_bind_of_run {σ α β : Type} {first : StateM σ α} {before after : σ} {value : α}
    (ran : first.run before = (value, after)) (next : α → StateM σ β) :
    (first >>= next).run before = (next value).run after := by
  rw [StateT.run_bind, ran]
  rfl

/-- What was exchanged with the service, in its order. -/
abbrev Session := List (Request × Exchange)

/-- The other side of the connections. Its replies may depend on all that was exchanged before. -/
abbrev Peer := Session → Request → Exchange

/-- Exchanges one request and keeps the exchange. -/
def Peer.converse (peer : Peer) (request : Request) : StateM Session Exchange := do
  let exchange := peer (← get) request
  modify fun session => session ++ [(request, exchange)]
  pure exchange

namespace Client

/-- What an exchange for a listing brought. -/
def listed (entry : Request × Exchange) : Except Failure (List Cohort) :=
  outcome entry.1 Reply.listing entry.2

/-- What an exchange for a removal brought. -/
def removed (entry : Request × Exchange) : Except Failure Unit :=
  outcome entry.1 Reply.removal entry.2

/-- A removal is confirmed by a success, and by a failure that says there is no such cohort. -/
def confirms : Except Failure Unit → Bool
  | .ok _ => true
  | .error failure => failure.isNotFound

theorem exchange_run {α : Type} (peer : Peer) (request? : Except TransportFault Request)
    (read : Reply → Except Failure α) (session : Session) :
    (exchange peer.converse request? read).run session =
      match request? with
      | .ok request =>
        (outcome request read (peer session request),
          session ++ [(request, peer session request)])
      | .error fault => (.error (.transport fault), session) := by
  cases request? <;> rfl

end Client

namespace Answer

def ofListing : Except Failure (List Cohort) → Answer
  | .ok cohorts => .success cohorts
  | .error reason => .failure reason

def ofRemoval : Except Failure Unit → Answer
  | .ok _ => .success []
  | .error reason => .failure reason

end Answer

/-- The listing that an answer brings, if it is the answer to one. -/
def Answer.listing? : Answer → Option (List Cohort)
  | .success cohorts => some cohorts
  | .failure _ => none

@[simp] theorem Answer.listing?_of_listing (result : Except Failure (List Cohort)) :
    (ofListing result).listing? = result.toOption := by
  cases result <;> rfl

namespace Session

def requests (session : Session) : List Request := session.map Prod.fst

/-- The listing that an exchange brought. -/
def listing? (entry : Request × Exchange) : Option (List Cohort) :=
  if entry.1.method = .get then (Client.listed entry).toOption else none

def listings (session : Session) : List (List Cohort) := session.filterMap listing?

/-- The listing that succeeded last, and no cohorts if none did. -/
def latest (session : Session) : List Cohort := session.listings.getLast?.getD []

end Session

/-- The answer to a call from the exchange that was made for it. -/
def Call.answerOf (entry : Request × Exchange) : Call → Answer
  | .list _ => .ofListing (Client.listed entry)
  | .remove _ => .ofRemoval (Client.removed entry)

def Call.method : Call → Method
  | .list _ => .get
  | .remove _ => .delete

theorem Request.method_of_built {method : Method} {url : Url}
    {pairs : Option (List (List Char × List Char))} {request : Request}
    (built : of? method url pairs = .ok request) : request.method = method := by
  unfold of? at built
  split at built
  next => cases built
  next =>
    simp only at built
    split at built
    next =>
      cases built
      rfl
    next => cases built

namespace Client

def request? (client : Client) : Call → Except TransportFault Request
  | .list query => client.listingRequest? query
  | .remove name => client.removalRequest? name

theorem request?_eq_of? (client : Client) (call : Call) :
    ∃ url pairs, client.request? call = Request.of? call.method url pairs := by
  cases call with
  | list query => exact ⟨_, _, rfl⟩
  | remove name => exact ⟨_, _, rfl⟩

end Client

namespace Service

/-- The request for a call, if the service can be asked. -/
def request? : Service → Call → Except Failure Request
  | .missing, _ => .error .unavailable
  | .remote client, call => (client.request? call).mapError .transport

/-- A call makes one exchange and is answered by it, or fails because its request cannot be
built. -/
theorem answer_run (service : Service) (peer : Peer) (call : Call) (session : Session) :
    (service.answer peer.converse call).run session =
      match service.request? call with
      | .ok request =>
        (call.answerOf (request, peer session request),
          session ++ [(request, peer session request)])
      | .error failure => (.failure failure, session) := by
  cases service with
  | missing => rfl
  | remote client =>
      cases call with
      | list query =>
          have mapped : (Service.remote client).answer peer.converse (.list query) =
              Answer.ofListing <$> client.list peer.converse query := by
            rw [map_eq_pure_bind]
            refine congrArg (client.list peer.converse query >>= ·) (funext fun result => ?_)
            cases result <;> rfl
          rw [mapped, StateT.run_map, Client.list, Client.exchange_run, request?, Client.request?]
          cases client.listingRequest? query <;> rfl
      | remove name =>
          have mapped : (Service.remote client).answer peer.converse (.remove name) =
              Answer.ofRemoval <$> client.remove peer.converse name := by
            rw [map_eq_pure_bind]
            refine congrArg (client.remove peer.converse name >>= ·) (funext fun result => ?_)
            cases result <;> rfl
          rw [mapped, StateT.run_map, Client.remove, Client.exchange_run, request?, Client.request?]
          cases client.removalRequest? name <;> rfl

theorem method_of_request? {service : Service} {call : Call} {request : Request}
    (built : service.request? call = .ok request) : request.method = call.method := by
  cases service with
  | missing => cases built
  | remote client =>
      obtain ⟨url, pairs, made⟩ := client.request?_eq_of? call
      rw [request?, made] at built
      cases outcome : Request.of? call.method url pairs with
      | error fault =>
          rw [outcome] at built
          cases built
      | ok other =>
          rw [outcome] at built
          cases built
          exact Request.method_of_built outcome

/-- A call that is not sent does not find out whether a cohort exists. -/
theorem is_not_found_of_request? {service : Service} {call : Call} {failure : Failure}
    (refused : service.request? call = .error failure) : failure.isNotFound = false := by
  cases service with
  | missing =>
      cases refused
      rfl
  | remote client =>
      rw [request?] at refused
      cases made : client.request? call with
      | error fault =>
          rw [made] at refused
          cases refused
          rfl
      | ok other =>
          rw [made] at refused
          cases refused

/-- Calls made one after the other, the exchanges made for them, and their answers. -/
inductive Answered (service : Service) : List Call → Session → List Answer → Prop
  | nil : Answered service [] [] []
  | exchanged {call : Call} {request : Request} (exchange : Exchange) {calls : List Call}
      {session : Session} {answers : List Answer} (built : service.request? call = .ok request)
      (rest : Answered service calls session answers) :
      Answered service (call :: calls) ((request, exchange) :: session)
        (call.answerOf (request, exchange) :: answers)
  | refused {call : Call} {failure : Failure} {calls : List Call} {session : Session}
      {answers : List Answer} (unbuilt : service.request? call = .error failure)
      (rest : Answered service calls session answers) :
      Answered service (call :: calls) session (.failure failure :: answers)

theorem answer_answered (service : Service) (peer : Peer) (call : Call) (before : Session) :
    ∃ answer session,
      (service.answer peer.converse call).run before = (answer, before ++ session) ∧
        service.Answered [call] session [answer] := by
  cases made : service.request? call with
  | error failure =>
      refine ⟨.failure failure, [], ?_, .refused made .nil⟩
      rw [answer_run, made, List.append_nil]
  | ok request =>
      refine ⟨_, [(request, peer before request)], ?_, .exchanged _ made .nil⟩
      rw [answer_run, made]

theorem Answered.cons {service : Service} {call : Call} {calls : List Call}
    {first rest : Session} {answer : Answer} {answers : List Answer}
    (here : service.Answered [call] first [answer])
    (later : service.Answered calls rest answers) :
    service.Answered (call :: calls) (first ++ rest) (answer :: answers) := by
  cases here with
  | exchanged exchange built nothing =>
      cases nothing
      exact .exchanged exchange built later
  | refused unbuilt nothing =>
      cases nothing
      exact .refused unbuilt later

theorem answers_answered (service : Service) (peer : Peer) (calls : List Call)
    (before : Session) :
    ∃ answers session,
      (calls.mapM (service.answer peer.converse)).run before = (answers, before ++ session) ∧
        service.Answered calls session answers := by
  induction calls generalizing before with
  | nil =>
      refine ⟨[], [], ?_, .nil⟩
      rw [List.mapM_nil, List.append_nil]
      rfl
  | cons call rest ih =>
      obtain ⟨answer, first, ran, here⟩ := answer_answered service peer call before
      obtain ⟨answers, session, ranRest, later⟩ := ih (before ++ first)
      refine ⟨answer :: answers, first ++ session, ?_, here.cons later⟩
      rw [List.mapM_cons, StateM.run_bind_of_run ran, StateM.run_bind_of_run ranRest,
        List.append_assoc]
      rfl

namespace Answered

variable {service : Service} {calls : List Call} {session : Session} {answers : List Answer}

/-- A call that was not sent brought no listing, so the log has all of them. -/
theorem listings_eq (answered : service.Answered calls session answers)
    (reads : ∀ call ∈ calls, call.method = .get) :
    session.listings = answers.filterMap Answer.listing? := by
  induction answered with
  | nil => rfl
  | @exchanged call request exchange calls session answers built rest ih =>
      have later := ih fun next member => reads next (List.mem_cons_of_mem _ member)
      have here := reads call List.mem_cons_self
      have method : request.method = .get := (method_of_request? built).trans here
      have brought : Session.listing? (request, exchange) =
          (call.answerOf (request, exchange)).listing? := by
        cases call with
        | list query =>
            rw [Session.listing?, if_pos method, Call.answerOf, Answer.listing?_of_listing]
        | remove name => cases here
      rw [Session.listings, List.filterMap_cons, List.filterMap_cons, brought, ← later]
      rfl
  | refused unbuilt rest ih =>
      exact ih fun next member => reads next (List.mem_cons_of_mem _ member)

/-- A call that can be sent makes its one exchange. -/
theorem single {call : Call} {request : Request} {answer : Answer}
    (answered : service.Answered [call] session [answer])
    (built : service.request? call = .ok request) :
    ∃ exchange, session = [(request, exchange)] ∧ answer = call.answerOf (request, exchange) := by
  cases answered with
  | exchanged exchange made nothing =>
      cases nothing
      rw [built] at made
      cases made
      exact ⟨exchange, rfl, rfl⟩
  | refused unbuilt nothing =>
      rw [built] at unbuilt
      cases unbuilt

/-- Listings that can all be asked for are asked for one after the other. -/
theorem of_built {queries : List (Option Query)} {request : Option Query → Request}
    (answered : service.Answered (queries.map .list) session answers)
    (built : ∀ query ∈ queries, service.request? (.list query) = .ok (request query)) :
    session.requests = queries.map request ∧
      answers = session.map fun entry => .ofListing (Client.listed entry) := by
  induction queries generalizing session answers with
  | nil =>
      cases answered
      exact ⟨rfl, rfl⟩
  | cons query rest ih =>
      have here := built query List.mem_cons_self
      cases answered with
      | exchanged exchange made later =>
          obtain ⟨requests, answers⟩ := ih later fun next member =>
            built next (List.mem_cons_of_mem _ member)
          rw [here] at made
          cases made
          rw [answers, List.map_cons, ← requests]
          exact ⟨rfl, rfl⟩
      | refused unbuilt later =>
          rw [here] at unbuilt
          cases unbuilt

end Answered

end Service

end CohortDesk
