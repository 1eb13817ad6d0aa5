import CohortDesk.Proofs.Service.Reply
import CohortDesk.Proofs.Service.Verdict
import CohortDesk.Proofs.Worker.Arrival

/-!
# Errors that can be read

An error on the screen is either the queue's or the message of a failed call. All of them have words
of their own but one: a refusal is shown in the words of the service, and these may be blank. A
blank body gives way to the reason of its status; a blank message in a refusal gives way to nothing.
-/

namespace CohortDesk

set_option autoImplicit false

open Text

/-- The message has a character that is not blank. -/
def Legible (message : String) : Prop := ∃ c ∈ message.toList, isBlank c = false

theorem legible_iff_any {message : String} :
    message.toList.any (fun c => !isBlank c) = true ↔ Legible message := by
  simp only [List.any_eq_true, Bool.not_eq_true', Legible]

instance (message : String) : Decidable (Legible message) := decidable_of_iff _ legible_iff_any

theorem Legible.append {first : String} (legible : Legible first) (rest : String) :
    Legible (first ++ rest) := by
  obtain ⟨c, member, visible⟩ := legible
  refine ⟨c, ?_, visible⟩
  rw [String.toList_append]
  exact List.mem_append_left _ member

theorem QueueFault.legible_message (fault : QueueFault) : Legible fault.message := by
  cases fault <;> decide

namespace Failure

/-- A refusal whose message is blank, or empty. -/
def IsWordless : Failure → Prop
  | .rejected refusal => ¬Legible refusal.message
  | _ => False

theorem is_wordless_iff {failure : Failure} :
    failure.IsWordless ↔ ∃ refusal, failure = .rejected refusal ∧ ¬Legible refusal.message := by
  constructor
  · intro wordless
    cases failure with
    | rejected refusal => exact ⟨refusal, rfl, wordless⟩
    | _ => cases wordless
  · rintro ⟨refusal, rfl, blank⟩
    exact blank

theorem legible_message_iff (failure : Failure) :
    Legible failure.message ↔ ¬failure.IsWordless := by
  cases failure with
  | invalidUrl url reason =>
      have words : Legible "invalid cohort service url '" := by decide
      exact iff_of_true (((words.append url).append "': ").append reason) id
  | transport fault =>
      have words : Legible "cohort service request failed: " := by decide
      exact iff_of_true (words.append fault.message) id
  | rejected refusal => exact Decidable.not_not.symm
  | status code message =>
      have words : Legible "cohort service returned " := by decide
      have numbered := words.append (String.ofList (digits code))
      exact iff_of_true ((numbered.append ": ").append message) id
  | unavailable =>
      have words : Legible "cohort service unavailable" := by decide
      exact iff_of_true words id

end Failure

namespace Reply

/-- The refusal in the body has a blank message. -/
def RefusesInBlanks (reply : Reply) : Prop :=
  ∃ refusal, reply.Refuses refusal ∧ ¬Legible refusal.message

theorem failure_is_wordless_iff (reply : Reply) :
    reply.failure.IsWordless ↔ reply.RefusesInBlanks := by
  simp only [Failure.is_wordless_iff, failure_eq_rejected_iff, RefusesInBlanks]

theorem refuses_in_blanks_of_listing {reply : Reply} {failure : Failure}
    (failed : reply.listing = .error failure) (wordless : failure.IsWordless) :
    reply.RefusesInBlanks := by
  unfold listing at failed
  split at failed
  · split at failed
    · cases failed
    · cases failed
      cases wordless
  · cases failed
    exact reply.failure_is_wordless_iff.1 wordless

theorem refuses_in_blanks_of_removal {reply : Reply} {failure : Failure}
    (failed : reply.removal = .error failure) (wordless : failure.IsWordless) :
    reply.RefusesInBlanks := by
  unfold removal at failed
  split at failed
  · cases failed
  · cases failed
    exact reply.failure_is_wordless_iff.1 wordless

end Reply

/-- What the event reports as having gone wrong. -/
def Event.notice? : Event → Option Notice
  | .loadFailed _ notice | .removeFailed _ notice | .workerFailed notice => some notice
  | .loaded _ _ | .removed _ => none

def Event.IsLegible (event : Event) : Prop := ∀ notice ∈ event.notice?, Legible notice.message

def Answer.IsWordless : Answer → Prop
  | .failure fault => fault.IsWordless
  | .success _ => False

theorem completion_is_legible (command : Command) {answer : Answer} (worded : ¬answer.IsWordless) :
    (command.completion answer).IsLegible := by
  cases answer with
  | success cohorts =>
      intro notice reported
      cases command <;> cases reported
  | failure failure =>
      have legible := failure.legible_message_iff.2 worded
      cases command with
      | fetch request query =>
          rintro notice ⟨⟩
          exact legible
      | remove name =>
          intro notice reported
          simp only [Command.completion] at reported
          split at reported
          · cases reported
          · cases reported
            exact legible

/-- A call that fails on its way has words for it, so only the reply can leave it without. -/
theorem Client.exchange_is_wordless {α : Type} {exchange : Exchange}
    {request? : Except TransportFault Request} {read : Reply → Except Failure α}
    (blanks : ∀ {reply failure}, read reply = .error failure → failure.IsWordless →
      reply.RefusesInBlanks)
    {failure : Failure}
    (failed : Client.exchange (m := Id) (fun _ => exchange) request? read = .error failure)
    (wordless : failure.IsWordless) :
    ∃ reply, exchange = .answered reply ∧ reply.RefusesInBlanks := by
  cases request? with
  | error fault =>
      cases failed
      cases wordless
  | ok request =>
      cases exchange with
      | broken =>
          cases failed
          cases wordless
      | answered reply => exact ⟨reply, rfl, blanks failed wordless⟩

theorem Service.answer_list (client : Client) (exchange : Exchange) (query : Option Query) :
    (Service.remote client).answer (m := Id) (fun _ => exchange) (.list query) =
      match client.list (m := Id) (fun _ => exchange) query with
      | .ok cohorts => .success cohorts
      | .error failure => .failure failure := rfl

theorem Service.answer_remove (client : Client) (exchange : Exchange) (name : CohortName) :
    (Service.remote client).answer (m := Id) (fun _ => exchange) (.remove name) =
      match client.remove (m := Id) (fun _ => exchange) name with
      | .ok _ => .success []
      | .error failure => .failure failure := rfl

theorem Service.answer_is_wordless {service : Service} {exchange : Exchange} {call : Call}
    (wordless : (service.answer (m := Id) (fun _ => exchange) call).IsWordless) :
    ∃ reply, exchange = .answered reply ∧ reply.RefusesInBlanks := by
  cases service with
  | missing => cases wordless
  | remote client =>
      cases call with
      | list query =>
          rw [answer_list] at wordless
          cases failed : client.list (m := Id) (fun _ => exchange) query with
          | ok cohorts =>
              rw [failed] at wordless
              cases wordless
          | error failure =>
              rw [failed] at wordless
              exact Client.exchange_is_wordless Reply.refuses_in_blanks_of_listing failed wordless
      | remove name =>
          rw [answer_remove] at wordless
          cases failed : client.remove (m := Id) (fun _ => exchange) name with
          | ok done =>
              rw [failed] at wordless
              cases wordless
          | error failure =>
              rw [failed] at wordless
              exact Client.exchange_is_wordless Reply.refuses_in_blanks_of_removal failed wordless

/-- The error on the screen, if there is one, can be read. -/
def Screen.IsLegible (screen : Screen) : Prop := ∀ message ∈ screen.error, Legible message

theorem Screen.apply_is_legible {screen : Screen} {event : Event} (legible : screen.IsLegible)
    (reported : event.IsLegible) : (screen.apply event).IsLegible := by
  cases event with
  | loaded request cohorts =>
      simp only [apply]
      split
      · rintro message ⟨⟩
      · exact legible
  | loadFailed request notice =>
      simp only [apply]
      split
      · rintro message ⟨⟩
        exact reported notice rfl
      · exact legible
  | removed name => exact legible
  | removeFailed name notice =>
      rintro message ⟨⟩
      exact reported notice rfl
  | workerFailed notice =>
      rintro message ⟨⟩
      exact reported notice rfl

theorem Desk.Effect.is_legible {desk after : Desk} {retrieves : Bool}
    (effect : desk.Effect retrieves after) (legible : desk.screen.IsLegible) :
    after.screen.IsLegible := by
  cases effect with
  | edited query filter selected => exact legible
  | requested query queue accepted => rintro message ⟨⟩
  | declined query fault refused =>
      rintro message ⟨⟩
      exact fault.legible_message
  | marked name queue idle shown accepted => exact legible
  | unmarked name fault idle shown refused =>
      rintro message ⟨⟩
      exact fault.legible_message

theorem Desk.start_is_legible (queue : CommandQueue) (options : ViewOptions) :
    (start queue options).screen.IsLegible := by
  simp only [start, fetch]
  split
  · rintro message ⟨⟩
  · rename_i fault refused
    rintro message ⟨⟩
    exact fault.legible_message

def Move.IsWordless : Move → Prop
  | .answer _ given => given.IsWordless
  | _ => False

namespace Worker

/-- The error on the screen can be read, and so can all that is still reported to it. -/
structure IsLegible (worker : Worker) : Prop where
  screen : worker.desk.screen.IsLegible
  delivering : ∀ event ∈ worker.delivering, event.IsLegible
  waiting : ∀ event ∈ worker.events.waiting, event.IsLegible

variable {worker : Worker}

theorem answer_is_legible (legible : worker.IsLegible) (call : Nat) {answer : Answer}
    (worded : ¬answer.IsWordless) : (worker.answer call answer).IsLegible := by
  unfold Worker.answer
  cases worker.command? call with
  | none => exact legible
  | some command =>
      refine { legible with delivering := fun event member => ?_ }
      rcases List.mem_append.1 member with before | last
      · exact legible.delivering event before
      · exact List.mem_singleton.1 last ▸ completion_is_legible command worded

theorem deliver_is_legible (legible : worker.IsLegible) (index : Nat) :
    (worker.deliver index).IsLegible := by
  unfold deliver
  cases found : worker.delivering[index]? with
  | none => exact legible
  | some event =>
      have left : ∀ other ∈ worker.delivering.eraseIdx index, other.IsLegible :=
        fun other member => legible.delivering other (List.mem_of_mem_eraseIdx member)
      have here := legible.delivering event (List.mem_of_getElem? found)
      have arrived : ∀ other ∈ worker.events.waiting ++ [event], other.IsLegible := by
        intro other member
        rcases List.mem_append.1 member with before | last
        · exact legible.waiting other before
        · exact List.mem_singleton.1 last ▸ here
      cases worker.listening with
      | false => exact { legible with delivering := left }
      | true =>
          simp only [Bool.not_true, Bool.false_eq_true, if_false, EventQueue.send]
          by_cases room : (worker.events.senderAlive && worker.events.hasRoom) = true
          · simp only [if_pos room]
            exact ⟨legible.screen, left, arrived⟩
          · simp only [if_neg room]
            exact legible

theorem apply_next_is_legible (legible : worker.IsLegible) : worker.applyNext.IsLegible := by
  unfold applyNext
  cases waiting : worker.events.waiting with
  | nil => exact legible
  | cons event rest =>
      have queued := legible.waiting
      rw [waiting] at queued
      exact
        { screen := Screen.apply_is_legible legible.screen (queued event List.mem_cons_self)
          delivering := legible.delivering
          waiting := fun other member => queued other (List.mem_cons_of_mem _ member) }

theorem move_is_legible (legible : worker.IsLegible) {next : Move} (worded : ¬next.IsWordless) :
    (worker.move next).IsLegible := by
  cases next with
  | gesture made =>
      exact { legible with screen := (worker.desk.perform_effect made).is_legible legible.screen }
  | await => exact { legible with }
  | start =>
      simp only [move, start]
      split
      · exact legible
      · exact { legible with }
  | answer call given => exact answer_is_legible legible call worded
  | deliver index => exact deliver_is_legible legible index
  | listen => exact { legible with }
  | apply => exact apply_next_is_legible legible
  | hangUp => exact { legible with waiting := List.forall_mem_nil _ }

theorem run_is_legible (legible : worker.IsLegible) {moves : List Move}
    (worded : ∀ next ∈ moves, ¬next.IsWordless) : (worker.run moves).IsLegible := by
  induction moves generalizing worker with
  | nil => exact legible
  | cons next rest ih =>
      have moved := move_is_legible legible (worded next List.mem_cons_self)
      exact ih moved fun other member => worded other (List.mem_cons_of_mem _ member)

theorem launch_on_is_legible (commands : CommandQueue) (eventCapacity : Nat)
    (options : ViewOptions) : (launchOn commands eventCapacity options).IsLegible :=
  ⟨Desk.start_is_legible commands options, List.forall_mem_nil _, List.forall_mem_nil _⟩

end Worker

namespace Client

def listingReport (client : Client) (number : RequestNumber) (query : Option Query)
    (exchange : Exchange) : Event :=
  (Command.fetch number query).completion
    (Service.answer (m := Id) (.remote client) (fun _ => exchange) (.list query))

theorem listing_report_failed {client : Client} {query : Option Query} {request : Request}
    (built : client.listingRequest? query = .ok request) {reply : Reply}
    (failed : ¬reply.Succeeds) (number : RequestNumber) :
    client.listingReport number query (.answered reply) =
      .loadFailed number ⟨.loading, reply.failure.message⟩ := by
  have listed : client.list (m := Id) (fun _ => .answered reply) query = .error reply.failure := by
    unfold list exchange
    rw [built]
    exact if_neg (mt Reply.is_success_iff.1 failed)
  rw [listingReport, Service.answer_list, listed]
  rfl

/-- Any reply but a success that answers the listing a screen waits for, and any reply to a removal
but one that confirms it, leaves an error on the screen. It can be read exactly if the reply is no
refusal with a blank message. Over a whole run every error can be read unless a call was answered by
such a refusal. -/
theorem failed_calls_are_legible_unless_refused_in_blanks (client : Client) :
    (∀ query request, client.listingRequest? query = .ok request →
      ∀ reply : Reply, ¬reply.Succeeds →
        ∀ (number : RequestNumber) (screen : Screen), screen.awaits number = true →
          (screen.apply (client.listingReport number query (.answered reply))).error =
              some reply.failure.message ∧
            (Legible reply.failure.message ↔ ¬reply.RefusesInBlanks)) ∧
      (∀ name request, client.removalRequest? name = .ok request →
        ∀ reply : Reply, ¬reply.ConfirmsRemoval →
          ∀ screen : Screen,
            (screen.apply (client.removalReport name (.answered reply))).error =
                some reply.failure.message ∧
              (Legible reply.failure.message ↔ ¬reply.RefusesInBlanks)) ∧
      ∀ (commandCapacity eventCapacity : Nat) (ready : Bool) (options : ViewOptions)
        (moves : List Move),
        (∀ call answer, .answer call answer ∈ moves → ∃ asked exchange,
          answer = Service.answer (m := Id) (.remote client) (fun _ => exchange) asked ∧
            ∀ reply, exchange = .answered reply → ¬reply.RefusesInBlanks) →
          ∀ message,
            ((Worker.launchWith commandCapacity eventCapacity ready options).run
                moves).desk.screen.error = some message →
              Legible message := by
  have readable (reply : Reply) : Legible reply.failure.message ↔ ¬reply.RefusesInBlanks :=
    reply.failure.legible_message_iff.trans (not_congr reply.failure_is_wordless_iff)
  refine ⟨?_, ?_, ?_⟩
  · intro query request built reply failed number screen awaited
    refine ⟨?_, readable reply⟩
    rw [listing_report_failed built failed, Screen.apply, if_pos awaited]
  · intro name request built reply failed screen
    refine ⟨?_, readable reply⟩
    rw [removal_report_failed built failed, Screen.apply]
  · intro commandCapacity eventCapacity ready options moves answers message shown
    have worded (next : Move) (member : next ∈ moves) : ¬next.IsWordless := by
      intro wordless
      cases next with
      | answer call answer =>
          obtain ⟨asked, exchange, rfl, spoken⟩ := answers call answer member
          obtain ⟨reply, rfl, blanks⟩ := Service.answer_is_wordless wordless
          exact spoken reply rfl blanks
      | _ => cases wordless
    have launched := Worker.launch_on_is_legible
      { CommandQueue.empty commandCapacity with awaited := ready } eventCapacity options
    exact (Worker.run_is_legible launched worded).screen message shown

/-- A status without words, and a body that adds none. -/
def wordlessStatus : Reply := ⟨599, [0x20], true⟩

/-- A refusal that gives its code alone. -/
def wordlessRefusal : Reply where
  status := 409
  body := Utf8.encode "\x7b\"code\":\"conflict\",\"message\":\"\"\x7d".toList
  complete := true

/-- The first listing is answered so, and the answer is read. -/
def wordlessRun : List Move :=
  [.start,
    .answer 0
      (Service.answer (m := Id) (.remote sample) (fun _ => .answered wordlessStatus) (.list none)),
    .deliver 0, .apply]

theorem wordless_status_is_legible :
    sample.removalRequest? "a" = .ok (sample.removalRequest "a") ∧
      ¬wordlessStatus.ConfirmsRemoval ∧
      ((markedScreen "a").apply (sample.removalReport "a" (.answered wordlessStatus))).error =
        some "cohort service returned 599: unexpected response" ∧
      ((Worker.launchWith 1 1 false .standard).run wordlessRun).desk.screen.error =
        some "cohort service returned 599: unexpected response" ∧
      Legible "cohort service returned 599: unexpected response" := by
  have built : sample.removalRequest? "a" = .ok (sample.removalRequest "a") := by rfl
  have bare : wordlessStatus.refusal? = none := by decide +kernel
  have failed : ¬wordlessStatus.ConfirmsRemoval := by
    rintro (success | ⟨missing, -⟩ | ⟨refusal, found, -⟩)
    · exact absurd success (by decide)
    · exact absurd missing (by decide)
    · rw [bare] at found
      cases found
  have words : ¬wordlessStatus.RefusesInBlanks := by
    rintro ⟨refusal, refuses, -⟩
    have found := Reply.refusal?_eq_some_iff.2 refuses
    rw [bare] at found
    cases found
  have message : wordlessStatus.failure.message =
      "cohort service returned 599: unexpected response" := by decide +kernel
  have read : ((Worker.launchWith 1 1 false .standard).run wordlessRun).desk.screen.error =
      some "cohort service returned 599: unexpected response" := by decide +kernel
  obtain ⟨-, removal, run⟩ := failed_calls_are_legible_unless_refused_in_blanks sample
  obtain ⟨shown, -⟩ := removal "a" _ built wordlessStatus failed (markedScreen "a")
  rw [message] at shown
  refine ⟨built, failed, shown, read, run 1 1 false .standard wordlessRun ?_ _ read⟩
  intro call answer member
  simp only [wordlessRun, List.mem_cons, List.not_mem_nil, Move.answer.injEq, reduceCtorEq,
    false_or, or_false] at member
  refine ⟨.list none, .answered wordlessStatus, member.2, ?_⟩
  rintro reply ⟨⟩
  exact words

/-- The service says why, but not in words, and the error shown is empty. -/
theorem wordless_refusal_is_shown_empty :
    sample.removalRequest? "a" = .ok (sample.removalRequest "a") ∧ ¬wordlessRefusal.Succeeds ∧
      ¬wordlessRefusal.ConfirmsRemoval ∧
      ((markedScreen "a").apply (sample.removalReport "a" (.answered wordlessRefusal))).error =
        some "" ∧
      ¬Legible "" := by
  have built : sample.removalRequest? "a" = .ok (sample.removalRequest "a") := by rfl
  have refused : wordlessRefusal.refusal? = some ⟨.conflict, ""⟩ := by decide +kernel
  have failure : wordlessRefusal.failure = .rejected ⟨.conflict, ""⟩ := by
    rw [Reply.failure, refused]
  have fails : ¬wordlessRefusal.Succeeds := by
    rintro ⟨-, below⟩
    exact absurd below (by decide)
  have failed : ¬wordlessRefusal.ConfirmsRemoval := by
    rw [wordlessRefusal.confirms_removal_iff, failure]
    decide
  refine ⟨built, fails, failed, ?_, by decide⟩
  rw [removal_report_failed built failed, failure]
  rfl

end Client

end CohortDesk
