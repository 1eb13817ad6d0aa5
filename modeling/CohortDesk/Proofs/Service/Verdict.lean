import CohortDesk.Program
import CohortDesk.Proofs.Desk.Rows
import CohortDesk.Proofs.Service.Removal

/-!
# The verdict on a removal

What the desk makes of the reply to a removal, from the status and the body to the rows. A reply
with a refusal in its body is judged by the refusal alone, so a status that says the cohort does not
exist counts only when no refusal stands beside it.
-/

namespace CohortDesk

set_option autoImplicit false

open Text

namespace Reply

/-- The service says, by the status or by a refusal, that no such cohort exists any more. -/
def SaysGone (reply : Reply) : Prop :=
  reply.isSuccess = true ∨ reply.status = 404 ∨
    ∃ refusal, reply.refusal? = some refusal ∧ refusal.code = .notFound

def ConfirmsRemoval (reply : Reply) : Prop :=
  reply.isSuccess = true ∨ (reply.status = 404 ∧ reply.refusal? = none) ∨
    ∃ refusal, reply.refusal? = some refusal ∧ refusal.code = .notFound

/-- The status says that no such cohort exists, and the refusal beside it gives another reason. -/
def Contradicts (reply : Reply) : Prop :=
  reply.status = 404 ∧ ∃ refusal, reply.refusal? = some refusal ∧ refusal.code ≠ .notFound

theorem failure_is_not_found_iff (reply : Reply) :
    reply.failure.isNotFound = true ↔
      (reply.status = 404 ∧ reply.refusal? = none) ∨
        ∃ refusal, reply.refusal? = some refusal ∧ refusal.code = .notFound := by
  unfold failure
  cases found : reply.refusal? with
  | none => simp [Failure.isNotFound]
  | some refusal => simp [Failure.isNotFound, Refusal.isNotFound]

theorem confirms_removal_iff (reply : Reply) :
    reply.ConfirmsRemoval ↔ reply.isSuccess = true ∨ reply.failure.isNotFound = true := by
  rw [ConfirmsRemoval, failure_is_not_found_iff]

theorem is_success_of_missing {reply : Reply} (missing : reply.status = 404) :
    reply.isSuccess = false := by
  rw [isSuccess, missing]
  rfl

/-- The desk goes by what the service says unless the reply contradicts itself. -/
theorem confirms_removal_iff_says_gone (reply : Reply) :
    (reply.ConfirmsRemoval ↔ reply.SaysGone) ↔ ¬reply.Contradicts := by
  unfold ConfirmsRemoval SaysGone Contradicts
  constructor
  · rintro agree ⟨missing, refusal, found, other⟩
    rcases agree.mpr (Or.inr (Or.inl missing)) with success | ⟨-, bare⟩ | ⟨same, again, gone⟩
    · rw [is_success_of_missing missing] at success
      cases success
    · rw [found] at bare
      cases bare
    · rw [found] at again
      cases again
      exact other gone
  · intro consistent
    constructor
    · rintro (success | ⟨missing, -⟩ | refused)
      · exact Or.inl success
      · exact Or.inr (Or.inl missing)
      · exact Or.inr (Or.inr refused)
    · rintro (success | missing | refused)
      · exact Or.inl success
      · cases found : reply.refusal? with
        | none => exact Or.inr (Or.inl ⟨missing, rfl⟩)
        | some refusal =>
            by_cases gone : refusal.code = .notFound
            · exact Or.inr (Or.inr ⟨refusal, rfl, gone⟩)
            · exact absurd ⟨missing, refusal, found, gone⟩ consistent
      · exact Or.inr (Or.inr refused)

end Reply

namespace Client

def removalReport (client : Client) (name : CohortName) (exchange : Exchange) : Event :=
  (Command.remove name).completion
    (Service.answer (m := Id) (.remote client) (fun _ => exchange) (.remove name))

/-- A reply decides by its status whether it is a failure, and by the failure whether the cohort is
gone. -/
theorem removal_report_answered {client : Client} {name : CohortName} {request : Request}
    (built : client.removalRequest? name = .ok request) (reply : Reply) :
    client.removalReport name (.answered reply) =
      if reply.isSuccess = true ∨ reply.failure.isNotFound = true then .removed name
      else .removeFailed name ⟨.removal, reply.failure.message⟩ := by
  have removed : client.remove (m := Id) (fun _ => .answered reply) name = reply.removal := by
    unfold remove exchange
    rw [built]
    rfl
  have answered : Service.answer (m := Id) (.remote client) (fun _ => .answered reply)
      (.remove name) =
        match client.remove (m := Id) (fun _ => .answered reply) name with
        | .ok _ => .success []
        | .error failure => .failure failure := by
    unfold Service.answer
    rfl
  rw [removalReport, answered, removed, Reply.removal]
  cases success : reply.isSuccess with
  | true => rfl
  | false =>
      cases gone : reply.failure.isNotFound with
      | true => simp [Command.completion, gone]
      | false => simp [Command.completion, gone]

theorem removal_report_removed_iff {client : Client} {name : CohortName} {request : Request}
    (built : client.removalRequest? name = .ok request) (reply : Reply) :
    client.removalReport name (.answered reply) = .removed name ↔ reply.ConfirmsRemoval := by
  rw [removal_report_answered built, reply.confirms_removal_iff]
  constructor
  · intro removed
    by_cases confirmed : reply.isSuccess = true ∨ reply.failure.isNotFound = true
    · exact confirmed
    · rw [if_neg confirmed] at removed
      cases removed
  · intro confirmed
    rw [if_pos confirmed]

theorem removal_report_failed {client : Client} {name : CohortName} {request : Request}
    (built : client.removalRequest? name = .ok request) {reply : Reply}
    (failed : ¬reply.ConfirmsRemoval) :
    client.removalReport name (.answered reply) =
      .removeFailed name ⟨.removal, reply.failure.message⟩ := by
  rw [reply.confirms_removal_iff] at failed
  rw [removal_report_answered built, if_neg failed]

/-- The removal of a name whose row is marked is confirmed exactly by a success, by a refusal that
says the cohort does not exist, and by that status without a refusal. Any other reply fails it and
keeps every row. This is what the service says, unless its status and its refusal contradict. -/
theorem removal_is_confirmed_unless_contradicted {client : Client} {name : CohortName}
    {request : Request} (built : client.removalRequest? name = .ok request) (reply : Reply)
    {screen : Screen} (marked : ∃ row ∈ screen.rows, row.name = name ∧ row.removing = true) :
    (client.removalReport name (.answered reply) = .removed name ↔ reply.ConfirmsRemoval) ∧
      (reply.ConfirmsRemoval →
        ∃ before row after,
          Screen.First (fun row => row.name == name) screen.rows before row after ∧
            (screen.apply (client.removalReport name (.answered reply))).rows = before ++ after) ∧
      (¬reply.ConfirmsRemoval →
        client.removalReport name (.answered reply) =
            .removeFailed name ⟨.removal, reply.failure.message⟩ ∧
          (screen.apply (client.removalReport name (.answered reply))).error =
            some reply.failure.message ∧
          ∃ before row after,
            Screen.First (fun row => row.name == name && row.removing) screen.rows before row
                after ∧
              (screen.apply (client.removalReport name (.answered reply))).rows =
                before ++ { row with removing := false } :: after) ∧
      ((reply.ConfirmsRemoval ↔ reply.SaysGone) ↔ ¬reply.Contradicts) := by
  obtain ⟨row, member, named, removing⟩ := marked
  have sameName : (row.name == name) = true := beq_iff_eq.mpr named
  refine ⟨removal_report_removed_iff built reply, ?_, ?_, reply.confirms_removal_iff_says_gone⟩
  · intro confirmed
    obtain ⟨before, found, after, first⟩ :=
      Screen.exists_first (fun row => row.name == name) member sameName
    refine ⟨before, found, after, first, ?_⟩
    rw [(removal_report_removed_iff built reply).mpr confirmed]
    exact first.eraseP
  · intro failed
    have both : (row.name == name && row.removing) = true := by
      rw [sameName, removing]
      rfl
    obtain ⟨before, found, after, first⟩ :=
      Screen.exists_first (fun row => row.name == name && row.removing) member both
    have report := removal_report_failed built failed
    rw [report]
    exact ⟨rfl, rfl, before, found, after, first, first.change_first _⟩

def markedScreen (name : CohortName) : Screen :=
  { Screen.blank ViewOptions.standard with
    rows := [⟨Cohort.named name, true⟩]
    removing := NameSet.empty.insert name }

/-- The status says that there is no such cohort, the refusal that it cannot be removed. -/
def contradiction : Reply where
  status := 404
  body := Utf8.encode "\x7b\"code\":\"conflict\",\"message\":\"in use\"\x7d".toList
  complete := true

theorem sample_confirms_missing_cohort :
    sample.removalRequest? "a" = .ok (sample.removalRequest "a") ∧
      (∃ row ∈ (markedScreen "a").rows, row.name = "a" ∧ row.removing = true) ∧
      sample.removalReport "a" (.answered ⟨404, [], true⟩) = .removed "a" := by
  have built : sample.removalRequest? "a" = .ok (sample.removalRequest "a") := by rfl
  have marked : ∃ row ∈ (markedScreen "a").rows, row.name = "a" ∧ row.removing = true :=
    ⟨_, List.mem_singleton_self _, rfl, rfl⟩
  have bare : (⟨404, [], true⟩ : Reply).refusal? = none := by decide +kernel
  have verdict := removal_is_confirmed_unless_contradicted built ⟨404, [], true⟩ marked
  exact ⟨built, marked, verdict.1.mpr (Or.inr (Or.inl ⟨rfl, bare⟩))⟩

/-- Gone by the status, and yet the removal fails. -/
theorem sample_fails_contradicted_removal :
    sample.removalRequest? "a" = .ok (sample.removalRequest "a") ∧ contradiction.SaysGone ∧
      sample.removalReport "a" (.answered contradiction) =
        .removeFailed "a" ⟨.removal, "in use"⟩ := by
  have built : sample.removalRequest? "a" = .ok (sample.removalRequest "a") := by rfl
  have refused : contradiction.refusal? = some ⟨.conflict, "in use"⟩ := by decide +kernel
  have failure : contradiction.failure = .rejected ⟨.conflict, "in use"⟩ := by
    rw [Reply.failure, refused]
  have failed : ¬contradiction.ConfirmsRemoval := by
    rw [contradiction.confirms_removal_iff, failure]
    decide
  refine ⟨built, Or.inr (Or.inl rfl), ?_⟩
  rw [removal_report_failed built failed, failure]
  rfl

end Client

end CohortDesk
