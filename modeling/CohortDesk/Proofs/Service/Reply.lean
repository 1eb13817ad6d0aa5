import CohortDesk.Proofs.Service.Removal
import CohortDesk.Proofs.Text.Blank
import CohortDesk.Proofs.Wire

/-!
# What a reply answers

The meaning of a reply to either call, from its status and its body alone. A success confirms a
removal, and brings a listing if its whole body is an array of cohorts. Any other status is a
failure: in the service's own words if the body holds a refusal, which a JSON object may do in any
order and among any members whose names are text, otherwise with the body as its message.
-/

namespace CohortDesk

set_option autoImplicit false

open Json Text

/-- The members of an object that is a refusal: one `code` and one `message`, both text, and any
others whose names are text. -/
structure Refusal.Written (members : List (Option String × Value)) (code message : String) :
    Prop where
  named : ∀ member ∈ members, member.1.isSome = true
  code : (members.filter fun member => member.1 == some "code") =
    [(some "code", .string (some code))]
  message : (members.filter fun member => member.1 == some "message") =
    [(some "message", .string (some message))]

theorem Refusal.Written.of_json? {members : List (Option String × Value)} {code message : String}
    (written : Written members code message) :
    Refusal.ofJson? (.object members) = some ⟨.ofName code, message⟩ := by
  have named : (members.all fun member => member.1.isSome) = true :=
    List.all_eq_true.2 written.named
  have fields : Value.fields? fieldNames (.object members) =
      some [some (.string (some code)), some (.string (some message))] := by
    simp [Value.fields?, named, fieldNames, Value.member?, written.code, written.message]
  rw [Refusal.ofJson?, fields]
  rfl

theorem RefusalCode.of_name_eq_not_found_iff (name : String) :
    ofName name = .notFound ↔ name = "not_found" := by
  unfold ofName
  split
  · rename_i same
    exact iff_of_true rfl same
  · rename_i other
    refine iff_of_false ?_ other
    split <;> nofun

theorem Cohort.mapM_of_json?_eq_some_iff {values : List Value} {cohorts : List Cohort} :
    values.mapM ofJson? = some cohorts ↔
      List.Forall₂ (fun value cohort => ofJson? value = some cohort) values cohorts := by
  induction values generalizing cohorts with
  | nil =>
      rw [List.mapM_nil, List.forall₂_nil_left_iff]
      exact ⟨fun same => (Option.some.inj same).symm, fun same => congrArg some same.symm⟩
  | cons value others ih =>
      rw [List.mapM_cons, List.forall₂_cons_left_iff]
      simp only [Option.bind_eq_bind, Option.bind_eq_some_iff, Option.pure_def, Option.some.injEq,
        ih]
      constructor
      · rintro ⟨cohort, first, rest, later, rfl⟩
        exact ⟨cohort, rest, first, later, rfl⟩
      · rintro ⟨cohort, rest, first, later, rfl⟩
        exact ⟨cohort, first, rest, later, rfl⟩

namespace Reply

def Succeeds (reply : Reply) : Prop := 200 ≤ reply.status ∧ reply.status < 300

/-- All of the body has come, and it is an array of which each element is one of the cohorts, in
their order. -/
def Lists (reply : Reply) (cohorts : List Cohort) : Prop :=
  reply.complete = true ∧
    ∃ values, readBytes? reply.body = some (.array values) ∧
      List.Forall₂ (fun value cohort => Cohort.ofJson? value = some cohort) values cohorts

/-- All of the body has come, and its text, with U+FFFD for what is broken, is the refusal. -/
def Refuses (reply : Reply) (refusal : Refusal) : Prop :=
  reply.complete = true ∧
    decode? Refusal.ofJson? (String.ofList (Utf8.decodeLossy reply.body)) = some refusal

variable {reply : Reply}

theorem is_success_iff : reply.isSuccess = true ↔ reply.Succeeds := by
  rw [isSuccess, Bool.and_eq_true, decide_eq_true_eq, decide_eq_true_eq, Succeeds]

theorem cohorts?_eq_some_iff {cohorts : List Cohort} :
    reply.cohorts? = some cohorts ↔ reply.Lists cohorts := by
  unfold cohorts? Lists decodeBytes?
  cases reply.complete with
  | false => simp
  | true =>
      simp only [if_true, Option.bind_eq_some_iff, true_and]
      constructor
      · rintro ⟨value, read, listed⟩
        cases value with
        | array values => exact ⟨values, read, Cohort.mapM_of_json?_eq_some_iff.1 listed⟩
        | _ => cases listed
      · rintro ⟨values, read, listed⟩
        exact ⟨.array values, read, Cohort.mapM_of_json?_eq_some_iff.2 listed⟩

/-- Bytes that are no text may stand in a member that no cohort has, but not in a name. -/
example :
    let listing (name other : List UInt8) : Reply :=
      ⟨200, Utf8.encode "[\x7b\"name\":\"".toList ++ name ++ Utf8.encode "\",\"age\":\"".toList ++
        other ++ Utf8.encode "\"\x7d]".toList, true⟩
    (listing [0x61] [0xFF]).cohorts? = some [.named "a"] ∧
      (listing [0xFF] [0x61]).cohorts? = none := by
  decide +kernel

theorem refusal?_eq_some_iff {refusal : Refusal} :
    reply.refusal? = some refusal ↔ reply.Refuses refusal := by
  unfold refusal? Refuses text
  cases reply.complete with
  | false =>
      have nothing : decode? Refusal.ofJson? (String.ofList []) = none := by decide
      simp [nothing]
  | true => simp

/-- A JSON text of an array of cohorts lists them. -/
theorem lists_of_spelled {text : List Char} {values : List Value} {cohorts : List Cohort}
    (complete : reply.complete = true) (body : reply.body = Utf8.encode text)
    (spelled : (Value.array values).Spelled text)
    (each : List.Forall₂ (fun value cohort => Cohort.ofJson? value = some cohort) values cohorts) :
    reply.Lists cohorts := by
  refine ⟨complete, values, ?_, each⟩
  rw [body, readBytes?, Utf8.decode_marking_encode, read?_spelled spelled]

/-- A JSON text of a refusal's members refuses. -/
theorem refuses_of_spelled {members : List (Option String × Value)} {code message : String}
    (complete : reply.complete = true)
    (spelled : (Value.object members).Spelled (Utf8.decodeLossy reply.body))
    (written : Refusal.Written members code message) :
    reply.Refuses ⟨.ofName code, message⟩ := by
  refine ⟨complete, ?_⟩
  rw [decode?, String.toList_ofList, read?_spelled spelled, Option.bind_some, written.of_json?]

/-- The failure is what a reply without success tells: the refusal if there is one, otherwise the
status with the trimmed body for a message, or the reason of the status where nothing is left. -/
structure Explains (reply : Reply) (failure : Failure) : Prop where
  rejected_iff : ∀ refusal, failure = .rejected refusal ↔ reply.Refuses refusal
  rejected : ∀ refusal, failure = .rejected refusal →
    failure.message = refusal.message ∧
      (failure.isNotFound = true ↔ refusal.code = .notFound)
  object : ∀ members code message, Refusal.Written members code message →
    reply.complete = true → (Value.object members).Spelled (Utf8.decodeLossy reply.body) →
    failure = .rejected ⟨.ofName code, message⟩ ∧ failure.message = message ∧
      (failure.isNotFound = true ↔ code = "not_found")
  otherwise : (∀ refusal, failure ≠ .rejected refusal) →
    ∃ inner, TrimsTo (Utf8.decodeLossy reply.body) inner ∧
      failure = .status reply.status
        (if reply.complete = true ∧ inner ≠ [] then String.ofList inner
         else reason reply.status) ∧
      (failure.isNotFound = true ↔ reply.status = 404)

theorem failure_of_refuses {refusal : Refusal} (refuses : reply.Refuses refusal) :
    reply.failure = .rejected refusal := by
  rw [failure, refusal?_eq_some_iff.2 refuses]

theorem failure_of_refuses_nothing (nothing : ∀ refusal, ¬reply.Refuses refusal) :
    reply.failure = .status reply.status
      (if reply.complete = true ∧ trim (Utf8.decodeLossy reply.body) ≠ [] then
        String.ofList (trim (Utf8.decodeLossy reply.body))
       else reason reply.status) := by
  have none : reply.refusal? = none :=
    Option.eq_none_iff_forall_ne_some.2 fun refusal found =>
      nothing refusal (refusal?_eq_some_iff.1 found)
  unfold failure
  rw [none]
  cases complete : reply.complete with
  | false => simp [text, complete, trim, trimStart, trimEnd]
  | true =>
      by_cases blank : trim (Utf8.decodeLossy reply.body) = []
      · simp [text, complete, blank]
      · simp [text, complete, blank]

theorem failure_eq_rejected_iff {refusal : Refusal} :
    reply.failure = .rejected refusal ↔ reply.Refuses refusal := by
  constructor
  · intro rejected
    by_contra other
    by_cases any : ∃ another, reply.Refuses another
    · obtain ⟨another, refuses⟩ := any
      rw [failure_of_refuses refuses] at rejected
      cases rejected
      exact other refuses
    · rw [failure_of_refuses_nothing (not_exists.1 any)] at rejected
      exact Failure.noConfusion rejected
  · exact failure_of_refuses

theorem explains_failure (reply : Reply) : reply.Explains reply.failure := by
  refine ⟨fun refusal => failure_eq_rejected_iff, ?_, ?_, ?_⟩
  · intro refusal rejected
    rw [rejected]
    exact ⟨rfl, beq_iff_eq⟩
  · intro members code message written complete spelled
    rw [failure_of_refuses (refuses_of_spelled complete spelled written)]
    exact ⟨rfl, rfl, beq_iff_eq.trans (RefusalCode.of_name_eq_not_found_iff code)⟩
  · intro none
    have status := failure_of_refuses_nothing fun refusal refuses =>
      none refusal (failure_of_refuses refuses)
    refine ⟨_, trim_trims_to _, status, ?_⟩
    rw [status]
    exact beq_iff_eq

/-- How a reply answers a listing. -/
structure AnswersListing (reply : Reply) (listed : Except Failure (List Cohort)) : Prop where
  ok_iff : ∀ cohorts, listed = .ok cohorts ↔ reply.Succeeds ∧ reply.Lists cohorts
  array : ∀ text values cohorts, reply.Succeeds → reply.complete = true →
    reply.body = Utf8.encode text → (Value.array values).Spelled text →
    List.Forall₂ (fun value cohort => Cohort.ofJson? value = some cohort) values cohorts →
    listed = .ok cohorts
  unreadable : reply.Succeeds → (∀ cohorts, ¬reply.Lists cohorts) →
    listed = .error (.transport .unreadableBody)
  failed : ¬reply.Succeeds → ∃ failure, listed = .error failure ∧ reply.Explains failure

/-- How a reply answers a removal. -/
structure AnswersRemoval (reply : Reply) (removed : Except Failure Unit) : Prop where
  ok_iff : removed = .ok () ↔ reply.Succeeds
  failed : ¬reply.Succeeds → ∃ failure, removed = .error failure ∧ reply.Explains failure

theorem answers_listing (reply : Reply) : reply.AnswersListing reply.listing := by
  have ok_iff (cohorts : List Cohort) :
      reply.listing = .ok cohorts ↔ reply.Succeeds ∧ reply.Lists cohorts := by
    rw [← is_success_iff, ← cohorts?_eq_some_iff, listing]
    cases reply.isSuccess with
    | false => simp
    | true => cases reply.cohorts? <;> simp
  refine ⟨ok_iff, ?_, ?_, ?_⟩
  · intro text values cohorts succeeds complete body spelled each
    exact (ok_iff cohorts).2 ⟨succeeds, lists_of_spelled complete body spelled each⟩
  · intro succeeds nothing
    have none : reply.cohorts? = none :=
      Option.eq_none_iff_forall_ne_some.2 fun cohorts found =>
        nothing cohorts (cohorts?_eq_some_iff.1 found)
    rw [listing, if_pos (is_success_iff.2 succeeds), none]
  · intro failed
    refine ⟨reply.failure, ?_, reply.explains_failure⟩
    rw [listing, if_neg (mt is_success_iff.1 failed)]

theorem answers_removal (reply : Reply) : reply.AnswersRemoval reply.removal := by
  constructor
  · rw [← is_success_iff, removal]
    cases reply.isSuccess <;> simp
  · intro failed
    refine ⟨reply.failure, ?_, reply.explains_failure⟩
    rw [removal, if_neg (mt is_success_iff.1 failed)]

end Reply

namespace Client

/-- What a call brings whose request is answered is settled by the status and the body of the
reply, whatever the client and whatever was asked. -/
theorem calls_mean_what_is_replied (client : Client) (reply : Reply) :
    (∀ query request, client.listingRequest? query = .ok request →
        reply.AnswersListing (client.list (m := Id) (fun _ => .answered reply) query)) ∧
      ∀ name request, client.removalRequest? name = .ok request →
        reply.AnswersRemoval (client.remove (m := Id) (fun _ => .answered reply) name) := by
  constructor
  · intro query request built
    have answered : client.list (m := Id) (fun _ => .answered reply) query = reply.listing := by
      unfold list exchange
      rw [built]
      rfl
    rw [answered]
    exact reply.answers_listing
  · intro name request built
    have answered : client.remove (m := Id) (fun _ => .answered reply) name = reply.removal := by
      unfold remove exchange
      rw [built]
      rfl
    rw [answered]
    exact reply.answers_removal

/-- A body of blanks gives way to the reason of its status. -/
theorem sample_reports_blank_body_by_its_status :
    sample.removalRequest? "a" = .ok (sample.removalRequest "a") ∧
      ¬(⟨503, [0x20, 0x0A], true⟩ : Reply).Succeeds ∧
      sample.remove (m := Id) (fun _ => .answered ⟨503, [0x20, 0x0A], true⟩) "a" =
        .error (.status 503 "Service Unavailable") := by
  have built : sample.removalRequest? "a" = .ok (sample.removalRequest "a") := by rfl
  have fails : ¬(⟨503, [0x20, 0x0A], true⟩ : Reply).Succeeds := by
    rintro ⟨-, below⟩
    exact absurd below (by decide)
  obtain ⟨failure, failed, means⟩ :=
    ((calls_mean_what_is_replied sample ⟨503, [0x20, 0x0A], true⟩).2 "a" _ built).failed fails
  have bare : (⟨503, [0x20, 0x0A], true⟩ : Reply).refusal? = none := by decide +kernel
  have nothing (refusal : Refusal) : failure ≠ .rejected refusal := by
    intro rejected
    have found := Reply.refusal?_eq_some_iff.2 ((means.rejected_iff refusal).1 rejected)
    rw [bare] at found
    cases found
  obtain ⟨inner, trims, status, -⟩ := means.otherwise nothing
  have blank : inner = [] := trims.eq_nil_iff.2 (by decide)
  rw [failed, status, blank]
  exact ⟨built, fails, rfl⟩

/-- A code and a message beside a member with half a surrogate pair for its name. -/
def unpaired : List (Option String × Value) :=
  [(none, .number (some 1)), (some "code", .string (some "x")),
    (some "message", .string (some "m"))]

def unpairedText : String := "\x7b\"\\ud800\":1,\"code\":\"x\",\"message\":\"m\"\x7d"

def unpairedReply : Reply := ⟨409, Utf8.encode unpairedText.toList, true⟩

/-- A name that is no text keeps the object from being a refusal, whatever its code and message. -/
theorem unpaired_name_is_no_refusal :
    (Value.object unpaired).Spelled (Utf8.decodeLossy unpairedReply.body) ∧
      (unpaired.filter fun member => member.1 == some "code") =
        [(some "code", .string (some "x"))] ∧
      (unpaired.filter fun member => member.1 == some "message") =
        [(some "message", .string (some "m"))] ∧
      sample.removalRequest? "a" = .ok (sample.removalRequest "a") ∧
      sample.remove (m := Id) (fun _ => .answered unpairedReply) "a" =
        .error (.status 409 unpairedText) := by
  have half : (Piece.unit 0xD800).Spelled ['\\', 'u', 'd', '8', '0', '0'] := .unit rfl
  have name : (Token.string none).Spelled "\"\\ud800\"".toList := .string (.cons half .nil)
  have spelled : (Value.object unpaired).Spelled (Utf8.decodeLossy unpairedReply.body) := by
    unfold unpairedReply
    rw [Utf8.decode_lossy_encode]
    exact .next (.mark rfl) (.next name (spells_flatMap (by decide)))
  have failure : unpairedReply.failure = .status 409 unpairedText := by decide +kernel
  exact ⟨spelled, rfl, rfl, by rfl, congrArg Except.error failure⟩

end Client

end CohortDesk
