import CohortDesk.Proofs.Desk.Choices
import CohortDesk.Proofs.Desk.Queue

/-!
# Requests for listings

`requests` numbers the attempts to retrieve a listing and gives each the query that the gestures
have made by then; it looks at the gestures alone. Over every run of a desk, whatever the queue
takes or refuses, the requests that enter the queue are those of the attempts that found a queue
which takes commands.
-/

namespace CohortDesk

set_option autoImplicit false

def Command.isFetch : Command → Bool
  | .fetch _ _ => true
  | .remove _ => false

def Command.number? : Command → Option RequestNumber
  | .fetch request _ => some request
  | .remove _ => none

namespace Query

/-- What a gesture makes of the query, whether or not a request can be queued afterwards. -/
def edited (query : Query) : Gesture → Query
  | .search predicate => { query with filter := predicate }
  | .sort order => { query with order }
  | .turnTo page => { query with page }
  | .resize limit => { query with limit, page := firstPage }
  | .removeFilter => { query with filter := "" }
  | .refresh | .showFilter | .editFilter _ | .remove _ | .toggle _ => query

end Query

theorem Choices.after_query (choices : Choices) (made : Gesture) :
    (choices.after made).query = choices.query.edited made := by
  cases made <;> rfl

@[simp] theorem Screen.apply_query (screen : Screen) (event : Event) :
    (screen.apply event).query = screen.query := by
  cases event <;> simp only [apply] <;> split <;> rfl

/-- The queues that attempts find, the attempts, the replies to whoever made them, and the requests
sent for them: an attempt is sent and answered by its own number unless the queue declines it; then
it is neither. -/
inductive Dispatched :
    List CommandQueue → List Command → List (Option RequestNumber) → List Command → Prop
  | nil : Dispatched [] [] [] []
  | sent {queue : CommandQueue} (takes : ∀ fault, ¬queue.Declines fault) (request : RequestNumber)
      (query : Option Query) {queues : List CommandQueue} {asked sent : List Command}
      {replies : List (Option RequestNumber)} (rest : Dispatched queues asked replies sent) :
      Dispatched (queue :: queues) (.fetch request query :: asked) (some request :: replies)
        (.fetch request query :: sent)
  | refused {queue : CommandQueue} {fault : QueueFault} (declines : queue.Declines fault)
      (attempt : Command) {queues : List CommandQueue} {asked sent : List Command}
      {replies : List (Option RequestNumber)} (rest : Dispatched queues asked replies sent) :
      Dispatched (queue :: queues) (attempt :: asked) (none :: replies) sent

namespace Desk

/-- The attempts of a run: `last` is the number handed out last, `query` the query so far. -/
def requests (last : RequestNumber) (query : Query) : List DeskMove → List Command
  | [] => []
  | .gesture made :: rest =>
    if made.retrieves then
      .fetch (last + 1) (some (query.edited made)) :: requests (last + 1) (query.edited made) rest
    else requests last (query.edited made) rest
  | _ :: rest => requests last query rest

/-- What a gesture reports when it asks for a listing. -/
def reply? (desk : Desk) : DeskMove → Option (Option RequestNumber)
  | .gesture made =>
    match (desk.perform made).2 with
    | .requested reply => some reply
    | _ => none
  | _ => none

def replies (desk : Desk) : List DeskMove → List (Option RequestNumber)
  | [] => []
  | next :: rest => (desk.reply? next).toList ++ (desk.move next).replies rest

/-- The queue that a move finds when it asks for a listing. -/
def meeting (desk : Desk) (next : DeskMove) : List CommandQueue :=
  if next.retrieves then [desk.queue] else []

def met (desk : Desk) : List DeskMove → List CommandQueue
  | [] => []
  | next :: rest => desk.meeting next ++ (desk.move next).met rest

theorem requests_numbers (last : RequestNumber) (query : Query) (moves : List DeskMove) :
    (requests last query moves).map Command.number? =
      (List.range' (last + 1) (moves.countP DeskMove.retrieves)).map some := by
  induction moves generalizing last query with
  | nil => rfl
  | cons next rest ih =>
      cases next with
      | gesture made =>
          cases retrieves : made.retrieves with
          | true =>
              simp [requests, DeskMove.retrieves, retrieves, ih, Command.number?, List.range'_succ]
          | false => simp [requests, DeskMove.retrieves, retrieves, ih]
      | apply event => simp [requests, DeskMove.retrieves, ih]
      | await => simp [requests, DeskMove.retrieves, ih]
      | take => simp [requests, DeskMove.retrieves, ih]
      | disconnect => simp [requests, DeskMove.retrieves, ih]

/-- A request is queued with the next number and reported by it, unless the queue declines it. -/
theorem fetch_cases (desk : Desk) (query : Option Query) :
    ((∀ fault, ¬desk.queue.Declines fault) ∧
        (desk.fetch query).2 = some (desk.screen.lastRequest + 1) ∧
        (desk.fetch query).1.queue.waiting =
          desk.queue.waiting ++ [.fetch (desk.screen.lastRequest + 1) query]) ∨
      ∃ fault, desk.queue.Declines fault ∧
        (desk.fetch query).2 = none ∧ (desk.fetch query).1.queue = desk.queue := by
  rcases desk.queue.offer_cases (.fetch (desk.screen.lastRequest + 1) query) with
    ⟨fault, declines, refused⟩ | ⟨queue, accepted, waiting⟩
  · refine .inr ⟨fault, declines, ?_, ?_⟩ <;> simp only [fetch, refused]
  · refine .inl ⟨fun fault => CommandQueue.not_declines_of_offer accepted, ?_, ?_⟩
    · simp only [fetch, accepted]
    · simp only [fetch, accepted, waiting]

/-- The query is edited before the request is made, so a refused request does not undo the edit. -/
theorem perform_retrieval (desk : Desk) {made : Gesture} (retrieves : made.retrieves = true) :
    desk.perform made =
      ((desk.changeQuery fun query => query.edited made).fetch
        (some (desk.screen.query.edited made))).map id .requested := by
  cases made with
  | search predicate => rfl
  | sort order => rfl
  | turnTo page => rfl
  | resize limit => rfl
  | refresh => rfl
  | showFilter => cases retrieves
  | editFilter text => cases retrieves
  | removeFilter => cases retrieves
  | remove name => cases retrieves
  | toggle name => cases retrieves

theorem retrieval_dispatched (desk : Desk) {made : Gesture} (retrieves : made.retrieves = true)
    {queues : List CommandQueue} {asked sent : List Command}
    {replies : List (Option RequestNumber)} (rest : Dispatched queues asked replies sent) :
    Dispatched (desk.queue :: queues)
      (.fetch (desk.screen.lastRequest + 1) (some (desk.screen.query.edited made)) :: asked)
      ((desk.reply? (.gesture made)).toList ++ replies)
      ((desk.entering (.gesture made)).filter Command.isFetch ++ sent) := by
  have performed := perform_retrieval desk retrieves
  generalize desk.screen.query.edited made = query at performed ⊢
  have reported : desk.reply? (.gesture made) =
      some ((desk.changeQuery fun query => query.edited made).fetch (some query)).2 := by
    simp only [reply?, performed, Prod.map]
  rw [reported, entering, move, performed, Prod.map_fst, id]
  rcases fetch_cases (desk.changeQuery fun query => query.edited made) (some query) with
    ⟨takes, accepted, waiting⟩ | ⟨fault, declines, refused, same⟩
  · rw [accepted, waiting]
    simp only [changeQuery, List.drop_left]
    exact .sent takes _ _ rest
  · rw [refused, same]
    simp only [changeQuery, List.drop_length]
    exact .refused declines _ rest

/-- A gesture that retrieves nothing reports no request and queues none. -/
theorem no_retrieval (desk : Desk) {made : Gesture} (plain : made.retrieves = false) :
    desk.reply? (.gesture made) = none ∧
      (desk.entering (.gesture made)).filter Command.isFetch = [] := by
  constructor
  · cases made with
    | search predicate | sort order | turnTo page | resize limit | refresh => cases plain
    | showFilter | editFilter text | removeFilter | remove name | toggle name => rfl
  · have effect := perform_effect desk made
    rw [plain] at effect
    rw [entering, move]
    generalize (desk.perform made).1 = after at effect ⊢
    cases effect with
    | edited => simp
    | marked name queue idle shown accepted =>
        simp [CommandQueue.offer_waiting accepted, Command.isFetch]
    | unmarked => simp

theorem move_query (desk : Desk) (made : Gesture) :
    (desk.move (.gesture made)).screen.query = desk.screen.query.edited made := by
  have choices := congrArg Choices.query (perform_choices desk made)
  rw [Choices.after_query] at choices
  exact choices

theorem run_dispatched (desk : Desk) (moves : List DeskMove) :
    Dispatched (desk.met moves) (requests desk.screen.lastRequest desk.screen.query moves)
      (desk.replies moves) ((desk.entered moves).filter Command.isFetch) := by
  induction moves generalizing desk with
  | nil => exact .nil
  | cons next rest ih =>
      have later := ih (desk.move next)
      rw [move_last_request] at later
      rw [entered, List.filter_append, replies, met, meeting]
      cases next with
      | gesture made =>
          rw [move_query] at later
          cases retrieves : made.retrieves with
          | true =>
              rw [requests, DeskMove.retrieves, retrieves, if_pos rfl, if_pos rfl]
              rw [DeskMove.retrieves, retrieves, if_pos rfl] at later
              exact retrieval_dispatched desk retrieves later
          | false =>
              obtain ⟨silent, nothing⟩ := no_retrieval desk retrieves
              rw [requests, DeskMove.retrieves, retrieves, silent, nothing]
              rw [DeskMove.retrieves, retrieves] at later
              exact later
      | apply event =>
          rw [entering_apply]
          simpa [move, apply, requests, reply?, DeskMove.retrieves] using later
      | await =>
          rw [entering_await]
          exact later
      | take =>
          rw [entering_take]
          rw [take_screen] at later
          exact later
      | disconnect =>
          rw [entering_disconnect]
          exact later

/-- Attempts are numbered from one on, and the first asks without any query; each later one asks
with the query that the gestures have made of the options by then, those that the queue refused
included. An attempt enters the queue under its number and reports it, unless the queue that it
finds declines it; then it reports nothing. No other request enters. What entered comes out in its
order, all of it as long as the reader stays, however little room the queue has. -/
theorem requests_leave_in_order_with_their_queries (capacity : Nat) (connected awaited : Bool)
    (options : ViewOptions) (moves : List DeskMove) :
    let queue : CommandQueue := { capacity, waiting := [], connected, awaited }
    let desk := start queue options
    let query := { Query.withLimit options.pageSize with order := options.order }
    let asked := .fetch 1 none :: requests 1 query moves
    let entered := desk.queue.waiting ++ desk.entered moves
    let left := desk.taken moves ++ (desk.run moves).queue.waiting
    asked.map Command.number? = (List.range' 1 (attempts moves)).map some ∧
      Dispatched (queue :: desk.met moves) asked (desk.screen.pending :: desk.replies moves)
        (entered.filter Command.isFetch) ∧
      left <+: entered ∧ (.disconnect ∉ moves → left = entered) := by
  intro queue desk query asked entered left
  refine ⟨?_, ?_, taken_prefix_entered desk moves, taken_append_waiting desk⟩
  · rw [List.map_cons, requests_numbers, attempts, Nat.add_comm 1 (moves.countP _),
      List.range'_succ]
    rfl
  · have later := run_dispatched desk moves
    have counted : desk.screen.lastRequest = 1 := start_last_request queue options
    have fresh : desk.screen.query = query := congrArg Choices.query (start_choices queue options)
    rw [counted, fresh] at later
    simp only [entered, List.filter_append]
    rcases queue.offer_cases (.fetch 1 none) with
      ⟨fault, declines, answer⟩ | ⟨taken, answer, waiting⟩
    · have refused : desk.screen.pending = none ∧ desk.queue = queue := by
        simp [desk, start, fetch, Screen.blank, answer]
      rw [refused.1, refused.2]
      exact .refused declines _ later
    · have accepted : desk.screen.pending = some 1 ∧ desk.queue = taken := by
        simp [desk, start, fetch, Screen.blank, answer]
      rw [accepted.1, accepted.2, waiting]
      exact .sent (fun fault => CommandQueue.not_declines_of_offer answer) 1 none later

/-- Without room for a second request the search is refused, but its filter goes out with the next
page. -/
example :
    let desk := start (.empty 1) .standard
    let moves : List DeskMove :=
      [.gesture (.search "x"), .take, .gesture (.turnTo 3), .gesture (.remove "a"), .take]
    desk.replies moves = [none, some 3] ∧
      desk.taken moves =
        [.fetch 1 none, .fetch 3 (some { Query.initial with filter := "x", page := 3 })] := by
  decide

end Desk

end CohortDesk
