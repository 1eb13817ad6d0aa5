import CohortDesk.Proofs.Desk.Queue
import CohortDesk.Proofs.Worker.Arrival

/-!
# Commands, calls and reports

Every command that the queue accepts becomes one call to the service, in the order of acceptance,
and every answered call becomes one event that reports the answer under the command's own number or
name. `Accounts` relates the worker to three logs of its run: the commands started, the replies of
the service, and the events read. It is kept by every move, whatever the order of answers and
however slowly the screen reads; what it says about events ends when the screen hangs up.
-/

namespace CohortDesk

set_option autoImplicit false

/-- Which call to the service a command asks for. -/
inductive Asks : Command → Call → Prop
  | listing (request : RequestNumber) (query : Option Query) :
      Asks (.fetch request query) (.list query)
  | removal (name : CohortName) : Asks (.remove name) (.remove name)

theorem asks_call (command : Command) : Asks command command.call := by
  cases command with
  | fetch request query => exact .listing request query
  | remove name => exact .removal name

theorem forall₂_asks_call (commands : List Command) :
    List.Forall₂ Asks commands (commands.map Command.call) := by
  rw [List.forall₂_map_right_iff, List.forall₂_same]
  exact fun command _ => asks_call command

/-- Which event reports which answer to a command. -/
inductive Reports : Command → Answer → Event → Prop
  | loaded (request : RequestNumber) (query : Option Query) (cohorts : List Cohort) :
      Reports (.fetch request query) (.success cohorts) (.loaded request cohorts)
  | loadFailed (request : RequestNumber) (query : Option Query) (failure : Failure) :
      Reports (.fetch request query) (.failure failure)
        (.loadFailed request ⟨.loading, failure.message⟩)
  | removed (name : CohortName) (cohorts : List Cohort) :
      Reports (.remove name) (.success cohorts) (.removed name)
  | missing (name : CohortName) (failure : Failure) (gone : failure.isNotFound = true) :
      Reports (.remove name) (.failure failure) (.removed name)
  | removeFailed (name : CohortName) (failure : Failure) (present : failure.isNotFound = false) :
      Reports (.remove name) (.failure failure)
        (.removeFailed name ⟨.removal, failure.message⟩)

theorem completion_reports (command : Command) (answer : Answer) :
    Reports command answer (command.completion answer) := by
  cases command with
  | fetch request query =>
      cases answer with
      | success cohorts => exact .loaded request query cohorts
      | failure failure => exact .loadFailed request query failure
  | remove name =>
      cases answer with
      | success cohorts => exact .removed name cohorts
      | failure failure =>
          cases verdict : failure.isNotFound with
          | true =>
              simp only [Command.completion, verdict, if_true]
              exact .missing name failure verdict
          | false =>
              simp only [Command.completion, verdict, Bool.false_eq_true, if_false]
              exact .removeFailed name failure verdict

/-- The event reports the reply to the call that was made for the command of the same number. -/
def ReportsReply (commands : List Command) (reply : Nat × Answer) (event : Event) : Prop :=
  ∃ command, commands[reply.1]? = some command ∧ Reports command reply.2 event

theorem ReportsReply.append {commands : List Command} {reply : Nat × Answer} {event : Event}
    (reports : ReportsReply commands reply event) (later : List Command) :
    ReportsReply (commands ++ later) reply event := by
  obtain ⟨command, found, reported⟩ := reports
  obtain ⟨bound, _⟩ := List.getElem?_eq_some_iff.1 found
  exact ⟨command, by rw [List.getElem?_append_left bound, found], reported⟩

namespace Worker

/-- The commands that the queue has accepted, in their order. -/
def commands (worker : Worker) (moves : List Move) : List Command :=
  worker.desk.queue.waiting ++ worker.desk.entered (worker.deskRun moves)

/-- The commands for which calls were made, in their order. -/
def started (worker : Worker) (moves : List Move) : List Command :=
  worker.desk.taken (worker.deskRun moves)

def starting (worker : Worker) (next : Move) : List Command :=
  worker.desk.taken (worker.deskMoves next)

/-- The answer that a move gives to a call that has none yet. -/
def replying (worker : Worker) : Move → List (Nat × Answer)
  | .answer call answer => if (worker.command? call).isSome then [(call, answer)] else []
  | _ => []

def replies (worker : Worker) : List Move → List (Nat × Answer)
  | [] => []
  | next :: rest => worker.replying next ++ (worker.move next).replies rest

def reading (worker : Worker) : Move → List Event
  | .apply => worker.arriving.toList
  | _ => []

/-- The events that the screen takes from their queue, in the order in which it does. -/
def read (worker : Worker) : List Move → List Event
  | [] => []
  | next :: rest => worker.reading next ++ (worker.move next).read rest

structure Accounts (worker : Worker) (started : List Command) (replies : List (Nat × Answer))
    (read : List Event) : Prop where
  calls : worker.calls = started.map Command.call
  sending : worker.events.senderAlive = true
  unanswered : ∀ entry ∈ worker.unanswered, started[entry.1]? = some entry.2
  numbers : (replies.map Prod.fst ++ worker.unanswered.map Prod.fst).Perm
    (List.range started.length)
  reports : worker.listening = true → ∃ events,
    List.Forall₂ (ReportsReply started) replies events ∧
      (read ++ worker.events.waiting ++ worker.delivering).Perm events

theorem started_cons (worker : Worker) (next : Move) (rest : List Move) :
    worker.started (next :: rest) = worker.starting next ++ (worker.move next).started rest := by
  rw [started, deskRun, Desk.taken_append, ← move_desk]
  rfl

section Moves

variable {worker : Worker} {started : List Command} {replies : List (Nat × Answer)}
  {read : List Event} (accounts : worker.Accounts started replies read)

include accounts

theorem accounts_start :
    worker.start.Accounts (started ++ worker.starting .start) replies read := by
  unfold start starting deskMoves
  cases waiting : worker.desk.queue.waiting with
  | nil => simpa [CommandQueue.take?, waiting, Desk.taken, Desk.taking] using accounts
  | cons command rest =>
      have counted : worker.calls.length = started.length := by
        rw [accounts.calls, List.length_map]
      simp only [CommandQueue.take?, waiting, Desk.taken, Desk.taking, List.head?_cons,
        Option.toList_some, List.append_nil]
      constructor
      · simp [accounts.calls]
      · exact accounts.sending
      · intro entry member
        rcases List.mem_append.1 member with earlier | now
        · have found := accounts.unanswered entry earlier
          rw [List.getElem?_append_left (List.getElem?_eq_some_iff.1 found).1, found]
        · cases List.mem_singleton.1 now
          rw [counted, List.getElem?_concat_length]
      · simp only [List.map_append, List.map_cons, List.map_nil, List.length_append,
          List.length_singleton, List.range_succ, counted, ← List.append_assoc]
        exact accounts.numbers.append_right _
      · intro listening
        obtain ⟨events, reported, same⟩ := accounts.reports listening
        exact ⟨events, reported.imp fun _ _ reports => reports.append [command], same⟩

theorem accounts_answer (call : Nat) (answer : Answer) :
    (worker.answer call answer).Accounts started
      (replies ++ worker.replying (.answer call answer)) read := by
  unfold Worker.answer replying command?
  cases found : worker.unanswered.find? (·.1 == call) with
  | none => simpa [found] using accounts
  | some entry =>
      have numbered : entry.1 = call := by simpa using List.find?_some found
      subst numbered
      have owned : started[entry.1]? = some entry.2 :=
        accounts.unanswered entry (List.mem_of_find?_eq_some found)
      have left := (perm_cons_eraseP found).map Prod.fst
      simp only [found, Option.map_some, Option.isSome_some, if_true]
      constructor
      · exact accounts.calls
      · exact accounts.sending
      · intro other member
        exact accounts.unanswered other (List.mem_of_mem_eraseP member)
      · rw [List.map_append, List.map_singleton, List.append_assoc, List.singleton_append]
        exact (left.symm.append_left _).trans accounts.numbers
      · intro listening
        obtain ⟨events, reported, same⟩ := accounts.reports listening
        refine ⟨events ++ [entry.2.completion answer], ?_, ?_⟩
        · exact List.rel_append reported
            (.cons ⟨entry.2, owned, completion_reports entry.2 answer⟩ .nil)
        · rw [← List.append_assoc]
          exact same.append_right _

theorem accounts_deliver (index : Nat) : (worker.deliver index).Accounts started replies read := by
  unfold deliver
  cases found : worker.delivering[index]? with
  | none => exact accounts
  | some event =>
      obtain ⟨bound, here⟩ := List.getElem?_eq_some_iff.1 found
      cases listening : worker.listening with
      | false =>
          simp only [Bool.not_false, if_true]
          exact { accounts with reports := fun listens => absurd listens Bool.false_ne_true }
      | true =>
          simp only [Bool.not_true, Bool.false_eq_true, if_false, EventQueue.send]
          by_cases room : (worker.events.senderAlive && worker.events.hasRoom) = true
          · simp only [if_pos room]
            refine { accounts with reports := fun _ => ?_ }
            obtain ⟨events, reported, same⟩ := accounts.reports listening
            refine ⟨events, reported, ?_⟩
            have moved := List.getElem_cons_eraseIdx_perm bound
            rw [here] at moved
            simp only [List.append_assoc, List.singleton_append] at same ⊢
            exact ((moved.append_left _).append_left _).trans same
          · simp only [if_neg room]
            exact accounts

theorem accounts_apply :
    worker.applyNext.Accounts started replies (read ++ worker.reading .apply) := by
  unfold applyNext reading arriving
  cases waiting : worker.events.waiting with
  | nil => simpa using accounts
  | cons event rest =>
      refine { accounts with reports := fun listening => ?_ }
      obtain ⟨events, reported, same⟩ := accounts.reports listening
      refine ⟨events, reported, ?_⟩
      rw [waiting] at same
      simpa using same

theorem accounts_move (next : Move) :
    (worker.move next).Accounts (started ++ worker.starting next)
      (replies ++ worker.replying next) (read ++ worker.reading next) := by
  cases next with
  | gesture made =>
      simp only [starting, deskMoves, Desk.taken, Desk.taking, replying, reading, List.append_nil]
      exact { accounts with }
  | await =>
      simp only [starting, deskMoves, Desk.taken, Desk.taking, replying, reading, List.append_nil]
      exact { accounts with }
  | start =>
      simp only [replying, reading, List.append_nil]
      exact accounts_start accounts
  | answer call answer =>
      simp only [starting, deskMoves, Desk.taken, reading, List.append_nil]
      exact accounts_answer accounts call answer
  | deliver index =>
      simp only [starting, deskMoves, Desk.taken, replying, reading, List.append_nil]
      exact accounts_deliver accounts index
  | listen =>
      simp only [starting, deskMoves, Desk.taken, replying, reading, List.append_nil]
      exact { accounts with }
  | apply =>
      have none : worker.starting .apply = [] := by
        unfold starting deskMoves
        cases worker.events.waiting <;> rfl
      simp only [none, replying, List.append_nil]
      exact accounts_apply accounts
  | hangUp =>
      simp only [starting, deskMoves, Desk.taken, replying, reading, List.append_nil]
      exact { accounts with reports := fun listens => absurd listens Bool.false_ne_true }

end Moves

theorem accounts_run {worker : Worker} {started : List Command} {replies : List (Nat × Answer)}
    {read : List Event} (accounts : worker.Accounts started replies read) (moves : List Move) :
    (worker.run moves).Accounts (started ++ worker.started moves)
      (replies ++ worker.replies moves) (read ++ worker.read moves) := by
  induction moves generalizing worker started replies read with
  | nil =>
      simpa [run, Worker.started, deskRun, Desk.taken, Worker.replies, Worker.read] using accounts
  | cons next rest ih =>
      have later := ih (accounts_move accounts next)
      rw [started_cons, Worker.replies, Worker.read, ← List.append_assoc, ← List.append_assoc,
        ← List.append_assoc]
      exact later

theorem accounts_launch_on {commands : CommandQueue} (eventCapacity : Nat) (options : ViewOptions) :
    (launchOn commands eventCapacity options).Accounts [] [] [] where
  calls := rfl
  sending := rfl
  unanswered _ member := absurd member List.not_mem_nil
  numbers := .nil
  reports _ := ⟨[], .nil, .nil⟩

theorem listening_run {worker : Worker} (listening : worker.listening = true) {moves : List Move}
    (listens : .hangUp ∉ moves) : (worker.run moves).listening = true := by
  induction moves generalizing worker with
  | nil => exact listening
  | cons next rest ih =>
      have here : (worker.move next).listening = true := by
        cases next with
        | gesture made => exact listening
        | await => exact listening
        | start =>
            simp only [move, start]
            split <;> exact listening
        | answer call answer => exact (worker.carries_answer call answer).listening.trans listening
        | deliver index => exact (carries_deliver listening index).listening.trans listening
        | listen => exact listening
        | apply =>
            simp only [move, applyNext]
            split <;> exact listening
        | hangUp => exact absurd List.mem_cons_self listens
      exact ih here fun later => listens (List.mem_cons_of_mem _ later)

theorem not_mem_disconnect_desk_run (worker : Worker) (moves : List Move) :
    .disconnect ∉ worker.deskRun moves := by
  induction moves generalizing worker with
  | nil => exact List.not_mem_nil
  | cons next rest ih =>
      rw [deskRun, List.mem_append, not_or]
      constructor
      · cases next <;> simp [deskMoves]
      · exact ih (worker.move next)

theorem started_append_waiting (worker : Worker) (moves : List Move) :
    worker.started moves ++ (worker.run moves).desk.queue.waiting = worker.commands moves := by
  rw [run_desk]
  exact Desk.taken_append_waiting worker.desk (worker.not_mem_disconnect_desk_run moves)

/-- The moves with which the worker starts every command that waits. -/
def startRest (worker : Worker) : List Move :=
  List.replicate worker.desk.queue.waiting.length .start

/-- The moves with which the screen reads every event that is finished; each that has no room yet
is let in by a screen that waits for it. -/
def readRest (worker : Worker) : List Move :=
  List.replicate worker.events.waiting.length .apply ++
    (List.replicate worker.delivering.length [.listen, .deliver 0, .apply]).flatten

theorem calls_start_rest (worker : Worker) :
    (worker.run worker.startRest).calls =
      worker.calls ++ worker.desk.queue.waiting.map Command.call := by
  unfold startRest
  induction waiting : worker.desk.queue.waiting generalizing worker with
  | nil => simp [run]
  | cons command rest ih =>
      have started : worker.start.desk.queue.waiting = rest ∧
          worker.start.calls = worker.calls ++ [command.call] := by
        simp [start, CommandQueue.take?, waiting]
      have later := ih worker.start started.1
      rw [started.2, List.append_assoc] at later
      exact later

theorem read_append (worker : Worker) (first second : List Move) :
    worker.read (first ++ second) = worker.read first ++ (worker.run first).read second := by
  induction first generalizing worker with
  | nil => rfl
  | cons next rest ih =>
      rw [List.cons_append, read, read, ih, List.append_assoc]
      rfl

/-- The screen listens, events can be sent, and none waits. -/
structure Ready (worker : Worker) : Prop where
  listening : worker.listening = true
  sending : worker.events.senderAlive = true
  waiting : worker.events.waiting = []

theorem read_waiting {worker : Worker} (listening : worker.listening = true)
    (sending : worker.events.senderAlive = true) :
    let applies := List.replicate worker.events.waiting.length Move.apply
    worker.read applies = worker.events.waiting ∧ (worker.run applies).Ready ∧
      (worker.run applies).delivering = worker.delivering := by
  induction waiting : worker.events.waiting generalizing worker with
  | nil => exact ⟨rfl, ⟨listening, sending, waiting⟩, rfl⟩
  | cons event rest ih =>
      have applied : worker.applyNext.listening = true ∧
          worker.applyNext.events.senderAlive = true ∧
          worker.applyNext.events.waiting = rest ∧
          worker.applyNext.delivering = worker.delivering := by
        simp only [applyNext, waiting]
        exact ⟨listening, sending, trivial, trivial⟩
      have taken : worker.reading .apply = [event] := by
        simp only [reading, arriving, waiting, List.head?_cons, Option.toList_some]
      obtain ⟨reads, ready, kept⟩ := ih applied.1 applied.2.1 applied.2.2.1
      rw [applied.2.2.2] at kept
      refine ⟨?_, ready, kept⟩
      rw [List.length_cons, List.replicate_succ, read, taken, List.singleton_append]
      exact congrArg (event :: ·) reads

/-- A screen that waits takes the first finished event whatever the capacity of the queue. -/
theorem read_delivered {worker : Worker} (ready : worker.Ready) {event : Event}
    {rest : List Event} (delivering : worker.delivering = event :: rest) :
    worker.read [.listen, .deliver 0, .apply] = [event] ∧
      (worker.run [.listen, .deliver 0, .apply]).Ready ∧
      (worker.run [.listen, .deliver 0, .apply]).delivering = rest := by
  obtain ⟨listening, sending, waiting⟩ := ready
  have delivered : (worker.listen.deliver 0).delivering = rest ∧
      (worker.listen.deliver 0).events.waiting = [event] ∧
      (worker.listen.deliver 0).listening = true ∧
      (worker.listen.deliver 0).events.senderAlive = true := by
    simp [listen, EventQueue.await, deliver, EventQueue.send, EventQueue.hasRoom, delivering,
      listening, sending, waiting]
  obtain ⟨left, arrived, listens, sends⟩ := delivered
  refine ⟨?_, ⟨?_, ?_, ?_⟩, ?_⟩
  · simp [read, reading, move, arriving, arrived]
  · simp [run, move, applyNext, arrived, listens]
  · simp [run, move, applyNext, arrived, sends]
  · simp [run, move, applyNext, arrived]
  · simp [run, move, applyNext, arrived, left]

theorem read_delivering {worker : Worker} (ready : worker.Ready) :
    worker.read (List.replicate worker.delivering.length [.listen, .deliver 0, .apply]).flatten =
      worker.delivering := by
  induction delivering : worker.delivering generalizing worker with
  | nil => rfl
  | cons event rest ih =>
      obtain ⟨reads, next, left⟩ := read_delivered ready delivering
      rw [List.length_cons, List.replicate_succ, List.flatten_cons, read_append, reads,
        ih next left]
      rfl

theorem read_read_rest {worker : Worker} (listening : worker.listening = true)
    (sending : worker.events.senderAlive = true) :
    worker.read worker.readRest = worker.events.waiting ++ worker.delivering := by
  obtain ⟨reads, ready, kept⟩ := read_waiting listening sending
  rw [readRest, read_append, reads, ← kept, read_delivering ready]

theorem read_deaf {worker : Worker} (deaf : worker.Deaf) (moves : List Move) :
    worker.read moves = [] := by
  induction moves generalizing worker with
  | nil => rfl
  | cons next rest ih =>
      have nothing : worker.reading next = [] := by
        cases next with
        | apply => simp only [reading, arriving, deaf.waiting, List.head?_nil, Option.toList_none]
        | gesture made => rfl
        | await => rfl
        | start => rfl
        | answer call answer => rfl
        | deliver index => rfl
        | listen => rfl
        | hangUp => rfl
      rw [read, nothing, ih (deaf_move deaf next)]
      rfl

theorem deliver_deaf {worker : Worker} (deaf : worker.Deaf) (index : Nat) :
    worker.deliver index = { worker with delivering := worker.delivering.eraseIdx index } := by
  unfold deliver
  cases found : worker.delivering[index]? with
  | none => rw [List.eraseIdx_of_length_le (List.getElem?_eq_none_iff.1 found)]
  | some event => simp only [deaf.listening, Bool.not_false, if_true]

/-- The service is called once for each command that has been started, in the order of acceptance
and with what the command asks for; the accepted commands are those and the ones that still wait,
and starting these leads to their calls. Calls are numbered by that order, and each is answered at
most once. Until the screen hangs up, the events read, those that wait and those still without room
report the replies one by one, each to the command of its own number, and the screen can read all of
them; afterwards it reads nothing more and finished events are dropped, but the remaining commands
still lead to their calls. -/
theorem each_command_is_called_and_reported_once (commandCapacity eventCapacity : Nat)
    (ready : Bool) (options : ViewOptions) (moves : List Move) :
    let launched := launchWith commandCapacity eventCapacity ready options
    let worker := launched.run moves
    let commands := launched.commands moves
    let replies := launched.replies moves
    launched.started moves ++ worker.desk.queue.waiting = commands ∧
      List.Forall₂ Asks (launched.started moves) worker.calls ∧
      List.Forall₂ Asks commands (worker.run worker.startRest).calls ∧
      (replies.map Prod.fst ++ worker.unanswered.map Prod.fst).Perm
        (List.range worker.calls.length) ∧
      (.hangUp ∉ moves → ∃ events, List.Forall₂ (ReportsReply commands) replies events ∧
        (launched.read moves ++ worker.events.waiting ++ worker.delivering).Perm events ∧
        (launched.read moves ++ worker.read worker.readRest).Perm events) ∧
      ∀ before after, moves = before ++ .hangUp :: after →
        launched.read moves = launched.read before ∧ worker.events.waiting = [] ∧
          ∀ index, worker.move (.deliver index) =
            { worker with delivering := worker.delivering.eraseIdx index } := by
  intro launched worker commands replies
  have accounts : worker.Accounts (launched.started moves) replies (launched.read moves) :=
    accounts_run (accounts_launch_on eventCapacity options) moves
  have accepted : launched.started moves ++ worker.desk.queue.waiting = commands :=
    launched.started_append_waiting moves
  have asked : List.Forall₂ Asks (launched.started moves) worker.calls := by
    rw [accounts.calls]
    exact forall₂_asks_call (launched.started moves)
  have all : List.Forall₂ Asks commands (worker.run worker.startRest).calls := by
    rw [worker.calls_start_rest, accounts.calls, ← List.map_append, accepted]
    exact forall₂_asks_call commands
  refine ⟨accepted, asked, all, ?_, ?_, ?_⟩
  · rw [accounts.calls, List.length_map]
    exact accounts.numbers
  · intro listens
    have listening : worker.listening = true := listening_run rfl listens
    obtain ⟨events, reported, same⟩ := accounts.reports listening
    refine ⟨events, reported.imp fun _ _ reports => ?_, same, ?_⟩
    · rw [← accepted]
      exact reports.append _
    · rw [read_read_rest listening accounts.sending, ← List.append_assoc]
      exact same
  · rintro before after rfl
    have hungUp : ((launched.run before).move .hangUp).Deaf := ⟨rfl, rfl⟩
    have deaf : worker.Deaf := by
      simp only [worker, run_append]
      exact deaf_run hungUp after
    refine ⟨?_, deaf.waiting, deliver_deaf deaf⟩
    rw [read_append, read, read_deaf hungUp after]
    simp [reading]

/-- With room for one event the second confirmation waits until the first is read; each is that of
the call that was answered. -/
example :
    let listed := [.named "a", .named "b"]
    let launched := launchWith 4 1 true .standard
    let moves : List Move :=
      [.start, .answer 0 (.success listed), .deliver 0, .apply, .gesture (.remove "a"),
        .gesture (.remove "b"), .start, .start, .answer 2 (.success []), .answer 1 (.success []),
        .deliver 0, .deliver 0, .apply, .deliver 0, .apply]
    (launched.replies moves).map Prod.fst = [0, 2, 1] ∧
      launched.read moves = [.loaded 1 listed, .removed "b", .removed "a"] := by
  decide

end Worker

end CohortDesk
