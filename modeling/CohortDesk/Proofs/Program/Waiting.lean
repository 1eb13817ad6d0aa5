import CohortDesk.Proofs.Program.Removal
import CohortDesk.Proofs.Worker.Arrival

/-!
# Waiting for the worker

A run hands each command to the worker and waits until the screen has come to rest. Meanwhile worker
and service move as they like: the call starts, is answered, and its event finds its way to the
screen. `Stage` says how far the command has come; every move keeps the stage or takes it one
further, so whenever the screen is at rest again the whole run is where the answers put it.
-/

namespace CohortDesk

set_option autoImplicit false

open CommandLine

namespace CommandQueue

/-- With room in the queue it makes no difference whether the reader waits. -/
theorem offer_awaited {queue : CommandQueue} (room : queue.waiting.length < queue.capacity)
    (awaited : Bool) (command : Command) :
    offer { queue with awaited } command = queue.offer command := by
  simp [offer, hasRoom, room]

theorem offer_capacity {queue after : CommandQueue} {command : Command}
    (accepted : queue.offer command = .ok after) : after.capacity = queue.capacity := by
  unfold offer at accepted
  split at accepted
  · cases accepted
  · split at accepted
    · cases accepted
      rfl
    · cases accepted

end CommandQueue

namespace Desk

/-- The same desk, but for whether the reader of its queue waits. -/
def Matches (desk other : Desk) : Prop :=
  ∃ awaited, other = { desk with queue := { desk.queue with awaited } }

/-- The desk after its commands were taken. -/
def emptied (desk : Desk) : Desk := { desk with queue := { desk.queue with waiting := [] } }

def HasRoom (desk : Desk) : Prop := desk.queue.waiting.length < desk.queue.capacity

section Matches

variable {desk other : Desk}

theorem Matches.screen (same : desk.Matches other) : other.screen = desk.screen := by
  obtain ⟨awaited, rfl⟩ := same
  rfl

theorem Matches.waiting (same : desk.Matches other) :
    other.queue.waiting = desk.queue.waiting := by
  obtain ⟨awaited, rfl⟩ := same
  rfl

theorem Matches.apply (same : desk.Matches other) (event : Event) :
    (desk.apply event).Matches (other.apply event) := by
  obtain ⟨awaited, rfl⟩ := same
  exact ⟨awaited, rfl⟩

theorem Matches.emptied (same : desk.Matches other) : desk.emptied.Matches other.emptied := by
  obtain ⟨awaited, rfl⟩ := same
  exact ⟨awaited, rfl⟩

theorem Matches.fetch (same : desk.Matches other) (room : desk.HasRoom) (query : Option Query) :
    (desk.fetch query).1.Matches (other.fetch query).1 := by
  obtain ⟨awaited, rfl⟩ := same
  simp only [Desk.fetch, CommandQueue.offer_awaited room awaited]
  split
  · exact ⟨_, rfl⟩
  · exact ⟨awaited, rfl⟩

theorem Matches.remove (same : desk.Matches other) (room : desk.HasRoom) (name : CohortName) :
    (desk.remove name).1.Matches (other.remove name).1 := by
  obtain ⟨awaited, rfl⟩ := same
  simp only [Desk.remove, CommandQueue.offer_awaited room awaited]
  split
  · exact ⟨awaited, rfl⟩
  · split
    · split
      · exact ⟨_, rfl⟩
      · exact ⟨awaited, rfl⟩
    · exact ⟨awaited, rfl⟩

theorem Matches.perform (same : desk.Matches other) (room : desk.HasRoom) (made : Gesture) :
    (desk.perform made).1.Matches (other.perform made).1 := by
  cases retrieves : made.retrieves with
  | true =>
      rw [perform_retrieval desk retrieves, perform_retrieval other retrieves, same.screen,
        Prod.map_fst, Prod.map_fst, id, id]
      have stillRoom : (desk.changeQuery fun query => query.edited made).HasRoom := room
      refine Matches.fetch ?_ stillRoom _
      obtain ⟨awaited, rfl⟩ := same
      exact ⟨awaited, rfl⟩
  | false =>
      cases made with
      | remove name => exact same.remove room name
      | toggle name =>
          obtain ⟨awaited, rfl⟩ := same
          simp only [Desk.perform, Desk.toggle]
          split <;> exact ⟨awaited, rfl⟩
      | showFilter | editFilter text | removeFilter =>
          obtain ⟨awaited, rfl⟩ := same
          exact ⟨awaited, rfl⟩
      | search predicate | sort order | turnTo page | resize limit | refresh => cases retrieves

end Matches

theorem perform_capacity (desk : Desk) (made : Gesture) :
    (desk.perform made).1.queue.capacity = desk.queue.capacity := by
  have effect := perform_effect desk made
  generalize made.retrieves = retrieves at effect
  generalize (desk.perform made).1 = after at effect ⊢
  cases effect with
  | edited => rfl
  | requested query queue accepted => exact CommandQueue.offer_capacity accepted
  | declined => rfl
  | marked name queue idle shown accepted => exact CommandQueue.offer_capacity accepted
  | unmarked => rfl

end Desk

/-- Whether a move is made while a run waits: neither a gesture nor the end of listening. -/
def Move.meanwhile : Move → Bool
  | .gesture _ | .hangUp => false
  | _ => true

namespace Worker

/-- A worker at a desk, with its unanswered calls and with its events on their way and in the queue,
whose screen listens. -/
structure Holds (worker : Worker) (expected : Desk) (unanswered : List Command)
    (delivering waiting : List Event) : Prop where
  desk : expected.Matches worker.desk
  unanswered : worker.unanswered.map Prod.snd = unanswered
  delivering : worker.delivering = delivering
  waiting : worker.events.waiting = waiting
  listening : worker.listening = true
  sending : worker.events.senderAlive = true

section Holds

variable {worker : Worker} {desk : Desk} {command : Command} {event : Event}
  {unanswered : List Command} {delivering waiting : List Event}

theorem Holds.await (holds : worker.Holds desk unanswered delivering waiting) :
    worker.await.Holds desk unanswered delivering waiting := by
  obtain ⟨awaited, same⟩ := holds.desk
  exact { holds with desk := ⟨_, by rw [Worker.await, same]; rfl⟩ }

theorem Holds.listen (holds : worker.Holds desk unanswered delivering waiting) :
    worker.listen.Holds desk unanswered delivering waiting :=
  { holds with }

theorem Holds.start_nothing (holds : worker.Holds desk unanswered delivering waiting)
    (idle : desk.queue.waiting = []) : worker.start = worker := by
  rw [← holds.desk.waiting] at idle
  simp only [Worker.start, CommandQueue.take?, idle]

theorem Holds.start (holds : worker.Holds desk unanswered delivering waiting)
    (queued : desk.queue.waiting = [command]) :
    worker.start.Holds desk.emptied (unanswered ++ [command]) delivering waiting := by
  have emptied := holds.desk.emptied
  rw [← holds.desk.waiting] at queued
  simp only [Worker.start, CommandQueue.take?, queued]
  refine { holds with desk := emptied, unanswered := ?_ }
  rw [List.map_append, holds.unanswered]
  rfl

theorem Holds.answer_nothing (holds : worker.Holds desk [] delivering waiting) (call : Nat)
    (answer : Answer) : worker.answer call answer = worker := by
  have none : worker.unanswered = [] := List.map_eq_nil_iff.1 holds.unanswered
  simp [Worker.answer, command?, none]

/-- The one call is answered under its own number. -/
theorem Holds.answer (holds : worker.Holds desk [command] delivering waiting) (answer : Answer) :
    ∃ own,
      (worker.answer own answer).Holds desk [] (delivering ++ [command.completion answer]) waiting ∧
        ∀ call, call ≠ own → worker.answer call answer = worker := by
  obtain ⟨⟨own, _⟩, single, rfl⟩ := List.map_eq_singleton_iff.1 holds.unanswered
  refine ⟨own, ?_, fun call other => ?_⟩
  · simp only [Worker.answer, command?, single, List.find?_singleton, beq_self_eq_true, if_true,
      Option.map_some]
    exact { holds with
      unanswered := by simp
      delivering := by rw [holds.delivering] }
  · simp [Worker.answer, command?, single, Ne.symm other]

theorem Holds.deliver_nothing (holds : worker.Holds desk unanswered [] waiting) (index : Nat) :
    worker.deliver index = worker := by
  simp [Worker.deliver, holds.delivering]

/-- The one event goes into the queue if there is room. -/
theorem Holds.deliver (holds : worker.Holds desk unanswered [event] waiting)
    (room : worker.events.hasRoom = true) :
    (worker.deliver 0).Holds desk unanswered [] (waiting ++ [event]) := by
  simp only [Worker.deliver, holds.delivering, holds.listening, EventQueue.send, holds.sending,
    room, List.getElem?_cons_zero, Bool.not_true, Bool.false_eq_true, if_false, Bool.and_self,
    if_true]
  exact { holds with
    delivering := rfl
    waiting := congrArg (· ++ [event]) holds.waiting
    listening := rfl
    sending := rfl }

theorem Holds.deliver_late (holds : worker.Holds desk unanswered [event] waiting) {index : Nat}
    (late : ¬(index = 0 ∧ worker.events.hasRoom = true)) : worker.deliver index = worker := by
  cases index with
  | zero =>
      have full : ¬worker.events.hasRoom = true := fun room => late ⟨rfl, room⟩
      simp [Worker.deliver, holds.delivering, holds.listening, EventQueue.send, full]
  | succ index => simp [Worker.deliver, holds.delivering]

theorem Holds.apply_nothing (holds : worker.Holds desk unanswered delivering []) :
    worker.applyNext = worker := by
  simp only [applyNext, holds.waiting]

theorem Holds.apply (holds : worker.Holds desk unanswered delivering (event :: waiting)) :
    worker.applyNext.Holds (desk.apply event) unanswered delivering waiting := by
  simp only [applyNext, holds.waiting]
  exact { holds with desk := holds.desk.apply event, waiting := rfl }

end Holds

/-- How far the only command of a desk has come, up to the answer's effect on the screen. -/
inductive Stage (desk : Desk) (command : Command) (answer : Answer) (worker : Worker) : Prop
  | queued (holds : worker.Holds desk [] [] [])
  | called (holds : worker.Holds desk.emptied [command] [] [])
  | answered (holds : worker.Holds desk.emptied [] [command.completion answer] [])
  | delivered (holds : worker.Holds desk.emptied [] [] [command.completion answer])
  | applied (holds : worker.Holds (desk.emptied.apply (command.completion answer)) [] [] [])

section Stage

variable {worker : Worker} {desk : Desk} {command : Command} {answer : Answer}
  (stage : worker.Stage desk command answer)

include stage

theorem stage_await : worker.await.Stage desk command answer := by
  cases stage with
  | queued holds => exact .queued holds.await
  | called holds => exact .called holds.await
  | answered holds => exact .answered holds.await
  | delivered holds => exact .delivered holds.await
  | applied holds => exact .applied holds.await

theorem stage_listen : worker.listen.Stage desk command answer := by
  cases stage with
  | queued holds => exact .queued holds.listen
  | called holds => exact .called holds.listen
  | answered holds => exact .answered holds.listen
  | delivered holds => exact .delivered holds.listen
  | applied holds => exact .applied holds.listen

-- Each of the next four moves has something to do at one stage only; elsewhere it changes nothing.

theorem stage_start (queued : desk.queue.waiting = [command]) :
    worker.start.Stage desk command answer := by
  have kept := stage
  cases stage with
  | queued holds => exact .called (holds.start queued)
  | called holds | answered holds | delivered holds | applied holds =>
      rw [holds.start_nothing rfl]
      exact kept

theorem stage_answer (call : Nat) : (worker.answer call answer).Stage desk command answer := by
  have kept := stage
  cases stage with
  | called holds =>
      obtain ⟨own, answered, others⟩ := holds.answer answer
      by_cases same : call = own
      · subst same
        exact .answered answered
      · rw [others call same]
        exact kept
  | queued holds | answered holds | delivered holds | applied holds =>
      rw [holds.answer_nothing]
      exact kept

theorem stage_deliver (index : Nat) : (worker.deliver index).Stage desk command answer := by
  have kept := stage
  cases stage with
  | answered holds =>
      by_cases arrives : index = 0 ∧ worker.events.hasRoom = true
      · obtain ⟨rfl, room⟩ := arrives
        exact .delivered (holds.deliver room)
      · rw [holds.deliver_late arrives]
        exact kept
  | queued holds | called holds | delivered holds | applied holds =>
      rw [holds.deliver_nothing]
      exact kept

theorem stage_apply : worker.applyNext.Stage desk command answer := by
  have kept := stage
  cases stage with
  | delivered holds => exact .applied holds.apply
  | queued holds | called holds | answered holds | applied holds =>
      rw [holds.apply_nothing]
      exact kept

end Stage

theorem stage_move {worker : Worker} {desk : Desk} {command : Command} {answer : Answer}
    (queued : desk.queue.waiting = [command]) (stage : worker.Stage desk command answer)
    {next : Move} (own : next.meanwhile = true)
    (given : ∀ call other, next = .answer call other → other = answer) :
    (worker.move next).Stage desk command answer := by
  cases next with
  | gesture made => cases own
  | await => exact stage_await stage
  | start => exact stage_start stage queued
  | answer call other =>
      rw [given call other rfl]
      exact stage_answer stage call
  | deliver index => exact stage_deliver stage index
  | listen => exact stage_listen stage
  | apply => exact stage_apply stage
  | hangUp => cases own

theorem stage_run {worker : Worker} {desk : Desk} {command : Command} {answer : Answer}
    (queued : desk.queue.waiting = [command]) (stage : worker.Stage desk command answer)
    {moves : List Move} (own : ∀ next ∈ moves, next.meanwhile = true)
    (given : ∀ call other, .answer call other ∈ moves → other = answer) :
    (worker.run moves).Stage desk command answer := by
  induction moves generalizing worker with
  | nil => exact stage
  | cons next rest ih =>
      have here : (worker.move next).Stage desk command answer := by
        refine stage_move queued stage (own next List.mem_cons_self) fun call other same => ?_
        exact given call other (same ▸ List.mem_cons_self)
      exact ih here (fun later member => own later (List.mem_cons_of_mem _ member))
        fun call other member => given call other (List.mem_cons_of_mem _ member)

/-- A screen that was busy is at rest only after the answer has been applied. -/
theorem Stage.applied_of_rests {worker : Worker} {desk : Desk} {command : Command}
    {answer : Answer} (stage : worker.Stage desk command answer)
    (busy : desk.screen.isBusy = true) (rests : worker.desk.screen.isBusy = false) :
    worker.Holds (desk.emptied.apply (command.completion answer)) [] [] [] := by
  have unchanged {unanswered : List Command} {delivering waiting : List Event}
      (holds : worker.Holds desk.emptied unanswered delivering waiting) : False := by
    have same : worker.desk.screen = desk.screen := holds.desk.screen
    rw [same, busy] at rests
    cases rests
  cases stage with
  | queued holds =>
      rw [holds.desk.screen, busy] at rests
      cases rests
  | called holds | answered holds | delivered holds => exact (unchanged holds).elim
  | applied holds => exact holds

theorem settle_with_applies (worker : Worker) :
    ∃ count,
      let rested := worker.run (List.replicate count .apply)
      worker.desk.screen.settleWith worker.events.waiting =
          (rested.desk.screen, rested.events.waiting, !rested.desk.screen.isBusy) ∧
        rested.events = { worker.events with waiting := rested.events.waiting } := by
  induction waiting : worker.events.waiting generalizing worker with
  | nil => exact ⟨0, by simp [run, Screen.settleWith, waiting], rfl⟩
  | cons event rest ih =>
      cases busy : worker.desk.screen.isBusy with
      | false => exact ⟨0, by simp [run, Screen.settleWith, waiting, busy], rfl⟩
      | true =>
          have applied : worker.applyNext.events = { worker.events with waiting := rest } ∧
              worker.applyNext.desk.screen = worker.desk.screen.apply event := by
            unfold applyNext
            rw [waiting]
            exact ⟨rfl, rfl⟩
          obtain ⟨count, settled, left⟩ := ih worker.applyNext (by rw [applied.1])
          refine ⟨count + 1, ?_, left.trans (by rw [applied.1]; rfl)⟩
          rw [Screen.settleWith, busy, if_pos rfl, ← applied.2]
          exact settled

/-- Settling is applying the events that wait, one by one, until the screen has come to rest. -/
theorem settle_applies (worker : Worker) (micros : Nat) :
    ∃ count,
      let rested := worker.run (List.replicate count .apply)
      let settled := worker.desk.screen.settle worker.events micros
      settled.1 = rested.desk.screen ∧ settled.2.1 = rested.events ∧
        (settled.2.2 = .ok () ↔ rested.desk.screen.isBusy = false) := by
  obtain ⟨count, settled, left⟩ := worker.settle_with_applies
  refine ⟨count, ?_⟩
  generalize worker.run (List.replicate count .apply) = rested at settled left
  simp only [Screen.settle, Screen.settleWithin, settled]
  cases rested.desk.screen.isBusy with
  | false => exact ⟨rfl, left.symm, iff_of_true rfl rfl⟩
  | true => exact ⟨rfl, left.symm, iff_of_false nofun nofun⟩

end Worker

namespace Program

/-- What a run does before it goes on. If no command waits, it goes on at once. Otherwise worker and
service move in any order, and the events that arrive are applied, until the screen has come to
rest; the call is answered as the service does. -/
inductive Waits (service : Service) (peer : Peer) (session : Session) (worker : Worker) :
    Session → Worker → Prop
  | atOnce (idle : worker.desk.queue.waiting = []) :
      Waits service peer session worker session worker
  | forAnswer {command : Command} {answer : Answer} {after : Session} {moves : List Move}
      (queued : worker.desk.queue.waiting = [command])
      (busy : worker.desk.screen.isBusy = true)
      (answered : (service.answer peer.converse command.call).run session = (answer, after))
      (own : ∀ next ∈ moves, next.meanwhile = true)
      (given : ∀ call other, .answer call other ∈ moves → other = answer)
      (rests : (worker.run moves).desk.screen.isBusy = false) :
      Waits service peer session worker after (worker.run moves)

/-- A run makes its gestures one after the other, each from a screen at rest. -/
inductive Makes (service : Service) (peer : Peer) :
    Session → Worker → List Gesture → Session → Worker → Prop
  | nil (session : Session) (worker : Worker) : Makes service peer session worker [] session worker
  | cons {session between after : Session} {worker rested last : Worker} {made : Gesture}
      {rest : List Gesture}
      (waits : Waits service peer session (worker.move (.gesture made)) between rested)
      (later : Makes service peer between rested rest after last) :
      Makes service peer session worker (made :: rest) after last

/-- No command waits, and the next one finds room. -/
structure Free (desk : Desk) : Prop where
  idle : desk.queue.waiting = []
  positive : 0 < desk.queue.capacity

variable {service : Service} {peer : Peer} {session after : Session} {worker rested : Worker}
  {desk : Desk}

/-- Wherever worker and service have come, settling ends the wait unless it fails: then the screen
and the events left over are those of a run that has waited. -/
theorem waits_of_settles {command : Command} {answer : Answer} {moves : List Move} {micros : Nat}
    (queued : worker.desk.queue.waiting = [command]) (busy : worker.desk.screen.isBusy = true)
    (answered : (service.answer peer.converse command.call).run session = (answer, after))
    (own : ∀ next ∈ moves, next.meanwhile = true)
    (given : ∀ call other, .answer call other ∈ moves → other = answer) :
    let reached := worker.run moves
    let settled := reached.desk.screen.settle reached.events micros
    settled.2.2 = .ok () →
      ∃ rested, Waits service peer session worker after rested ∧
        rested.desk.screen = settled.1 ∧ rested.events = settled.2.1 := by
  intro reached settled settles
  obtain ⟨count, screen, events, rests⟩ := reached.settle_applies micros
  have together : worker.run (moves ++ List.replicate count .apply) =
      reached.run (List.replicate count .apply) := worker.run_append moves _
  have waits : Waits service peer session worker after
      (worker.run (moves ++ List.replicate count .apply)) := by
    refine .forAnswer queued busy answered ?_ ?_ ?_
    · intro next member
      rcases List.mem_append.1 member with before | applies
      · exact own next before
      · rw [List.eq_of_mem_replicate applies]
        rfl
    · intro call other member
      rcases List.mem_append.1 member with before | applies
      · exact given call other before
      · cases List.eq_of_mem_replicate applies
    · rw [together]
      exact rests.1 settles
  rw [together] at waits
  exact ⟨_, waits, screen.symm, events.symm⟩

/-- However worker and service interleave, a wait ends with the desk that the answer makes of the
one before. -/
theorem settled_of_waits (holds : worker.Holds desk [] [] []) (positive : 0 < desk.queue.capacity)
    (waits : Waits service peer session worker after rested) :
    ∃ next, (settled service peer.converse desk).run session = (next, after) ∧
      rested.Holds next [] [] [] ∧ Free next := by
  cases waits with
  | atOnce idle =>
      rw [holds.desk.waiting] at idle
      refine ⟨desk, ?_, holds, idle, positive⟩
      simp only [settled, CommandQueue.take?, idle]
      rfl
  | @forAnswer command answer _ moves queued busy answered own given rests =>
      rw [holds.desk.waiting] at queued
      rw [holds.desk.screen] at busy
      have stage := Worker.stage_run queued (.queued holds) own given
      refine ⟨desk.emptied.apply (command.completion answer), ?_,
        stage.applied_of_rests busy rests, rfl, positive⟩
      simp only [settled, CommandQueue.take?, queued]
      exact StateM.run_bind_of_run answered _

theorem foldlM_of_makes {gestures : List Gesture} {last : Worker}
    (makes : Makes service peer session worker gestures after last)
    (holds : worker.Holds desk [] [] []) (free : Free desk) :
    ∃ next, (gestures.foldlM (makeGesture service peer.converse) desk).run session =
        (next, after) ∧ last.Holds next [] [] [] := by
  induction makes generalizing desk with
  | nil => exact ⟨desk, rfl, holds⟩
  | @cons session between after worker rested last made rest waits later ih =>
      have room : desk.HasRoom := by
        rw [Desk.HasRoom, free.idle]
        exact free.positive
      have performed : (worker.move (.gesture made)).Holds (desk.perform made).1 [] [] [] :=
        { holds with desk := holds.desk.perform room made }
      have positive : 0 < (desk.perform made).1.queue.capacity := by
        rw [Desk.perform_capacity]
        exact free.positive
      obtain ⟨here, settledHere, holdsHere, freeHere⟩ :=
        settled_of_waits performed positive waits
      obtain ⟨next, ran, holdsNext⟩ := ih holdsHere freeHere
      refine ⟨next, ?_, holdsNext⟩
      rw [List.foldlM_cons]
      exact (StateM.run_bind_of_run settledHere _).trans ran

section Paths

variable (options : ViewOptions)

theorem command_capacity_pos : 0 < commandCapacity := by decide

/-- A desk that shows a page, or will show one whatever its command is answered. -/
inductive Comes : Desk → Prop
  | resting (last : RequestNumber) (page : Page) : Comes (Desk.resting options last page)
  | waiting {screen : Screen} {command : Command} (busy : screen.isBusy = true)
      (ends : ∀ answer, ∃ (last : RequestNumber) (page : Page),
        screen.apply (command.completion answer) = page.screen options last) :
      Comes (Desk.waiting screen command)

theorem comes_fetch (last : RequestNumber) (page : Page) (query : Option Query) :
    Comes options ((Desk.resting options last page).fetch query).1 := by
  rw [Desk.fetch_resting]
  exact .waiting rfl fun answer => ⟨_, _, Page.apply_listing_answer options last page query answer⟩

theorem comes_perform (last : RequestNumber) (page : Page) {action : Action} {made : Gesture}
    (member : made ∈ gestures action) :
    Comes options ((Desk.resting options last page).perform made).1 := by
  cases action with
  | list filter order limit page' =>
      have retrieves := gestures_retrieve filter order limit page' made member
      rw [Desk.perform_resting options last page retrieves]
      exact comes_fetch options last _ _
  | remove name =>
      cases List.mem_singleton.1 member
      cases present : page.cohorts.any (·.name == name) with
      | false =>
          rw [Desk.remove_resting_of_absent options last page present]
          exact .resting last page
      | true =>
          rw [Desk.remove_resting_of_present options last page present]
          refine .waiting (page.removing_busy options last name) fun answer =>
            ⟨_, _, Page.apply_removal_answer options last page name answer⟩

/-- A call can be started, answered and reported, and the report applied, whatever the capacity of
the event queue. -/
theorem exists_waits (holds : worker.Holds desk [] [] []) (comes : Comes options desk)
    (service : Service) (peer : Peer) (session : Session) :
    ∃ after rested, Waits service peer session worker after rested ∧
      ∃ (last : RequestNumber) (page : Page),
        rested.Holds (Desk.resting options last page) [] [] [] := by
  cases comes with
  | resting last page => exact ⟨_, _, .atOnce holds.desk.waiting, last, page, holds⟩
  | @waiting screen command busy ends =>
      rcases answered : (service.answer peer.converse command.call).run session with
        ⟨answer, after⟩
      obtain ⟨last, page, rests⟩ := ends answer
      obtain ⟨call, replied, -⟩ := (holds.start rfl).answer answer
      have room : (worker.start.answer call answer).listen.events.hasRoom = true := by
        simp [Worker.listen, EventQueue.await, EventQueue.hasRoom, replied.waiting]
      have applied := (replied.listen.deliver room).apply
      have shown : (Desk.waiting screen command).emptied.apply (command.completion answer) =
          Desk.resting options last page := congrArg (Desk.mk · _) rests
      rw [shown] at applied
      have waits : Waits service peer session worker after
          (worker.run [.start, .answer call answer, .listen, .deliver 0, .apply]) := by
        refine .forAnswer holds.desk.waiting ?_ answered ?_ ?_ ?_
        · rw [holds.desk.screen]
          exact busy
        · simp [Move.meanwhile]
        · simp
        · exact congrArg Screen.isBusy applied.desk.screen
      exact ⟨after, _, waits, last, page, applied⟩

theorem exists_makes {action : Action} {made : List Gesture}
    (own : ∀ next ∈ made, next ∈ gestures action) {last : RequestNumber} {page : Page}
    (holds : worker.Holds (Desk.resting options last page) [] [] [])
    (service : Service) (peer : Peer) (session : Session) :
    ∃ after last, Makes service peer session worker made after last := by
  induction made generalizing worker last page session with
  | nil => exact ⟨_, _, .nil session worker⟩
  | cons next rest ih =>
      have performed :
          (worker.move (.gesture next)).Holds
            ((Desk.resting options last page).perform next).1 [] [] [] :=
        { holds with desk := holds.desk.perform command_capacity_pos next }
      obtain ⟨between, rested, waits, number, shown, holdsRested⟩ := exists_waits options performed
        (comes_perform options last page (own next List.mem_cons_self)) service peer session
      obtain ⟨after, last, later⟩ :=
        ih (fun other member => own other (List.mem_cons_of_mem _ member)) holdsRested between
      exact ⟨after, last, .cons waits later⟩

end Paths

theorem launched_holds (eventCapacity : Nat) (ready : Bool) (options : ViewOptions) :
    (Worker.launchWith commandCapacity eventCapacity ready options).Holds
      (Desk.start (.empty commandCapacity) options) [] [] [] := by
  have blank : (Desk.mk (.blank options) (.empty commandCapacity)).Matches
      ⟨.blank options, { CommandQueue.empty commandCapacity with awaited := ready }⟩ := ⟨ready, rfl⟩
  exact
    { desk := blank.fetch command_capacity_pos none
      unanswered := rfl
      delivering := rfl
      waiting := rfl
      listening := rfl
      sending := rfl }

/-- A run of the program is a run of the whole: a worker is launched, and after the launch and after
each gesture the run waits until the screen is at rest. Such runs exist for every service, and
however worker and service interleave in them, they end with the session and the screen of the final
desk. -/
theorem final_desk_ends_every_worker_run (service : Service) (peer : Peer) (options : ViewOptions)
    (action : Action) (eventCapacity : Nat) (ready : Bool) :
    let launched := Worker.launchWith commandCapacity eventCapacity ready options
    (∃ session first after last, Waits service peer [] launched session first ∧
        Makes service peer session first (gestures action) after last) ∧
      ∀ session first after last, Waits service peer [] launched session first →
        Makes service peer session first (gestures action) after last →
          ∃ desk, (finalDesk service peer.converse options action).run [] = (desk, after) ∧
            last.desk.screen = desk.screen := by
  intro launched
  have holds := launched_holds eventCapacity ready options
  constructor
  · obtain ⟨session, first, waits, number, page, holdsFirst⟩ :=
      exists_waits options holds (comes_fetch options 0 (.initial options) none) service peer []
    obtain ⟨after, last, makes⟩ :=
      exists_makes options (fun next member => member) holdsFirst service peer session
    exact ⟨session, first, after, last, waits, makes⟩
  · intro session first after last waits makes
    obtain ⟨start, settledStart, holdsStart, free⟩ :=
      settled_of_waits holds command_capacity_pos waits
    obtain ⟨desk, ran, holdsLast⟩ := foldlM_of_makes makes holdsStart free
    refine ⟨desk, ?_, holdsLast.desk.screen⟩
    exact (StateM.run_bind_of_run settledStart _).trans ran

end Program

end CohortDesk
