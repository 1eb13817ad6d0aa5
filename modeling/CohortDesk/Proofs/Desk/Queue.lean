import CohortDesk.Proofs.Desk.Run

/-!
# What goes through a desk's queue

Commands leave the queue in the order in which they entered it. Nothing gets lost while the reader
stays; a reader that leaves loses what was waiting, and nothing enters after it.
-/

namespace CohortDesk

set_option autoImplicit false

namespace CommandQueue

theorem offer_connected {queue after : CommandQueue} {command : Command}
    (accepted : queue.offer command = .ok after) : queue.connected = true := by
  unfold offer at accepted
  cases connected : queue.connected with
  | true => rfl
  | false => simp [connected] at accepted

/-- Why a queue takes no command: its reader is gone, or has fallen behind by the whole capacity and
does not wait for the next one. A queue without capacity is always full. -/
inductive Declines (queue : CommandQueue) : QueueFault → Prop
  | disconnected (gone : queue.connected = false) : Declines queue .disconnected
  | full (connected : queue.connected = true) (busy : queue.awaited = false)
      (full : queue.capacity ≤ queue.waiting.length) : Declines queue .full

variable {queue : CommandQueue} {fault : QueueFault}

theorem Declines.offer (declines : queue.Declines fault) (command : Command) :
    queue.offer command = .error fault := by
  cases declines with
  | disconnected gone => simp [CommandQueue.offer, gone]
  | full connected busy full => simp [CommandQueue.offer, hasRoom, connected, busy, full]

theorem not_declines_of_room (connected : queue.connected = true)
    (room : queue.waiting.length < queue.capacity) : ¬queue.Declines fault := by
  intro declines
  cases declines with
  | disconnected gone => exact Bool.false_ne_true (gone.symm.trans connected)
  | full _ _ full => exact Nat.not_lt.2 full room

theorem not_declines_of_offer {command : Command} {after : CommandQueue}
    (accepted : queue.offer command = .ok after) : ¬queue.Declines fault := by
  intro declines
  rw [declines.offer] at accepted
  cases accepted

/-- A queue declines every command or takes any. -/
theorem offer_cases (queue : CommandQueue) (command : Command) :
    (∃ fault, queue.Declines fault ∧ queue.offer command = .error fault) ∨
      ∃ after, queue.offer command = .ok after ∧ after.waiting = queue.waiting ++ [command] := by
  cases answer : queue.offer command with
  | ok after => exact .inr ⟨after, rfl, offer_waiting answer⟩
  | error fault =>
      refine .inl ⟨fault, ?_, rfl⟩
      unfold CommandQueue.offer at answer
      split at answer
      · rename_i gone
        cases answer
        exact .disconnected (by simpa using gone)
      · rename_i connected
        split at answer
        · cases answer
        · rename_i full
          cases answer
          simp only [hasRoom, Bool.or_eq_true, decide_eq_true_eq, not_or] at full
          exact .full (by simpa using connected) (by simpa using full.1) (Nat.not_lt.1 full.2)

end CommandQueue

namespace Desk

/-- The commands that a move puts behind those that wait already. -/
def entering (desk : Desk) (next : DeskMove) : List Command :=
  (desk.move next).queue.waiting.drop desk.queue.waiting.length

/-- The command that a move hands to the reader. -/
def taking (desk : Desk) : DeskMove → List Command
  | .take => desk.queue.waiting.head?.toList
  | _ => []

def entered (desk : Desk) : List DeskMove → List Command
  | [] => []
  | next :: rest => desk.entering next ++ (desk.move next).entered rest

def taken (desk : Desk) : List DeskMove → List Command
  | [] => []
  | next :: rest => desk.taking next ++ (desk.move next).taken rest

theorem taken_append (desk : Desk) (first second : List DeskMove) :
    desk.taken (first ++ second) = desk.taken first ++ (desk.run first).taken second := by
  induction first generalizing desk with
  | nil => rfl
  | cons next rest ih =>
      rw [List.cons_append, taken, taken, ih, List.append_assoc]
      rfl

theorem Effect.waiting {desk after : Desk} {retrieves : Bool}
    (effect : Effect desk retrieves after) :
    ∃ added, after.queue.waiting = desk.queue.waiting ++ added := by
  cases effect with
  | edited => exact ⟨[], (List.append_nil _).symm⟩
  | requested query queue accepted => exact ⟨_, CommandQueue.offer_waiting accepted⟩
  | declined => exact ⟨[], (List.append_nil _).symm⟩
  | marked name queue idle shown accepted => exact ⟨_, CommandQueue.offer_waiting accepted⟩
  | unmarked => exact ⟨[], (List.append_nil _).symm⟩

theorem entering_gesture {desk : Desk} {made : Gesture} {added : List Command}
    (grown : (desk.perform made).1.queue.waiting = desk.queue.waiting ++ added) :
    desk.entering (.gesture made) = added := by
  simp only [entering, move, grown, List.drop_left]

@[simp] theorem entering_apply (desk : Desk) (event : Event) :
    desk.entering (.apply event) = [] := by
  simp [entering, move, apply]

@[simp] theorem entering_await (desk : Desk) : desk.entering .await = [] := by
  simp [entering, move, CommandQueue.await]

@[simp] theorem entering_take (desk : Desk) : desk.entering .take = [] := by
  unfold entering move CommandQueue.take?
  cases waiting : desk.queue.waiting <;> simp [waiting]

@[simp] theorem entering_disconnect (desk : Desk) : desk.entering .disconnect = [] := by
  simp [entering, move, CommandQueue.disconnect]

/-- A move takes from the front and adds at the end. -/
theorem taking_append_waiting (desk : Desk) {next : DeskMove} (stays : next ≠ .disconnect) :
    desk.taking next ++ (desk.move next).queue.waiting =
      desk.queue.waiting ++ desk.entering next := by
  cases next with
  | gesture made =>
      obtain ⟨added, grown⟩ := (perform_effect desk made).waiting
      rw [entering_gesture grown]
      exact grown
  | apply event =>
      rw [entering_apply, List.append_nil]
      rfl
  | await =>
      rw [entering_await, List.append_nil]
      rfl
  | take =>
      rw [entering_take, List.append_nil]
      unfold taking move CommandQueue.take?
      cases waiting : desk.queue.waiting with
      | nil => exact waiting
      | cons command rest => rfl
  | disconnect => exact absurd rfl stays

theorem taken_append_waiting (desk : Desk) {moves : List DeskMove} (stays : .disconnect ∉ moves) :
    desk.taken moves ++ (desk.run moves).queue.waiting =
      desk.queue.waiting ++ desk.entered moves := by
  induction moves generalizing desk with
  | nil => simp [taken, entered, run]
  | cons next rest ih =>
      have here : next ≠ .disconnect := fun same => stays (same ▸ List.mem_cons_self)
      have later := ih (desk.move next) fun member => stays (List.mem_cons_of_mem _ member)
      calc desk.taken (next :: rest) ++ (desk.run (next :: rest)).queue.waiting
          = desk.taking next ++
              ((desk.move next).taken rest ++ ((desk.move next).run rest).queue.waiting) :=
            List.append_assoc _ _ _
        _ = (desk.taking next ++ (desk.move next).queue.waiting) ++
              (desk.move next).entered rest := by
            rw [later, List.append_assoc]
        _ = desk.queue.waiting ++ desk.entered (next :: rest) := by
            rw [taking_append_waiting desk here, List.append_assoc, entered]

/-- The reader has left, and nothing waits for it. -/
structure Abandoned (queue : CommandQueue) : Prop where
  connected : queue.connected = false
  waiting : queue.waiting = []

theorem Effect.abandoned {desk after : Desk} {retrieves : Bool}
    (effect : Effect desk retrieves after) (abandoned : Abandoned desk.queue) :
    after.queue = desk.queue := by
  have refused {command : Command} {queue : CommandQueue}
      (accepted : desk.queue.offer command = .ok queue) : False := by
    have connected := CommandQueue.offer_connected accepted
    rw [abandoned.connected] at connected
    cases connected
  cases effect with
  | edited => rfl
  | requested query queue accepted => exact (refused accepted).elim
  | declined => rfl
  | marked name queue idle shown accepted => exact (refused accepted).elim
  | unmarked => rfl

theorem abandoned_move {desk : Desk} (abandoned : Abandoned desk.queue) (next : DeskMove) :
    Abandoned (desk.move next).queue := by
  cases next with
  | gesture made =>
      rw [move, (perform_effect desk made).abandoned abandoned]
      exact abandoned
  | apply event => exact abandoned
  | await => exact ⟨abandoned.connected, abandoned.waiting⟩
  | take =>
      simp only [move, CommandQueue.take?, abandoned.waiting]
      exact abandoned
  | disconnect => exact ⟨rfl, rfl⟩

theorem entering_abandoned {desk : Desk} (abandoned : Abandoned desk.queue) (next : DeskMove) :
    desk.entering next = [] := by
  rw [entering, (abandoned_move abandoned next).waiting, List.drop_nil]

theorem entered_abandoned {desk : Desk} (abandoned : Abandoned desk.queue)
    (moves : List DeskMove) : desk.entered moves = [] := by
  induction moves generalizing desk with
  | nil => rfl
  | cons next rest ih =>
      rw [entered, entering_abandoned abandoned, ih (abandoned_move abandoned next)]
      rfl

/-- Whatever the reader does: what it took, followed by what still waits, is how the sequence of
entered commands begins. -/
theorem taken_prefix_entered (desk : Desk) (moves : List DeskMove) :
    desk.taken moves ++ (desk.run moves).queue.waiting <+:
      desk.queue.waiting ++ desk.entered moves := by
  induction moves generalizing desk with
  | nil => simp [taken, entered, run]
  | cons next rest ih =>
      have later := ih (desk.move next)
      by_cases leaves : next = .disconnect
      · subst leaves
        have abandoned : Abandoned (desk.move .disconnect).queue := ⟨rfl, rfl⟩
        rw [entered_abandoned abandoned, abandoned.waiting] at later
        have nothing := List.prefix_nil.1 later
        change (desk.move .disconnect).taken rest ++
          ((desk.move .disconnect).run rest).queue.waiting <+: _
        rw [nothing]
        exact List.nil_prefix
      · have here := taking_append_waiting desk leaves
        rw [taken, entered, List.append_assoc, ← List.append_assoc desk.queue.waiting, ← here,
          List.append_assoc]
        exact (List.prefix_append_right_inj _).2 later

end Desk

end CohortDesk
