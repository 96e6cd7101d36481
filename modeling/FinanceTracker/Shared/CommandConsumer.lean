import FinanceTracker.Shared.SagaMessages

/-!
# Consuming saga commands

What the command consumers of the participants share. One message at a time is
taken from the queue and started; a delivery that was not acknowledged goes back
to the queue, and a failed one is republished with a raised retry count. The
order of the queue carries no meaning: the broker decides which message is next.
-/

namespace FinanceTracker.Shared.CommandConsumer

open SagaMessages List

variable {Work : Type}

/-- The delivery a consumer works on and what its handler still has to do. -/
structure Running (Work : Type) where
  message : CommandMessage
  work : Work
  deriving DecidableEq

structure CommandQueue (Work : Type) where
  queue : List CommandMessage := []
  running : Option (Running Work) := none
  deriving DecidableEq

def CommandQueue.deliver (messages : CommandQueue Work) (body : SagaCommand) :
    CommandQueue Work :=
  { messages with queue := messages.queue ++ [{ body := body }] }

/-- A message that starts no handler is dead-lettered. -/
def CommandQueue.take (messages : CommandQueue Work) (beginWork : SagaCommand → Option Work)
    (index : Nat) : CommandQueue Work :=
  match messages.running, messages.queue[index]? with
  | none, some message =>
    { queue := messages.queue.eraseIdx index
      running := (beginWork message.body).map fun work => { message := message, work := work } }
  | _, _ => messages

def CommandQueue.setWork (messages : CommandQueue Work) (running : Running Work) (work : Work) :
    CommandQueue Work :=
  { messages with running := some { running with work := work } }

/-- Ends the delivery; without the acknowledgement the message returns. -/
def CommandQueue.settle (messages : CommandQueue Work) (message : CommandMessage)
    (acked : Bool) : CommandQueue Work where
  queue := if acked then messages.queue else messages.queue ++ [message]
  running := none

/-- `_republish`, after which the delivery ends. -/
def CommandQueue.republish (messages : CommandQueue Work) (message : CommandMessage)
    (acked : Bool) : CommandQueue Work where
  queue := (messages.settle message acked).queue ++
    [{ message with retryCount := message.retryCount + 1 }]
  running := none

def CommandQueue.Holds (messages : CommandQueue Work) (body : SagaCommand) : Prop :=
  (∃ message ∈ messages.queue, message.body = body) ∨
    ∃ running, messages.running = some running ∧ running.message.body = body

variable {messages : CommandQueue Work} {running : Running Work} {body : SagaCommand}

theorem running_holds (isRunning : messages.running = some running) :
    messages.Holds running.message.body :=
  Or.inr ⟨running, isRunning, rfl⟩

theorem deliver_holds {delivered : SagaCommand} (holds : (messages.deliver delivered).Holds body) :
    messages.Holds body ∨ body = delivered := by
  rcases holds with ⟨message, member, isBody⟩ | isRunning
  · rcases mem_append.mp member with queued | new
    · exact Or.inl (Or.inl ⟨message, queued, isBody⟩)
    · rw [mem_singleton.mp new] at isBody
      exact Or.inr isBody.symm
  · exact Or.inl (Or.inr isRunning)

variable {beginWork : SagaCommand → Option Work} {index : Nat} {acked : Bool}

theorem take_holds (holds : (messages.take beginWork index).Holds body) :
    messages.Holds body := by
  unfold CommandQueue.take at holds
  split at holds
  · next message _ queued =>
    rcases holds with ⟨other, member, isBody⟩ | ⟨running, isRunning, isBody⟩
    · exact Or.inl ⟨other, mem_of_mem_eraseIdx member, isBody⟩
    · obtain ⟨_, _, rfl⟩ := Option.map_eq_some_iff.mp isRunning
      exact Or.inl ⟨message, mem_of_getElem? queued, isBody⟩
  · exact holds

/-- The handler that runs after a take ran before or was started by it. -/
theorem take_running (isRunning : (messages.take beginWork index).running = some running) :
    messages.running = some running ∨ beginWork running.message.body = some running.work := by
  unfold CommandQueue.take at isRunning
  split at isRunning
  · obtain ⟨_, begun, rfl⟩ := Option.map_eq_some_iff.mp isRunning
    exact Or.inr begun
  · exact Or.inl isRunning

theorem set_work_holds {work : Work} (isRunning : messages.running = some running)
    (holds : (messages.setWork running work).Holds body) : messages.Holds body := by
  rcases holds with queued | ⟨next, isNext, isBody⟩
  · exact Or.inl queued
  · cases isNext
    exact Or.inr ⟨running, isRunning, isBody⟩

theorem settle_holds (isRunning : messages.running = some running)
    (holds : (messages.settle running.message acked).Holds body) : messages.Holds body := by
  rcases holds with ⟨message, member, isBody⟩ | ⟨next, isNext, _⟩
  · unfold CommandQueue.settle at member
    dsimp only at member
    split at member
    · exact Or.inl ⟨message, member, isBody⟩
    · rcases mem_append.mp member with queued | returned
      · exact Or.inl ⟨message, queued, isBody⟩
      · rw [mem_singleton.mp returned] at isBody
        exact Or.inr ⟨running, isRunning, isBody⟩
  · contradiction

theorem republish_holds (isRunning : messages.running = some running)
    (holds : (messages.republish running.message acked).Holds body) : messages.Holds body := by
  rcases holds with ⟨message, member, isBody⟩ | ⟨next, isNext, _⟩
  · rcases mem_append.mp member with queued | again
    · exact settle_holds isRunning (Or.inl ⟨message, queued, isBody⟩)
    · rw [mem_singleton.mp again] at isBody
      exact Or.inr ⟨running, isRunning, isBody⟩
  · contradiction

end FinanceTracker.Shared.CommandConsumer
