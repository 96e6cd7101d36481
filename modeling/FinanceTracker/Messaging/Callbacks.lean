import FinanceTracker.Library.Json
import FinanceTracker.Library.Runs
import FinanceTracker.Messaging.RetryHeader

/-!
# Message callbacks

What the callback of a consumer is given and what it does with it: the calls on the
broker that it makes for one delivery, and the error that it raises, if any. Every
call on the broker succeeds that is not said to fail. A delivery that was not settled
stays with the consumer; what becomes of the others is decided by the settlement and
by the copies that were published to the queue itself.
-/

namespace FinanceTracker.Messaging.Callbacks

open Library.Json (JsonValue)
open RetryHeader

structure Delivery where
  body : ByteArray
  headers : Option HeaderTable
  routingKey : Option String

structure OutgoingMessage where
  body : ByteArray
  headers : HeaderTable
  contentType : String
  persistent : Bool

/-- The queue itself through the default exchange, or the topic exchange. -/
inductive Destination where
  | queue (name : String)
  | topic (routingKey : String)
  deriving DecidableEq

def Destination.routingKey : Destination → String
  | .queue name => name
  | .topic routingKey => routingKey

/-- The payload of `_publish_reply`, which goes to `saga.reply.{step_name}`. -/
structure Reply where
  stepName : JsonValue
  sagaId : JsonValue
  success : JsonValue
  errorMessage : JsonValue
  resultData : JsonValue
  isCompensation : JsonValue

inductive BrokerCall where
  | ack
  | nack (requeue : Bool)
  | publish (destination : Destination) (message : OutgoingMessage)
  | reply (payload : Reply)

structure CallbackResult where
  calls : List BrokerCall
  raised : Option PyError := none

def isSettlement : BrokerCall → Bool
  | .ack => true
  | .nack _ => true
  | _ => false

def isReply : BrokerCall → Bool
  | .reply _ => true
  | _ => false

structure CallbackResult.SettledOnce (result : CallbackResult) : Prop where
  once : result.calls.countP isSettlement = 1
  returns : result.raised = none

/-- The message that every `_republish` builds. -/
def Delivery.copy (original : Delivery) (count : HeaderValue) : OutgoingMessage where
  body := original.body
  headers := withRetryCount original.headers count
  contentType := "application/json"
  persistent := true

def OutgoingMessage.arrive (message : OutgoingMessage) (routingKey : String) : Delivery where
  body := message.body
  headers := some message.headers
  routingKey := some routingKey

structure IsCopy (original : Delivery) (count : HeaderValue) (message : OutgoingMessage) :
    Prop where
  body : message.body = original.body
  counted : message.headers.get retryHeader = some count
  others : ∀ key, key ≠ retryHeader →
    message.headers.get key = (original.headers.getD .empty).get key

theorem copy_is_copy (original : Delivery) (count : HeaderValue) :
    IsCopy original count (original.copy count) where
  body := rfl
  counted := by
    unfold Delivery.copy withRetryCount
    rw [get_set, if_pos rfl]
  others := by
    intro _ other
    unfold Delivery.copy withRetryCount
    rw [get_set, if_neg other]

theorem raw_of_arrived_copy (original : Delivery) (count : HeaderValue) (routingKey : String) :
    rawRetryCount ((original.copy count).arrive routingKey).headers = count :=
  raw_with_retry_count original.headers count

def topicWords (topic : String) : List (List Char) :=
  if topic = "" then [] else topic.toList.splitOn '.'

def wordsMatch : List (List Char) → List (List Char) → Bool
  | [], words => words.isEmpty
  | pattern :: patterns, words =>
    if pattern = ['#'] then words.tails.any (wordsMatch patterns)
    else
      match words with
      | [] => false
      | word :: rest => (pattern = ['*'] || pattern = word) && wordsMatch patterns rest

/-- A queue bound with the pattern receives what is published under the routing key. -/
def topicMatches (pattern routingKey : String) : Bool :=
  wordsMatch (topicWords pattern) (topicWords routingKey)

inductive Fate where
  | queued (delivery : Delivery)
  | acked
  | deadLettered
  | unsettled

/-- The copy that a call brings to the queue, which some destinations lead to. -/
def broughtBack (leadsBack : Destination → Bool) : BrokerCall → Option Delivery
  | .publish destination message =>
    if leadsBack destination then some (message.arrive destination.routingKey) else none
  | _ => none

def fateAfter (leadsBack : Destination → Bool) (delivery : Delivery) (result : CallbackResult) :
    Fate :=
  match result.calls.find? isSettlement with
  | some .ack =>
    match result.calls.findSome? (broughtBack leadsBack) with
    | some copy => .queued copy
    | none => .acked
  | some (.nack requeue) => if requeue then .queued delivery else .deadLettered
  | _ => .unsettled

/-- One callback and the delivery that it was given. -/
structure Attempt where
  delivery : Delivery
  result : CallbackResult

structure MessageState where
  fate : Fate
  attempts : List Attempt := []

section Life

variable {Outcome : Type} (leadsBack : Destination → Bool)
  (callback : Delivery → Outcome → CallbackResult)

/-- The broker delivers the message as it now is, if it still waits. -/
def redeliver (state : MessageState) (outcome : Outcome) : MessageState :=
  match state.fate with
  | .queued delivery =>
    let result := callback delivery outcome
    { fate := fateAfter leadsBack delivery result
      attempts := state.attempts ++ [{ delivery := delivery, result := result }] }
  | _ => state

def life (delivery : Delivery) (outcomes : List Outcome) : MessageState :=
  Library.Runs.runFrom (redeliver leadsBack callback) { fate := .queued delivery } outcomes

end Life

def isRequeue (attempt : Attempt) : Bool :=
  attempt.result.calls.any fun call =>
    match call with
    | .nack requeue => requeue
    | _ => false

end FinanceTracker.Messaging.Callbacks
