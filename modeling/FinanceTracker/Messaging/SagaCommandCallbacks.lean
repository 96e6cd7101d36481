import FinanceTracker.Messaging.Callbacks

/-!
# The callbacks of the saga command consumers

`_on_message`, `_publish_reply` and `_republish` of the command consumers of
transaction-service and banking-service, for every body and header table. The two are
alike but for their commands, for how they read the retry count and for the
compensation flag of a reply. What a handler returns or raises is the environment's
choice. A failed command comes back through the topic exchange, on which no other
queue is bound to it.
-/

namespace FinanceTracker.Messaging.SagaCommandCallbacks

open Library Json Runs List
open Library.Texts (intOfBytes)
open Callbacks RetryHeader

inductive Participant where
  | transactionService
  | bankingService
  deriving DecidableEq

def Participant.queueName : Participant → String
  | .transactionService => "transaction_service.saga_commands"
  | .bankingService => "banking_service.saga_commands"

/-- The values of `ROUTING_KEYS`, which are also the known event types. -/
def Participant.commands : Participant → List String
  | .transactionService => ["saga.cmd.bulk_import_transactions", "saga.cmd.rollback_import"]
  | .bankingService => ["saga.cmd.bank_fetch_transactions", "saga.cmd.mark_sync_complete"]

def maxRetries : ℕ := 3

def Participant.readCount (participant : Participant) (headers : Option HeaderTable) :
    Except PyError RawCount :=
  match participant with
  | .transactionService => do
    let retries ← transactionRetryCount headers
    .ok (rawIntCount maxRetries retries)
  | .bankingService => bankingRetryCount maxRetries headers

/-- `is_compensation` of a reply, which banking-service never sets. -/
def Participant.isCompensation (participant : Participant) (replyData : JsonObject) : JsonValue :=
  match participant with
  | .transactionService => getD replyData "is_compensation" (.bool false)
  | .bankingService => .bool false

def publishReply (participant : Participant) (sagaId stepName : JsonValue)
    (replyData : JsonObject) : BrokerCall :=
  .reply {
    stepName := stepName
    sagaId := sagaId
    success := getD replyData "success" (.bool false)
    errorMessage := getD replyData "error_message" .null
    resultData := getD replyData "result_data" .null
    isCompensation := participant.isCompensation replyData }

def failureReply (error : String) : JsonObject :=
  [("success", .bool false), ("error_message", .str error)]

def republish (original : Delivery) (retryCount : HeaderValue) : BrokerCall :=
  .publish (.topic (original.routingKey.getD "")) (original.copy retryCount)

/-- The handler of an exception with the given text. -/
def retry (participant : Participant) (message : Delivery) (body : JsonObject) (error : String) :
    CallbackResult :=
  match participant.readCount message.headers with
  | .error raised => { calls := [], raised := some raised }
  | .ok retries =>
    if retries.exhausted then
      { calls := [publishReply participant (getD body "saga_id" (.str ""))
          (getD body "step_name" (.str "")) (failureReply error), .ack] }
    else { calls := [republish message retries.next, .ack] }

def isKnown (participant : Participant) : JsonValue → Bool
  | .str eventType => participant.commands.contains eventType
  | _ => false

def knows (participant : Participant) (body : JsonObject) : Bool :=
  isKnown participant (getD body "event_type" (.str ""))

/-- What a handler returns, or the text of what it raises. -/
abbrev Outcome := Except String JsonObject

def onMessage (participant : Participant) (message : Delivery) (outcome : Outcome) :
    CallbackResult :=
  match loads message.body with
  | none => { calls := [.nack false] }
  | some (.obj body) =>
    if knows participant body then
      match outcome with
      | .ok replyData =>
        { calls := [publishReply participant (getD body "saga_id" (.str ""))
            (getD body "step_name" (.str "")) replyData, .ack] }
      | .error error => retry participant message body error
    else { calls := [.nack false] }
  | some _ => { calls := [], raised := some .attributeError }

def Participant.leadsBack (participant : Participant) : Destination → Bool
  | .queue name => name = participant.queueName
  | .topic routingKey => participant.commands.contains routingKey

def commandLife (participant : Participant) (message : Delivery) (outcomes : List Outcome) :
    MessageState :=
  life participant.leadsBack (onMessage participant) message outcomes

def Participant.reads (participant : Participant) (value : HeaderValue) : Bool :=
  match participant, value with
  | .transactionService, .float (.infinity _) => false
  | .transactionService, .decimal (.infinity _) => false
  | .transactionService, _ => true
  | .bankingService, .bool _ => true
  | .bankingService, .int _ => true
  | .bankingService, .float _ => true
  | .bankingService, .decimal value => (rawDecimalCount maxRetries value).isOk
  | .bankingService, .bytes octets => (intOfBytes octets).isSome
  | .bankingService, _ => false

/-- A JSON body is an object, and a failing command has a count that can be read. -/
def Settleable (participant : Participant) (message : Delivery) (outcome : Outcome) : Prop :=
  ∀ value, loads message.body = some value → ∃ body, value = .obj body ∧
      (knows participant body = true → (∃ error, outcome = .error error) →
        participant.reads (rawRetryCount message.headers) = true)

theorem or_value_error_counted (read : Option ℤ) :
    ∃ count, zeroOnValueError (orValueError read) = .ok count := by
  cases read with
  | none => exact ⟨0, rfl⟩
  | some value => exact ⟨value, rfl⟩

theorem transaction_count_iff (headers : Option HeaderTable) :
    (∃ count, transactionRetryCount headers = .ok count) ↔
      Participant.transactionService.reads (rawRetryCount headers) = true := by
  unfold transactionRetryCount
  generalize rawRetryCount headers = raw
  cases raw with
  | float value =>
    cases value with
    | finite => simp [pyInt, zeroOnValueError, Participant.reads]
    | infinity => simp [pyInt, zeroOnValueError, Participant.reads]
    | nan => simp [pyInt, zeroOnValueError, Participant.reads]
  | decimal value =>
    cases value with
    | finite =>
      simp [pyInt, intOfDecimal, Library.DecimalText.Decimal.finiteValue, zeroOnValueError,
        Participant.reads]
    | infinity =>
      simp [pyInt, intOfDecimal, Library.DecimalText.Decimal.finiteValue, zeroOnValueError,
        Participant.reads]
    | nan =>
      simp [pyInt, intOfDecimal, Library.DecimalText.Decimal.finiteValue, zeroOnValueError,
        Participant.reads]
  | text | bytes | bytearray => simpa [Participant.reads, pyInt] using or_value_error_counted _
  | _ => simp [Participant.reads]

theorem banking_count_iff (headers : Option HeaderTable) :
    (∃ count, bankingRetryCount maxRetries headers = .ok count) ↔
      Participant.bankingService.reads (rawRetryCount headers) = true := by
  unfold bankingRetryCount
  generalize rawRetryCount headers = raw
  cases raw with
  | float value => cases value <;> simp [Participant.reads]
  | decimal value =>
    cases read : rawDecimalCount maxRetries value <;>
      simp [Participant.reads, read, Except.isOk, Except.toBool]
  | bytes octets =>
    cases read : intOfBytes octets with
    | none => simp [Participant.reads, orValueError, read, error_bind]
    | some => simp [Participant.reads, orValueError, read, ok_bind]
  | _ => simp [Participant.reads]

theorem reads_iff (participant : Participant) (headers : Option HeaderTable) :
    (∃ retries, participant.readCount headers = .ok retries) ↔
      participant.reads (rawRetryCount headers) = true := by
  cases participant with
  | transactionService =>
    rw [← transaction_count_iff]
    unfold Participant.readCount
    cases transactionRetryCount headers with
    | ok => simp [ok_bind]
    | error => simp [error_bind]
  | bankingService => exact banking_count_iff headers

variable {participant : Participant} {message original delivery : Delivery} {count : ℕ}

theorem retry_settled_iff {body : JsonObject} {error : String} :
    (retry participant message body error).SettledOnce ↔
      participant.reads (rawRetryCount message.headers) = true := by
  rw [← reads_iff]
  unfold retry
  cases participant.readCount message.headers with
  | error => exact ⟨fun settled => absurd settled.returns (by simp), by simp⟩
  | ok retries =>
    refine ⟨fun _ => ⟨retries, rfl⟩, fun _ => ?_⟩
    dsimp only
    split <;> exact ⟨rfl, rfl⟩

theorem settled_once_iff {outcome : Outcome} : (onMessage participant message outcome).SettledOnce ↔
      Settleable participant message outcome := by
  unfold onMessage Settleable
  cases read : loads message.body with
  | none => exact ⟨fun _ value isValue => (by cases isValue), fun _ => ⟨rfl, rfl⟩⟩
  | some value =>
    cases value with
    | obj body =>
      have unique : (∀ value, some (JsonValue.obj body) = some value → ∃ other, value = .obj other ∧
            (knows participant other = true → (∃ error, outcome = .error error) →
              participant.reads (rawRetryCount message.headers) = true)) ↔
          (knows participant body = true → (∃ error, outcome = .error error) →
            participant.reads (rawRetryCount message.headers) = true) := by
        constructor
        · intro all
          obtain ⟨_, same, reads⟩ := all _ rfl
          cases same
          exact reads
        · intro reads _ isValue
          cases isValue
          exact ⟨body, rfl, reads⟩
      rw [unique]
      dsimp only
      by_cases known : knows participant body = true
      · rw [if_pos known]
        cases outcome with
        | ok => exact ⟨fun _ _ failed => by simp at failed, fun _ => ⟨rfl, rfl⟩⟩
        | error => simp [retry_settled_iff, known]
      · rw [if_neg known]
        exact ⟨fun _ isKnown => absurd isKnown known, fun _ => ⟨rfl, rfl⟩⟩
    | _ =>
      refine ⟨fun settled => absurd settled.returns (by simp), fun all => ?_⟩
      obtain ⟨_, isObject, _⟩ := all _ rfl
      cases isObject

/-- An object under one of the bound keys whose retry count, if it has one, is read as
an integer that is not negative. -/
structure WellFormed (participant : Participant) (message : Delivery) : Prop where
  body : ∃ body, loads message.body = some (.obj body)
  routed : ∃ routingKey ∈ participant.commands, message.routingKey = some routingKey
  counted : ∃ count : ℕ, participant.readCount message.headers = .ok (rawIntCount maxRetries count)

def HasKnownType (participant : Participant) (message : Delivery) : Prop :=
  ∃ body, loads message.body = some (.obj body) ∧ knows participant body = true

def replies (attempt : Attempt) : ℕ := attempt.result.calls.countP isReply

def AnsweredLast (attempts : List Attempt) : Prop :=
  ∃ earlier last, attempts = earlier ++ [last] ∧ (∀ attempt ∈ earlier, replies attempt = 0) ∧
    replies last = 1

/-- What is promised of the life of a well-formed command. -/
structure Attempted (participant : Participant) (message : Delivery) (outcomes : List Outcome) :
    Prop where
  bounded : (commandLife participant message outcomes).attempts.length ≤ maxRetries + 1
  ends : maxRetries + 1 ≤ outcomes.length → ∀ delivery,
    (commandLife participant message outcomes).fate ≠ .queued delivery
  answered : HasKnownType participant message →
    (∀ delivery, (commandLife participant message outcomes).fate ≠ .queued delivery) →
      (commandLife participant message outcomes).fate = .acked ∧
        AnsweredLast (commandLife participant message outcomes).attempts

/-- What one callback does with a well-formed command. -/
inductive Handling (participant : Participant) (message : Delivery) (count : ℕ) :
    CallbackResult → Prop where
  | answered (reply : Reply) (known : HasKnownType participant message) :
      Handling participant message count { calls := [.reply reply, .ack] }
  | republished (below : count < maxRetries) :
      Handling participant message count
        { calls := [republish message (.int (count + 1 : ℕ)), .ack] }
  | unknown (unknown : ¬ HasKnownType participant message) :
      Handling participant message count { calls := [.nack false] }

theorem read_int_count (participant : Participant) {headers : Option HeaderTable}
    (counted : rawRetryCount headers = .int count) :
    participant.readCount headers = .ok (rawIntCount maxRetries count) := by
  cases participant with
  | transactionService =>
    unfold Participant.readCount transactionRetryCount
    rw [counted]
    rfl
  | bankingService =>
    unfold Participant.readCount bankingRetryCount
    rw [counted]

theorem on_message_handling (isObject : ∃ body, loads message.body = some (.obj body))
    (counted : participant.readCount message.headers = .ok (rawIntCount maxRetries count))
    (outcome : Outcome) :
    Handling participant message count (onMessage participant message outcome) := by
  obtain ⟨body, isBody⟩ := isObject
  unfold onMessage
  rw [isBody]
  dsimp only
  by_cases known : knows participant body = true
  · rw [if_pos known]
    cases outcome with
    | ok => exact .answered _ ⟨body, isBody, known⟩
    | error =>
      dsimp only
      unfold retry
      rw [counted]
      dsimp only [rawIntCount]
      by_cases limit : maxRetries ≤ count
      · rw [if_pos (by simpa using limit)]
        exact .answered _ ⟨body, isBody, known⟩
      · rw [if_neg (by simpa using limit)]
        exact .republished (not_le.mp limit)
  · rw [if_neg known]
    refine .unknown ?_
    rintro ⟨other, isOther, isKnown⟩
    cases isBody.symm.trans isOther
    exact known isKnown

structure Waiting (participant : Participant) (original : Delivery) (passed : ℕ)
    (attempts : List Attempt) (delivery : Delivery) : Prop where
  body : delivery.body = original.body
  wellFormed : WellFormed participant delivery
  all : attempts.length = passed
  counted : attempts = [] ∨ ∃ count : ℕ,
    participant.readCount delivery.headers = .ok (rawIntCount maxRetries count) ∧
      attempts.length ≤ count ∧ count ≤ maxRetries
  silent : ∀ attempt ∈ attempts, replies attempt = 0

structure Ladder (participant : Participant) (original : Delivery) (before : List Outcome)
    (state : MessageState) : Prop where
  bounded : state.attempts.length ≤ maxRetries + 1
  waiting : ∀ delivery, state.fate = .queued delivery →
    Waiting participant original before.length state.attempts delivery
  answered : HasKnownType participant original → (∀ delivery, state.fate ≠ .queued delivery) →
    state.fate = .acked ∧ AnsweredLast state.attempts

theorem waiting_bounded {passed : ℕ} {attempts : List Attempt}
    (waiting : Waiting participant original passed attempts delivery) :
    attempts.length ≤ maxRetries := by
  rcases waiting.counted with none | ⟨count, _, counted, limit⟩
  · rw [none]
    exact Nat.zero_le _
  · exact counted.trans limit

theorem republished_leads_back (wellFormed : WellFormed participant delivery) (count : HeaderValue) :
    fateAfter participant.leadsBack delivery { calls := [republish delivery count, .ack] } =
      .queued ((delivery.copy count).arrive (delivery.routingKey.getD "")) := by
  obtain ⟨routingKey, member, isKey⟩ := wellFormed.routed
  simp [fateAfter, republish, isSettlement, broughtBack, isKey, Participant.leadsBack, member,
    Destination.routingKey]

theorem waiting_copy {passed : ℕ} {attempts : List Attempt} {attempt : Attempt}
    (waiting : Waiting participant original passed attempts delivery)
    (counted : participant.readCount delivery.headers = .ok (rawIntCount maxRetries count))
    (below : count < maxRetries) (silent : replies attempt = 0) :
    Waiting participant original (passed + 1) (attempts ++ [attempt])
      ((delivery.copy (.int (count + 1 : ℕ))).arrive (delivery.routingKey.getD "")) := by
  have raised := read_int_count participant
    (raw_of_arrived_copy delivery (.int (count + 1 : ℕ)) (delivery.routingKey.getD ""))
  obtain ⟨isObject, ⟨routingKey, member, isKey⟩, _⟩ := waiting.wellFormed
  refine ⟨waiting.body, ⟨isObject, ⟨routingKey, member, ?_⟩, count + 1, raised⟩, ?_,
    Or.inr ⟨count + 1, raised, ?_, below⟩, ?_⟩
  · simp [OutgoingMessage.arrive, isKey]
  · rw [length_append, length_singleton, waiting.all]
  · rw [length_append, length_singleton]
    rcases waiting.counted with none | ⟨current, isCurrent, atMost, _⟩
    · simp [none]
    · have same := isCurrent.symm.trans counted
      simp only [rawIntCount, Except.ok.injEq, RawCount.mk.injEq, HeaderValue.int.injEq] at same
      omega
  · refine forall_snoc waiting.silent ?_
    exact silent

theorem redeliver_ladder {before : List Outcome} {state : MessageState} (outcome : Outcome)
    (ladder : Ladder participant original before state) :
    Ladder participant original (before ++ [outcome])
      (redeliver participant.leadsBack (onMessage participant) state outcome) := by
  obtain ⟨fate, attempts⟩ := state
  cases fate with
  | queued delivery =>
    have waiting := ladder.waiting delivery rfl
    have room : attempts.length ≤ maxRetries := waiting_bounded waiting
    have bounded (attempt : Attempt) : (attempts ++ [attempt]).length ≤ maxRetries + 1 := by
      rw [length_append, length_singleton]
      omega
    obtain ⟨isObject, _, _, counted⟩ := waiting.wellFormed
    have handling := on_message_handling isObject counted outcome
    unfold redeliver
    dsimp only
    generalize onMessage participant delivery outcome = result at handling
    cases handling with
    | answered =>
      refine ⟨bounded _, fun _ isNext => (by cases isNext), fun _ _ => ⟨rfl, ?_⟩⟩
      exact ⟨attempts, _, rfl, waiting.silent, rfl⟩
    | republished below =>
      rw [republished_leads_back waiting.wellFormed]
      refine ⟨bounded _, ?_, fun _ ended => absurd rfl (ended _)⟩
      intro _ isNext
      cases isNext
      rw [length_append, length_singleton]
      exact waiting_copy waiting counted below rfl
    | unknown unknown =>
      refine ⟨bounded _, fun _ isNext => (by cases isNext), fun known _ => absurd ?_ unknown⟩
      obtain ⟨body, isBody, knows⟩ := known
      exact ⟨body, waiting.body ▸ isBody, knows⟩
  | _ =>
    exact ⟨ladder.bounded, fun _ isQueued => (by cases isQueued), ladder.answered⟩

theorem life_attempted (wellFormed : WellFormed participant message) (outcomes : List Outcome) :
    Attempted participant message outcomes := by
  have initial : Ladder participant message [] { fate := .queued message } := by
    refine ⟨by simp, ?_, fun _ ended => absurd rfl (ended message)⟩
    intro _ isNext
    cases isNext
    exact ⟨rfl, wellFormed, rfl, Or.inl rfl, by simp⟩
  have ladder : Ladder participant message outcomes (commandLife participant message outcomes) :=
    run_history_keeps _ initial outcomes fun _ _ outcome _ ladder =>
      redeliver_ladder outcome ladder
  refine ⟨ladder.bounded, fun enough delivery isQueued => ?_, ladder.answered⟩
  have waiting := ladder.waiting delivery isQueued
  have room := waiting_bounded waiting
  have all := waiting.all
  omega

/-- A delivery is settled once and without an error exactly if its body is an object
or no JSON at all and a failing command has a count that the participant can read; and
a well-formed command is tried at most once more than the limit, with one reply for the
last attempt if it is known. -/
theorem commands_settled_iff (participant : Participant) (message : Delivery) :
    (∀ outcome, (onMessage participant message outcome).SettledOnce ↔
      Settleable participant message outcome) ∧
      (WellFormed participant message → ∀ outcomes, Attempted participant message outcomes) :=
  ⟨fun _ => settled_once_iff, life_attempted⟩

theorem loads_empty_list : loads "[]".toUTF8 = some (.arr []) := by
  rw [loads_text]
  rfl

/-- A list has no `get`. -/
theorem list_command_unsettled :
    ¬ ∀ (participant : Participant) (message : Delivery) (outcome : Outcome),
      (onMessage participant message outcome).SettledOnce := by
  intro always
  have settled := always .bankingService
    { body := "[]".toUTF8, headers := none, routingKey := none } (.ok [])
  obtain ⟨_, isObject, _⟩ := settled_once_iff.mp settled _ loads_empty_list
  cases isObject

end FinanceTracker.Messaging.SagaCommandCallbacks
