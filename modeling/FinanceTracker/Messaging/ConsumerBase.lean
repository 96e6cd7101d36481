import FinanceTracker.Messaging.Callbacks

/-!
# The shared consumer

`ConsumerBase._on_message` and `_republish`. A failed message is published again to
the consumer's own queue with a raised count until the limit is reached and is then
dead-lettered. The count is read inside the handler of the failure: where `int`
refuses the header, the callback raises there and the delivery is never settled.
-/

namespace FinanceTracker.Messaging.ConsumerBase

open Library Json Runs Callbacks RetryHeader List

structure Consumer where
  queueName : String
  maxRetries : ℕ := 3
  deduplicates : Bool := false

/-- What is raised in the guarded part: a `PoisonMessageError` or something else. -/
inductive Failure where
  | poison
  | other
  deriving DecidableEq

/-- How the calls of one callback end that are not the broker's, and whether a
republished message is accepted. -/
structure Outcome where
  alreadyProcessed : Except Failure Bool := .ok false
  handled : Except Failure Unit
  markProcessed : Except Failure Unit := .ok ()
  published : Bool := true

def looksUp (consumer : Consumer) (payload : JsonObject) : Bool :=
  consumer.deduplicates && truthy (getD payload "correlation_id" .null)

/-- The guarded part of the callback; each way through it that returns is acked. -/
def work (consumer : Consumer) (payload : JsonObject) (outcome : Outcome) :
    Except Failure Unit := do
  if looksUp consumer payload then
    if ← outcome.alreadyProcessed then return ()
  outcome.handled
  if looksUp consumer payload then outcome.markProcessed

def republish (consumer : Consumer) (original : Delivery) (retryCount : ℤ) : BrokerCall :=
  .publish (.queue consumer.queueName) (original.copy (.int retryCount))

/-- The handler of a failure that is no `PoisonMessageError`. -/
def retry (consumer : Consumer) (message : Delivery) (published : Bool) : CallbackResult :=
  match baseRetryCount message.headers with
  | .error error => { calls := [], raised := some error }
  | .ok retryCount =>
    if retryCount < consumer.maxRetries then
      if published then { calls := [republish consumer message (retryCount + 1), .ack] }
      else { calls := [.nack true] }
    else { calls := [.nack false] }

def onMessage (consumer : Consumer) (message : Delivery) (outcome : Outcome) : CallbackResult :=
  match loads message.body with
  | some (.obj payload) =>
    match work consumer payload outcome with
    | .ok () => { calls := [.ack] }
    | .error .poison => { calls := [.nack false] }
    | .error .other => retry consumer message outcome.published
  | _ => { calls := [.nack false] }

/-- The own queue is reached through the default exchange alone. -/
def Consumer.leadsBack (consumer : Consumer) (destination : Destination) : Bool :=
  destination = .queue consumer.queueName

def messageLife (consumer : Consumer) (delivery : Delivery) (outcomes : List Outcome) :
    MessageState :=
  life consumer.leadsBack (onMessage consumer) delivery outcomes

/-- The guarded part fails with an error that is no `PoisonMessageError`. -/
def FailsTransiently (consumer : Consumer) (message : Delivery) (outcome : Outcome) : Prop :=
  ∃ payload, loads message.body = some (.obj payload) ∧
    work consumer payload outcome = .error .other

instance (consumer : Consumer) (message : Delivery) (outcome : Outcome) :
    Decidable (FailsTransiently consumer message outcome) := decidableObject

def Fails (consumer : Consumer) (message : Delivery) (outcome : Outcome) : Prop :=
  ∀ payload, loads message.body = some (.obj payload) →
    ∃ failure, work consumer payload outcome = .error failure

/-- What a callback does, with the reason for it. -/
inductive Handling (consumer : Consumer) (message : Delivery) (outcome : Outcome) :
    CallbackResult → Prop where
  | acked (done : ¬ Fails consumer message outcome) :
      Handling consumer message outcome { calls := [.ack] }
  | refused (final : ¬ FailsTransiently consumer message outcome) :
      Handling consumer message outcome { calls := [.nack false] }
  | exhausted (count : ℤ) (failed : FailsTransiently consumer message outcome)
      (read : baseRetryCount message.headers = .ok count) (limit : consumer.maxRetries ≤ count) :
      Handling consumer message outcome { calls := [.nack false] }
  | republished (count : ℤ) (failed : FailsTransiently consumer message outcome)
      (read : baseRetryCount message.headers = .ok count) (below : count < consumer.maxRetries)
      (accepted : outcome.published = true) :
      Handling consumer message outcome
        { calls := [republish consumer message (count + 1), .ack] }
  | requeued (count : ℤ) (failed : FailsTransiently consumer message outcome)
      (read : baseRetryCount message.headers = .ok count) (below : count < consumer.maxRetries)
      (refusal : outcome.published = false) :
      Handling consumer message outcome { calls := [.nack true] }
  | raised (error : PyError) (failed : FailsTransiently consumer message outcome)
      (read : baseRetryCount message.headers = .error error) :
      Handling consumer message outcome { calls := [], raised := some error }

variable {consumer : Consumer} {original delivery : Delivery} {count : ℤ} {payload : JsonObject}
  {message : Delivery} {outcome : Outcome} {passed : ℕ} {attempts : List Attempt}

theorem retry_handling (failed : FailsTransiently consumer message outcome) :
    Handling consumer message outcome (retry consumer message outcome.published) := by
  unfold retry
  cases read : baseRetryCount message.headers with
  | error error => exact .raised error failed read
  | ok count =>
    dsimp only
    by_cases below : count < consumer.maxRetries
    · rw [if_pos below]
      cases published : outcome.published with
      | true => exact .republished count failed read below published
      | false => exact .requeued count failed read below published
    · rw [if_neg below]
      exact .exhausted count failed read (not_lt.mp below)

theorem on_message_handling (consumer : Consumer) (message : Delivery) (outcome : Outcome) :
    Handling consumer message outcome (onMessage consumer message outcome) := by
  unfold onMessage
  split
  · next payload isObject =>
    split
    · next worked =>
      refine .acked fun fails => ?_
      obtain ⟨_, failed⟩ := fails payload isObject
      exact absurd (worked.symm.trans failed) (by simp)
    · next poisoned =>
      refine .refused ?_
      rintro ⟨other, isOther, failed⟩
      cases isObject.symm.trans isOther
      exact absurd (poisoned.symm.trans failed) (by simp)
    · next failed => exact retry_handling ⟨payload, isObject, failed⟩
  · next noObject =>
    refine .refused ?_
    rintro ⟨payload, isObject, _⟩
    exact noObject payload isObject

/-- One callback settles its delivery exactly when a failure finds a count to read. -/
theorem settled_once_iff :
    (onMessage consumer message outcome).SettledOnce ↔ (FailsTransiently consumer message outcome →
        ∃ count, baseRetryCount message.headers = .ok count) := by
  have handling := on_message_handling consumer message outcome
  generalize onMessage consumer message outcome = result at handling
  cases handling with
  | acked done =>
    refine ⟨fun _ failed => ?_, fun _ => ⟨rfl, rfl⟩⟩
    obtain ⟨_, isObject, failed⟩ := failed
    refine absurd (fun other isOther => ?_) done
    cases isObject.symm.trans isOther
    exact ⟨.other, failed⟩
  | refused final => exact ⟨fun _ failed => absurd failed final, fun _ => ⟨rfl, rfl⟩⟩
  | exhausted count failed read => exact ⟨fun _ _ => ⟨count, read⟩, fun _ => ⟨rfl, rfl⟩⟩
  | republished count failed read | requeued count failed read =>
    exact ⟨fun _ _ => ⟨count, read⟩, fun _ => ⟨rfl, rfl⟩⟩
  | raised error failed read =>
    refine ⟨fun settled => absurd settled.returns (by simp), fun readable => ?_⟩
    obtain ⟨_, isCount⟩ := readable failed
    exact absurd (read.symm.trans isCount) (by simp)

/-- A copy goes to the own queue and differs from its original by one in the count. -/
def PublishesCopies (consumer : Consumer) (attempt : Attempt) : Prop :=
  ∀ destination message, .publish destination message ∈ attempt.result.calls →
    destination = .queue consumer.queueName ∧
      ∃ count, baseRetryCount attempt.delivery.headers = .ok count ∧
        IsCopy attempt.delivery (.int (count + 1)) message

theorem publishes_copies (consumer : Consumer) (message : Delivery) (outcome : Outcome) :
    PublishesCopies consumer
      { delivery := message, result := onMessage consumer message outcome } := by
  intro _ _ published
  have handling := on_message_handling consumer message outcome
  dsimp only at published
  generalize onMessage consumer message outcome = result at handling published
  cases handling with
  | republished count failed read =>
    rcases mem_cons.mp published with isCopy | isAck
    · cases isCopy
      exact ⟨rfl, count, read, copy_is_copy message _⟩
    · simp at isAck
  | _ => simp at published

def refusals (attempts : List Attempt) : ℕ := attempts.countP isRequeue

/-- What is promised of the life of one message. Attempts that end with a requeue,
because the broker refused the copy, do not count towards the limit. -/
structure Kept (consumer : Consumer) (delivery : Delivery) (outcomes : List Outcome) : Prop where
  settled : ∀ attempt ∈ (messageLife consumer delivery outcomes).attempts,
    attempt.result.SettledOnce
  copies : ∀ attempt ∈ (messageLife consumer delivery outcomes).attempts,
    PublishesCopies consumer attempt
  bounded : (messageLife consumer delivery outcomes).attempts.length ≤
    consumer.maxRetries + 1 + refusals (messageLife consumer delivery outcomes).attempts
  deadLettered : (∀ outcome ∈ outcomes, Fails consumer delivery outcome) →
    consumer.maxRetries + 1 + refusals (messageLife consumer delivery outcomes).attempts ≤
      outcomes.length →
    (messageLife consumer delivery outcomes).fate = .deadLettered

/-- The body is an object, so that its handling may fail, only with a count that `int`
reads as no less than zero. -/
def CountUsable (delivery : Delivery) : Prop :=
  ∀ payload, loads delivery.body = some (.obj payload) →
    ∃ count, baseRetryCount delivery.headers = .ok count ∧ 0 ≤ count

structure Waiting (consumer : Consumer) (original : Delivery) (passed : ℕ)
    (attempts : List Attempt) (delivery : Delivery) : Prop where
  body : delivery.body = original.body
  usable : CountUsable delivery
  all : attempts.length = passed
  counted : attempts = [] ∨ ∃ count, baseRetryCount delivery.headers = .ok count ∧
    (attempts.length : ℤ) ≤ refusals attempts + count ∧ count ≤ consumer.maxRetries

structure Ladder (consumer : Consumer) (original : Delivery) (before : List Outcome)
    (state : MessageState) : Prop where
  settled : ∀ attempt ∈ state.attempts, attempt.result.SettledOnce
  copies : ∀ attempt ∈ state.attempts, PublishesCopies consumer attempt
  bounded : state.attempts.length ≤ consumer.maxRetries + 1 + refusals state.attempts
  waiting : ∀ delivery, state.fate = .queued delivery →
    Waiting consumer original before.length state.attempts delivery
  failing : (∀ outcome ∈ before, Fails consumer original outcome) →
    (∃ delivery, state.fate = .queued delivery) ∨ state.fate = .deadLettered

theorem refusals_append (attempts : List Attempt) (attempt : Attempt) :
    refusals (attempts ++ [attempt]) = refusals attempts + if isRequeue attempt then 1 else 0 := by
  unfold refusals
  rw [countP_append, countP_singleton]

/-- An attempt leaves room below the limit for the ones already made. -/
theorem waiting_bounded (waiting : Waiting consumer original passed attempts delivery) :
    attempts.length ≤ consumer.maxRetries + refusals attempts := by
  rcases waiting.counted with none | ⟨count, _, counted, limit⟩
  · rw [none]
    exact Nat.zero_le _
  · omega

theorem usable_of_count (read : baseRetryCount delivery.headers = .ok count) (nonneg : 0 ≤ count) :
    CountUsable delivery := fun _ _ => ⟨count, read, nonneg⟩

theorem base_count_of_copy (original : Delivery) (count : ℤ) (routingKey : String) :
    baseRetryCount ((original.copy (.int count)).arrive routingKey).headers = .ok count := by
  unfold baseRetryCount
  rw [raw_of_arrived_copy]
  rfl

theorem waiting_next {next : Delivery} {attempt : Attempt} {raised : ℤ}
    (waiting : Waiting consumer original passed attempts delivery)
    (sameBody : next.body = delivery.body) (read : baseRetryCount delivery.headers = .ok count)
    (readNext : baseRetryCount next.headers = .ok raised) (nonneg : 0 ≤ count)
    (limit : raised ≤ consumer.maxRetries) (kept : count ≤ raised)
    (advance : count + 1 ≤ raised + if isRequeue attempt then 1 else 0) :
    Waiting consumer original (passed + 1) (attempts ++ [attempt]) next where
  body := sameBody.trans waiting.body
  usable := usable_of_count readNext (nonneg.trans kept)
  all := by
    rw [length_append, length_singleton, waiting.all]
  counted := by
    refine Or.inr ⟨raised, readNext, ?_, limit⟩
    rw [length_append, length_singleton, refusals_append]
    rcases waiting.counted with none | ⟨current, isCurrent, counted, _⟩
    · rw [none]
      push_cast [refusals, length_nil, countP_nil]
      omega
    · cases read.symm.trans isCurrent
      push_cast
      omega

/-- What one callback leaves of the ladder, whatever it does. -/
theorem ladder_attempt {consumer : Consumer} {original delivery : Delivery}
    {before : List Outcome} {attempts : List Attempt} {outcome : Outcome} {fate : Fate}
    (ladder : Ladder consumer original before { fate := .queued delivery, attempts := attempts })
    (settled : (onMessage consumer delivery outcome).SettledOnce)
    (waiting : ∀ next, fate = .queued next → Waiting consumer original (before.length + 1)
        (attempts ++ [{ delivery := delivery, result := onMessage consumer delivery outcome }]) next)
    (failing : Fails consumer original outcome → (∃ next, fate = .queued next) ∨
      fate = .deadLettered) :
    Ladder consumer original (before ++ [outcome])
      { fate := fate
        attempts := attempts ++
          [{ delivery := delivery, result := onMessage consumer delivery outcome }] } where
  settled := by
    refine forall_snoc ladder.settled ?_
    exact settled
  copies := by
    refine forall_snoc ladder.copies ?_
    exact publishes_copies consumer delivery outcome
  bounded := by
    have room : attempts.length ≤ consumer.maxRetries + refusals attempts :=
      waiting_bounded (ladder.waiting delivery rfl)
    dsimp only
    rw [length_append, length_singleton, refusals_append]
    omega
  waiting := by
    intro next isNext
    rw [length_append, length_singleton]
    exact waiting next isNext
  failing := fun allFail =>
    failing (allFail outcome (mem_append_right _ (mem_singleton_self outcome)))

theorem redeliver_ladder {before : List Outcome} {state : MessageState} (outcome : Outcome)
    (ladder : Ladder consumer original before state) :
    Ladder consumer original (before ++ [outcome])
      (redeliver consumer.leadsBack (onMessage consumer) state outcome) := by
  obtain ⟨fate, attempts⟩ := state
  cases fate with
  | queued delivery =>
    have waiting := ladder.waiting delivery rfl
    have handling := on_message_handling consumer delivery outcome
    have attempted {fate : Fate} := @ladder_attempt consumer original delivery before attempts
      outcome fate ladder
    unfold redeliver
    dsimp only
    generalize onMessage consumer delivery outcome = result at handling attempted ⊢
    cases handling with
    | acked done =>
      refine attempted ⟨rfl, rfl⟩ (fun _ isNext => by cases isNext) fun fails => ?_
      refine absurd (fun payload isObject => ?_) done
      rw [waiting.body] at isObject
      exact fails payload isObject
    | refused =>
      exact attempted ⟨rfl, rfl⟩ (fun _ isNext => by cases isNext) fun _ => Or.inr rfl
    | exhausted =>
      exact attempted ⟨rfl, rfl⟩ (fun _ isNext => by cases isNext) fun _ => Or.inr rfl
    | republished count failed read =>
      obtain ⟨payload, isObject, _⟩ := failed
      obtain ⟨_, isCurrent, nonneg⟩ := waiting.usable payload isObject
      cases read.symm.trans isCurrent
      have arrives : fateAfter consumer.leadsBack delivery
          { calls := [republish consumer delivery (count + 1), .ack] } =
          .queued ((delivery.copy (.int (count + 1))).arrive consumer.queueName) := by
        simp [fateAfter, republish, broughtBack, isSettlement, Consumer.leadsBack,
          Destination.routingKey]
      rw [arrives]
      refine attempted ⟨rfl, rfl⟩ ?_ fun _ => Or.inl ⟨_, rfl⟩
      intro _ isNext
      cases isNext
      exact waiting_next waiting rfl read (base_count_of_copy delivery _ _) nonneg
        (by omega) (by omega) (by omega)
    | requeued count failed read =>
      obtain ⟨payload, isObject, _⟩ := failed
      obtain ⟨_, isCurrent, nonneg⟩ := waiting.usable payload isObject
      cases read.symm.trans isCurrent
      refine attempted ⟨rfl, rfl⟩ ?_ fun _ => Or.inl ⟨delivery, rfl⟩
      intro _ isNext
      cases isNext
      exact waiting_next waiting rfl read read nonneg (by omega) le_rfl (by simp [isRequeue])
    | raised error failed read =>
      obtain ⟨payload, isObject, _⟩ := failed
      obtain ⟨_, isCurrent, _⟩ := waiting.usable payload isObject
      cases read.symm.trans isCurrent
  | _ =>
    refine ⟨ladder.settled, ladder.copies, ladder.bounded, ?_, ?_⟩
    · intro _ isQueued
      cases isQueued
    · intro allFail
      exact ladder.failing fun earlier member => allFail earlier (mem_append_left _ member)

theorem life_ladder (usable : CountUsable delivery) (outcomes : List Outcome) :
    Ladder consumer delivery outcomes (messageLife consumer delivery outcomes) := by
  have initial : Ladder consumer delivery [] { fate := .queued delivery } := by
    refine ⟨by simp, by simp, by simp, ?_, fun _ => Or.inl ⟨delivery, rfl⟩⟩
    intro _ isNext
    cases isNext
    exact ⟨rfl, usable, rfl, Or.inl rfl⟩
  exact run_history_keeps _ initial outcomes
    fun _ _ outcome _ ladder => redeliver_ladder outcome ladder

theorem usable_kept (usable : CountUsable delivery) (outcomes : List Outcome) :
    Kept consumer delivery outcomes := by
  have ladder : Ladder consumer delivery outcomes _ := life_ladder usable outcomes
  refine ⟨ladder.settled, ladder.copies, ladder.bounded, fun allFail enough => ?_⟩
  rcases ladder.failing allFail with ⟨next, isQueued⟩ | dead
  · have waiting := ladder.waiting next isQueued
    have room := waiting_bounded waiting
    have all := waiting.all
    omega
  · exact dead

def failing : Outcome where
  handled := .error .other

theorem work_failing (consumer : Consumer) (payload : JsonObject) :
    work consumer payload failing = .error .other := by
  unfold work
  cases looksUp consumer payload <;> rfl

theorem fails_transiently (consumer : Consumer)
    (isObject : loads delivery.body = some (.obj payload)) :
    FailsTransiently consumer delivery failing :=
  ⟨payload, isObject, work_failing consumer payload⟩

theorem on_message_failing (isObject : loads delivery.body = some (.obj payload)) :
    onMessage consumer delivery failing = retry consumer delivery true := by
  unfold onMessage
  rw [isObject]
  dsimp only
  rw [work_failing]
  rfl

theorem retry_below (read : baseRetryCount delivery.headers = .ok count)
    (below : count < consumer.maxRetries) :
    retry consumer delivery true =
      { calls := [republish consumer delivery (count + 1), .ack] } := by
  unfold retry
  rw [read]
  dsimp only
  rw [if_pos below, if_pos rfl]

/-- A message that was published again after each of its attempts. -/
structure Climbed (consumer : Consumer) (delivery : Delivery) (count : ℤ) (passed : ℕ)
    (state : MessageState) : Prop where
  waiting : ∃ next, state.fate = .queued next ∧ next.body = delivery.body ∧
    baseRetryCount next.headers = .ok (count + passed)
  all : state.attempts.length = passed
  accepted : refusals state.attempts = 0

theorem climbed (consumer : Consumer) (isObject : loads delivery.body = some (.obj payload))
    (read : baseRetryCount delivery.headers = .ok count) (passed : ℕ)
    (below : count + passed ≤ consumer.maxRetries) :
    Climbed consumer delivery count passed
      (messageLife consumer delivery (List.replicate passed failing)) := by
  induction passed with
  | zero => exact ⟨⟨delivery, rfl, rfl, by simpa using read⟩, rfl, rfl⟩
  | succ passed ih =>
    have earlier := ih (by omega)
    unfold messageLife life at earlier ⊢
    rw [replicate_succ', run_from_snoc]
    generalize runFrom _ _ _ = state at earlier ⊢
    obtain ⟨_, _⟩ := state
    obtain ⟨⟨next, isNext, sameBody, readNext⟩, all, accepted⟩ := earlier
    cases isNext
    rw [← sameBody] at isObject
    unfold redeliver
    dsimp only
    rw [on_message_failing isObject, retry_below readNext (by omega)]
    refine ⟨⟨(next.copy (.int (count + passed + 1))).arrive consumer.queueName, ?_, sameBody, ?_⟩,
      ?_, ?_⟩
    · simp [fateAfter, republish, broughtBack, isSettlement, Consumer.leadsBack,
        Destination.routingKey]
    · rw [base_count_of_copy]
      push_cast
      rw [add_assoc]
    · rw [length_append, length_singleton, all]
    · rw [refusals_append, accepted]
      simp [isRequeue, republish]

theorem accepted_is_no_requeue (consumer : Consumer) (delivery : Delivery) :
    isRequeue ⟨delivery, retry consumer delivery true⟩ = false := by
  unfold retry
  split
  · rfl
  · split <;> rfl

/-- A count below zero allows more attempts than the limit says. -/
theorem kept_usable (kept : ∀ outcomes, Kept consumer delivery outcomes) :
    CountUsable delivery := by
  intro _ isObject
  have first := (kept [failing]).settled ⟨delivery, onMessage consumer delivery failing⟩
    (by simp [messageLife, life, redeliver])
  obtain ⟨count, read⟩ := settled_once_iff.mp first (fails_transiently consumer isObject)
  refine ⟨count, read, ?_⟩
  by_contra negative
  obtain ⟨⟨_, isNext, sameBody, _⟩, all, accepted⟩ :=
    climbed consumer isObject read (consumer.maxRetries + 1) (by omega)
  have bounded := (kept (List.replicate (consumer.maxRetries + 1 + 1) failing)).bounded
  unfold messageLife life at isNext all accepted bounded
  rw [replicate_succ', run_from_snoc] at bounded
  generalize runFrom _ _ _ = state at isNext all accepted bounded
  obtain ⟨_, _⟩ := state
  cases isNext
  rw [← sameBody] at isObject
  unfold redeliver at bounded
  dsimp only at bounded all accepted
  rw [on_message_failing isObject, length_append, refusals_append, accepted,
    accepted_is_no_requeue, all, length_singleton] at bounded
  simp at bounded

/-- Each delivery is settled once and without an error unless its handling fails while
`int` refuses its count; and whatever happens, a message is settled every time, tried
at most once more than the limit and then dead-lettered, with copies that differ in the
count alone, exactly if it has a usable count or a body that is never handled. -/
theorem kept_iff_count_usable (consumer : Consumer) (delivery : Delivery) :
    (∀ outcome, (onMessage consumer delivery outcome).SettledOnce ↔
      (FailsTransiently consumer delivery outcome →
        ∃ count, baseRetryCount delivery.headers = .ok count)) ∧
      ((∀ outcomes, Kept consumer delivery outcomes) ↔ CountUsable delivery) :=
  ⟨fun _ => settled_once_iff, kept_usable, usable_kept⟩

def emptyObject : ByteArray := "\x7b\x7d".toUTF8

theorem loads_empty_object : loads emptyObject = some (.obj []) := by
  unfold emptyObject
  rw [loads_text]
  rfl

def nullCount : HeaderTable where
  entries := [(retryHeader, .none)]
  distinct := List.nodup_singleton _

/-- A header without a value and a failing handler leave the delivery unsettled. -/
theorem null_count_unsettled :
    ¬ ∀ (consumer : Consumer) (delivery : Delivery) (outcomes : List Outcome),
      Kept consumer delivery outcomes := by
  intro kept
  have usable := kept_usable (kept { queueName := "account_service.account_creation" }
    { body := emptyObject, headers := some nullCount, routingKey := none })
  obtain ⟨_, read, _⟩ := usable [] loads_empty_object
  exact absurd read (by simp [baseRetryCount, rawRetryCount, nullCount, HeaderTable.get,
    Library.KeyedRows.lookup, pyInt])

end FinanceTracker.Messaging.ConsumerBase
