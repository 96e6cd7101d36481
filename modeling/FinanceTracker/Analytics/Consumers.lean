import FinanceTracker.Messaging.Callbacks

/-!
# The consumers of analytics-service

`_on_message` and `_republish` of the projection consumer and of the embedding
consumer. They differ in the event types they know and in where they publish a failed
message again: the projections on the topic exchange under its routing key, the
embeddings in their own queue. Validation and handler are the environment's. A numeral
too long for `int`, at which the reader raises another error than for other bodies, is
taken as an unreadable body.
-/

namespace FinanceTracker.Analytics.Consumers

open Library.Json Messaging.Callbacks Messaging.RetryHeader

inductive Projection where
  | transactions
  | accounts
  | taxonomy
  | goals
  deriving DecidableEq

def Projection.queueName : Projection → String
  | .transactions => "analytics.transactions"
  | .accounts => "analytics.accounts"
  | .taxonomy => "analytics.taxonomy"
  | .goals => "analytics.goals"

/-- The values of `QUEUE_BINDINGS`. -/
def Projection.routingKeys : Projection → List String
  | .transactions => ["transaction.*"]
  | .accounts => ["account.*"]
  | .taxonomy => ["category.*", "subcategory.*"]
  | .goals => ["goal.*"]

def embeddingQueue : String := "analytics.embeddings"

def embeddingRoutingKeys : List String := ["transaction.*"]

def maxRetries : ℕ := 3

/-- The keys of `build_registry`. -/
def registeredTypes : List String :=
  ["transaction.created", "transaction.updated", "transaction.categorized", "transaction.deleted",
    "account.created", "account.updated", "category.created", "category.updated",
    "category.deleted", "subcategory.created", "subcategory.updated", "subcategory.deleted",
    "goal.created", "goal.updated", "goal.deleted"]

/-- The keys of `EVENT_TYPES`. -/
def embeddedTypes : List String :=
  ["transaction.created", "transaction.updated", "transaction.categorized"]

/-- Whether `model_validate` accepts the body and whether the handler returns. -/
structure Outcome where
  valid : Bool := true
  handled : Bool

/-- Whether a table with these keys has an entry for a value. -/
def isKnown (known : List String) : JsonValue → Except PyError Bool
  | .str name => .ok (known.contains name)
  | .arr _ => .error .typeError
  | .obj _ => .error .typeError
  | _ => .ok false

def eventType (payload : JsonObject) (message : Delivery) : JsonValue :=
  getD payload "event_type" (.str (message.routingKey.getD ""))

def retry (destination : Destination) (message : Delivery) : CallbackResult :=
  match analyticsRetryCount message.headers with
  | .error error => { calls := [], raised := some error }
  | .ok retryCount =>
    if retryCount < maxRetries then
      { calls := [.publish destination (message.copy (.int (retryCount + 1))), .ack] }
    else { calls := [.nack false] }

def handleMessage (known : List String) (destination : Destination) (message : Delivery)
    (outcome : Outcome) : CallbackResult :=
  match loads message.body with
  | none => { calls := [.nack false] }
  | some (.obj payload) =>
    match isKnown known (eventType payload message) with
    | .error error => { calls := [], raised := some error }
    | .ok false => { calls := [.ack] }
    | .ok true =>
      if outcome.valid then
        if outcome.handled then { calls := [.ack] } else retry destination message
      else { calls := [.nack false] }
  | some _ => { calls := [], raised := some .attributeError }

/-- `ProjectionConsumer._on_message`. -/
def onProjection (message : Delivery) (outcome : Outcome) : CallbackResult :=
  handleMessage registeredTypes (.topic (message.routingKey.getD "")) message outcome

/-- `EmbeddingConsumer._on_message`. -/
def onEmbedding (message : Delivery) (outcome : Outcome) : CallbackResult :=
  handleMessage embeddedTypes (.queue embeddingQueue) message outcome

/-- The handler was called, for an event it knows, and failed. -/
def Fails (known : List String) (message : Delivery) (outcome : Outcome) : Prop :=
  ∃ payload, loads message.body = some (.obj payload) ∧
    isKnown known (eventType payload message) = .ok true ∧
    outcome.valid = true ∧ outcome.handled = false

instance (known : List String) (message : Delivery) (outcome : Outcome) :
    Decidable (Fails known message outcome) := decidableObject

/-- A callback publishes nothing and returns nothing to the queue, unless its handler
failed below the limit: then it publishes one copy. -/
theorem handle_message_calls (known : List String) (destination : Destination)
    (message : Delivery) (outcome : Outcome) :
    (∃ count, Fails known message outcome ∧ analyticsRetryCount message.headers = .ok count ∧
      count < maxRetries ∧
      handleMessage known destination message outcome =
        { calls := [.publish destination (message.copy (.int (count + 1))), .ack] }) ∨
    ((∀ count, Fails known message outcome → analyticsRetryCount message.headers = .ok count →
        ¬ count < maxRetries) ∧
      ∀ call ∈ (handleMessage known destination message outcome).calls,
        call = .ack ∨ call = .nack false) := by
  unfold handleMessage
  split
  · next unread =>
    refine Or.inr ⟨?_, by simp⟩
    rintro count ⟨payload, isObject, _⟩
    exact absurd (unread.symm.trans isObject) (by simp)
  · next payload isObject =>
    have same {other : JsonObject} (isOther : loads message.body = some (.obj other)) :
        other = payload := by
      cases isObject.symm.trans isOther
      rfl
    split
    · next unhashable =>
      refine Or.inr ⟨?_, by simp⟩
      rintro count ⟨other, isOther, known, _⟩
      rw [same isOther] at known
      exact absurd (unhashable.symm.trans known) (by simp)
    · next unknown =>
      refine Or.inr ⟨?_, by simp⟩
      rintro count ⟨other, isOther, known, _⟩
      rw [same isOther] at known
      exact absurd (unknown.symm.trans known) (by simp)
    · next isKnown =>
      split
      · next valid =>
        split
        · next handled =>
          refine Or.inr ⟨?_, by simp⟩
          rintro count ⟨_, _, _, _, failed⟩
          exact absurd (handled.symm.trans failed) (by simp)
        · next failed =>
          have fails : Fails known message outcome :=
            ⟨payload, isObject, isKnown, valid, by simpa using failed⟩
          unfold retry
          cases read : analyticsRetryCount message.headers with
          | error => exact Or.inr ⟨by simp, by simp⟩
          | ok count =>
            dsimp only
            by_cases below : count < maxRetries
            · rw [if_pos below]
              exact Or.inl ⟨count, fails, rfl, below, rfl⟩
            · rw [if_neg below]
              refine Or.inr ⟨?_, by simp⟩
              intro _ _ isOther
              cases isOther
              exact below
      · next invalid =>
        refine Or.inr ⟨?_, by simp⟩
        rintro count ⟨_, _, _, valid, _⟩
        exact absurd valid invalid
  · next notObject isValue =>
    refine Or.inr ⟨?_, by simp⟩
    rintro count ⟨payload, isObject, _⟩
    exact absurd (Option.some.inj (isValue.symm.trans isObject)) (notObject payload)

end FinanceTracker.Analytics.Consumers
