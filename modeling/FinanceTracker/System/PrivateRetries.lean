import FinanceTracker.Analytics.Consumers
import FinanceTracker.Messaging.ConsumerBase

/-!
# Private retries

The queues that are bound to the shared topic exchange with the consumers behind them:
any consumers built on the shared base class, the projections of analytics-service and
its embeddings. A queue should receive an event as often as it was published and once
more for each attempt of its own that failed below the limit. The projections publish
a failed message on the exchange again, where every queue with a matching binding
receives the copy.
-/

namespace FinanceTracker.System.PrivateRetries

open Library.Json (get getD loads loads_text readText)
open Library KeyedRows Runs Messaging Messaging.Callbacks Messaging.RetryHeader Analytics
open Analytics.Consumers (Projection onProjection onEmbedding embeddingQueue
  embeddingRoutingKeys registeredTypes embeddedTypes)

inductive Service where
  | shared (consumer : ConsumerBase.Consumer) (routingKeys : List String)
  | projection (queue : Projection)
  | embedding

def Service.queueName : Service → String
  | .shared consumer _ => consumer.queueName
  | .projection queue => queue.queueName
  | .embedding => embeddingQueue

def Service.routingKeys : Service → List String
  | .shared _ routingKeys => routingKeys
  | .projection queue => queue.routingKeys
  | .embedding => embeddingRoutingKeys

def Service.bound (service : Service) (routingKey : String) : Bool :=
  service.routingKeys.any fun pattern => topicMatches pattern routingKey

/-- How the calls of one callback end that are not the broker's. -/
structure Outcome where
  alreadyProcessed : Except ConsumerBase.Failure Bool := .ok false
  handled : Except ConsumerBase.Failure Unit
  markProcessed : Except ConsumerBase.Failure Unit := .ok ()
  valid : Bool := true

def Outcome.base (outcome : Outcome) : ConsumerBase.Outcome where
  alreadyProcessed := outcome.alreadyProcessed
  handled := outcome.handled
  markProcessed := outcome.markProcessed

def Outcome.analytics (outcome : Outcome) : Consumers.Outcome where
  valid := outcome.valid
  handled := outcome.handled.isOk

def Service.callback (service : Service) (message : Delivery) (outcome : Outcome) :
    CallbackResult :=
  match service with
  | .shared consumer _ => ConsumerBase.onMessage consumer message outcome.base
  | .projection _ => onProjection message outcome.analytics
  | .embedding => onEmbedding message outcome.analytics

structure Services where
  all : List Service
  distinct : DistinctKeys Service.queueName all

/-- The queues that receive what is published on the exchange. -/
def Services.route (services : Services) (routingKey : String) : List String :=
  (services.all.filter fun service => service.bound routingKey).map Service.queueName

def Services.find (services : Services) (queueName : String) : Option Service :=
  lookup Service.queueName services.all queueName

def belowLimit (read : Except PyError ℤ) (limit : ℕ) : Bool :=
  match read with
  | .ok count => count < limit
  | .error _ => false

def FailsBelow (service : Service) (message : Delivery) (outcome : Outcome) : Prop :=
  match service with
  | .shared consumer _ =>
    ConsumerBase.FailsTransiently consumer message outcome.base ∧
      belowLimit (baseRetryCount message.headers) consumer.maxRetries
  | .projection _ =>
    Consumers.Fails registeredTypes message outcome.analytics ∧
      belowLimit (analyticsRetryCount message.headers) Consumers.maxRetries
  | .embedding =>
    Consumers.Fails embeddedTypes message outcome.analytics ∧
      belowLimit (analyticsRetryCount message.headers) Consumers.maxRetries

instance (service : Service) (message : Delivery) (outcome : Outcome) :
    Decidable (FailsBelow service message outcome) := by
  cases service <;> unfold FailsBelow <;> infer_instance

/-- Where a service publishes a failed message. -/
def Service.retryDestination (service : Service) (message : Delivery) : Destination :=
  match service with
  | .shared consumer _ => .queue consumer.queueName
  | .projection _ => .topic (message.routingKey.getD "")
  | .embedding => .queue embeddingQueue

theorem below_limit_iff {read : Except PyError ℤ} {limit : ℕ} :
    belowLimit read limit = true ↔ ∃ count, read = .ok count ∧ count < limit := by
  cases read with
  | error | ok => simp [belowLimit]

/-- The calls of a callback: one copy is published when the handler fails below the
limit, and otherwise nothing goes back to any queue. -/
inductive Calls (service : Service) (message : Delivery) (outcome : Outcome) :
    List BrokerCall → Prop where
  | retried (count : HeaderValue) (failed : FailsBelow service message outcome) :
      Calls service message outcome
        [.publish (service.retryDestination message) (message.copy count), .ack]
  | settled (calls : List BrokerCall) (notFailed : ¬ FailsBelow service message outcome)
      (settles : ∀ call ∈ calls, call = .ack ∨ call = .nack false) :
      Calls service message outcome calls

theorem shared_calls (consumer : ConsumerBase.Consumer) (routingKeys : List String)
    (message : Delivery) (outcome : Outcome) :
    Calls (.shared consumer routingKeys) message outcome
      (ConsumerBase.onMessage consumer message outcome.base).calls := by
  have handling := ConsumerBase.on_message_handling consumer message outcome.base
  generalize ConsumerBase.onMessage consumer message outcome.base = result at handling
  cases handling with
  | republished count failed read below =>
    exact .retried _ ⟨failed, below_limit_iff.mpr ⟨count, read, below⟩⟩
  | requeued count failed read below refusal => exact absurd refusal (by simp [Outcome.base])
  | acked done =>
    refine .settled _ ?_ (by simp)
    rintro ⟨⟨payload, isObject, failed⟩, _⟩
    refine absurd (fun other isOther => ?_) done
    cases isObject.symm.trans isOther
    exact ⟨.other, failed⟩
  | refused final => exact .settled _ (fun failed => final failed.1) (by simp)
  | exhausted count failed read =>
    refine .settled _ ?_ (by simp)
    rintro ⟨_, below⟩
    obtain ⟨_, isOther, _⟩ := below_limit_iff.mp below
    cases read.symm.trans isOther
    omega
  | raised error failed read =>
    refine .settled _ ?_ (by simp)
    rintro ⟨_, below⟩
    obtain ⟨_, isOther, _⟩ := below_limit_iff.mp below
    exact absurd (read.symm.trans isOther) (by simp)

variable {service own : Service} {outcome : Outcome} {services : Services}

theorem analytics_calls {known : List String} {message : Delivery}
    (fails : FailsBelow service message outcome ↔ Consumers.Fails known message outcome.analytics ∧
        belowLimit (analyticsRetryCount message.headers) Consumers.maxRetries) :
    Calls service message outcome
      (Consumers.handleMessage known (service.retryDestination message) message
        outcome.analytics).calls := by
  rcases Consumers.handle_message_calls known (service.retryDestination message) message
    outcome.analytics with ⟨count, failed, read, below, published⟩ | ⟨notFailed, settles⟩
  · rw [published]
    exact .retried _ (fails.mpr ⟨failed, below_limit_iff.mpr ⟨count, read, below⟩⟩)
  · refine .settled _ (fun failedBelow => ?_) settles
    obtain ⟨failed, limit⟩ := fails.mp failedBelow
    obtain ⟨count, read, below⟩ := below_limit_iff.mp limit
    exact notFailed count failed read below

theorem callback_calls (service : Service) (message : Delivery) (outcome : Outcome) :
    Calls service message outcome (service.callback message outcome).calls := by
  cases service with
  | shared consumer routingKeys => exact shared_calls consumer routingKeys message outcome
  | projection | embedding => exact analytics_calls Iff.rfl

structure QueuedMessage where
  queueName : String
  event : ℕ
  delivery : Delivery

structure Exchange where
  waiting : List QueuedMessage := []
  published : List (ℕ × String) := []
  received : List (String × ℕ) := []
  failedBelow : List (String × ℕ) := []

def Exchange.receive (exchange : Exchange) (queues : List String) (event : ℕ)
    (delivery : Delivery) : Exchange :=
  { exchange with
    waiting := exchange.waiting ++ queues.map fun queueName =>
      { queueName := queueName, event := event, delivery := delivery }
    received := exchange.received ++ queues.map fun queueName => (queueName, event) }

def publishTo (services : Services) (exchange : Exchange) (event : ℕ) (message : OutgoingMessage) :
    Destination → Exchange
  | .queue name =>
    exchange.receive (if (services.find name).isSome then [name] else []) event
      (message.arrive name)
  | .topic routingKey =>
    exchange.receive (services.route routingKey) event (message.arrive routingKey)

/-- The effect of a callback's call, made for a message of a queue. -/
def perform (services : Services) (source : QueuedMessage) (exchange : Exchange) :
    BrokerCall → Exchange
  | .publish destination message => publishTo services exchange source.event message destination
  | .nack true => exchange.receive [source.queueName] source.event source.delivery
  | _ => exchange

def noteFailure (exchange : Exchange) (service : Service) (source : QueuedMessage)
    (outcome : Outcome) : Exchange :=
  if FailsBelow service source.delivery outcome then
    { exchange with failedBelow := exchange.failedBelow ++ [(source.queueName, source.event)] }
  else exchange

inductive Label where
  | publish (event : ℕ) (message : OutgoingMessage) (routingKey : String)
  | deliver (index : ℕ) (outcome : Outcome)

def publish (services : Services) (exchange : Exchange) (event : ℕ) (message : OutgoingMessage)
    (routingKey : String) : Exchange :=
  publishTo services { exchange with published := exchange.published ++ [(event, routingKey)] }
    event message (.topic routingKey)

def deliverTo (services : Services) (exchange : Exchange) (service : Service)
    (source : QueuedMessage) (outcome : Outcome) : Exchange :=
  (service.callback source.delivery outcome).calls.foldl (perform services source)
    (noteFailure exchange service source outcome)

def Exchange.source (services : Services) (exchange : Exchange) (index : ℕ) :
    Option (QueuedMessage × Service) := do
  let source ← exchange.waiting[index]?
  let service ← services.find source.queueName
  some (source, service)

def step (services : Services) (exchange : Exchange) : Label → Exchange
  | .publish event message routingKey => publish services exchange event message routingKey
  | .deliver index outcome =>
    match exchange.source services index with
    | some (source, service) =>
      deliverTo services { exchange with waiting := exchange.waiting.eraseIdx index } service
        source outcome
    | none => exchange

/-- As often as the event was published to the queue, and once for each failed attempt. -/
def owed (exchange : Exchange) (service : Service) (event : ℕ) : ℕ :=
  exchange.published.countP (fun entry => entry.1 = event && service.bound entry.2) +
    exchange.failedBelow.count (service.queueName, event)

def receipts (exchange : Exchange) (service : Service) (event : ℕ) : ℕ :=
  exchange.received.count (service.queueName, event)

/-- The step delivers to another queue without leaving anything in this one. -/
def OthersUntouched (services : Services) (exchange : Exchange) (label : Label) : Prop :=
  match label with
  | .publish _ _ _ => True
  | .deliver index _ =>
    ∀ source service, exchange.source services index = some (source, service) →
      ∀ other ∈ services.all, other.queueName ≠ source.queueName → ∀ event,
        receipts (step services exchange label) other event = receipts exchange other event

structure Private (services : Services) (labels : List Label) : Prop where
  counted : ∀ service ∈ services.all, ∀ event,
    receipts (runFrom (step services) {} labels) service event =
      owed (runFrom (step services) {} labels) service event
  alone : AllSteps (step services) (OthersUntouched services) {} labels

/-- A projection's attempt fails below the limit for an event whose routing key the
other service is bound to as well. -/
def Leaks (services : Services) (exchange : Exchange) (label : Label) (other : Service)
    (event : ℕ) : Prop :=
  match label with
  | .publish _ _ _ => False
  | .deliver index outcome =>
    ∃ source projection, exchange.source services index = some (source, .projection projection) ∧
        source.event = event ∧ FailsBelow (.projection projection) source.delivery outcome ∧
        other.queueName ≠ source.queueName ∧
        other.bound (source.delivery.routingKey.getD "") = true

/-- No attempt of a projection fails below the limit while another queue is bound to
the routing key of the message. -/
def StaysPrivate (services : Services) (exchange : Exchange) (label : Label) : Prop :=
  ∀ other ∈ services.all, ∀ event, ¬ Leaks services exchange label other event

theorem receipts_receive (exchange : Exchange) (queues : List String) (event : ℕ)
    (delivery : Delivery) (service : Service) (wanted : ℕ) :
    receipts (exchange.receive queues event delivery) service wanted =
      receipts exchange service wanted +
        if event = wanted then queues.count service.queueName else 0 := by
  unfold receipts Exchange.receive
  dsimp only
  rw [List.count_append]
  congr 1
  induction queues with
  | nil => simp
  | cons queueName queues ih =>
    rw [List.map_cons, List.count_cons, List.count_cons, ih]
    by_cases same : event = wanted
    · subst same
      simp
    · simp [same]

theorem count_route (member : service ∈ services.all) (routingKey : String) :
    (services.route routingKey).count service.queueName =
      if service.bound routingKey then 1 else 0 := by
  have routed : service.queueName ∈ services.route routingKey ↔ service.bound routingKey = true := by
    unfold Services.route
    rw [List.mem_map]
    constructor
    · rintro ⟨other, isRouted, sameName⟩
      obtain ⟨isMember, isBound⟩ := List.mem_filter.mp isRouted
      rwa [List.inj_on_of_nodup_map services.distinct isMember member sameName] at isBound
    · intro isBound
      exact ⟨service, List.mem_filter.mpr ⟨member, isBound⟩, rfl⟩
  have distinct : (services.route routingKey).Nodup :=
    services.distinct.sublist (List.filter_sublist.map _)
  rw [List.Nodup.count distinct]
  simp only [routed]

/-- What a publication adds to a queue. -/
theorem receipts_publish_to (member : service ∈ services.all) (exchange : Exchange)
    (event wanted : ℕ) (message : OutgoingMessage) (routingKey : String) :
    receipts (publishTo services exchange event message (.topic routingKey)) service wanted =
      receipts exchange service wanted +
        if event = wanted ∧ service.bound routingKey = true then 1 else 0 := by
  unfold publishTo
  rw [receipts_receive, count_route member]
  by_cases same : event = wanted <;> simp [same]

theorem receipts_publish_own (ownMember : own ∈ services.all) (exchange : Exchange)
    (event wanted : ℕ) (message : OutgoingMessage) :
    receipts (publishTo services exchange event message (.queue own.queueName)) service wanted =
      receipts exchange service wanted +
        if event = wanted ∧ service.queueName = own.queueName then 1 else 0 := by
  have found : services.find own.queueName = some own :=
    (lookup_iff services.distinct).mpr ⟨ownMember, rfl⟩
  unfold publishTo
  rw [receipts_receive, found]
  by_cases here : service.queueName = own.queueName
  · by_cases same : event = wanted <;> simp [same, here]
  · have elsewhere : own.queueName ≠ service.queueName := Ne.symm here
    simp [here, elsewhere]

theorem owed_publish_to (services : Services) (exchange : Exchange) (event wanted : ℕ)
    (message : OutgoingMessage) (destination : Destination) (service : Service) :
    owed (publishTo services exchange event message destination) service wanted =
      owed exchange service wanted := by
  cases destination <;> rfl

theorem publish_balance (member : service ∈ services.all) (exchange : Exchange) (event wanted : ℕ)
    (message : OutgoingMessage) (routingKey : String) :
    receipts (publish services exchange event message routingKey) service wanted +
        owed exchange service wanted =
      receipts exchange service wanted +
        owed (publish services exchange event message routingKey) service wanted := by
  unfold publish
  rw [receipts_publish_to member, owed_publish_to]
  have published : owed { exchange with
      published := exchange.published ++ [(event, routingKey)] } service wanted =
      owed exchange service wanted +
        if event = wanted ∧ service.bound routingKey = true then 1 else 0 := by
    unfold owed
    dsimp only
    rw [List.countP_append, List.countP_singleton]
    simp only [Bool.and_eq_true, decide_eq_true_eq]
    omega
  rw [published]
  have unchanged : receipts { exchange with
      published := exchange.published ++ [(event, routingKey)] } service wanted =
      receipts exchange service wanted := rfl
  rw [unchanged]
  omega

/-- A settled delivery leaves every queue as it was. -/
theorem perform_settlements (services : Services) (source : QueuedMessage) (exchange : Exchange)
    {calls : List BrokerCall} (settles : ∀ call ∈ calls, call = .ack ∨ call = .nack false) :
    calls.foldl (perform services source) exchange = exchange := by
  induction calls with
  | nil => rfl
  | cons call calls ih =>
    rw [List.foldl_cons]
    have unchanged : perform services source exchange call = exchange := by
      rcases settles call List.mem_cons_self with rfl | rfl <;> rfl
    rw [unchanged]
    exact ih fun later member => settles later (List.mem_cons_of_mem _ member)

variable {exchange : Exchange}

theorem deliver_to_settled {source : QueuedMessage}
    (notFailed : ¬ FailsBelow service source.delivery outcome) :
    deliverTo services exchange service source outcome = exchange := by
  have calls := callback_calls service source.delivery outcome
  unfold deliverTo noteFailure
  rw [if_neg notFailed]
  generalize (service.callback source.delivery outcome).calls = made at calls
  cases calls with
  | retried count failed => exact absurd failed notFailed
  | settled _ _ settles => exact perform_settlements services source exchange settles

/-- A delivery of the message has failed below the limit. -/
def Exchange.fail (exchange : Exchange) (source : QueuedMessage) : Exchange :=
  { exchange with failedBelow := exchange.failedBelow ++ [(source.queueName, source.event)] }

theorem deliver_to_retried (services : Services) (exchange : Exchange) {source : QueuedMessage}
    (failed : FailsBelow service source.delivery outcome) :
    ∃ count, deliverTo services exchange service source outcome =
      publishTo services (exchange.fail source) source.event (source.delivery.copy count)
        (service.retryDestination source.delivery) := by
  have calls := callback_calls service source.delivery outcome
  unfold deliverTo noteFailure
  rw [if_pos failed]
  generalize (service.callback source.delivery outcome).calls = made at calls
  cases calls with
  | retried count => exact ⟨count, rfl⟩
  | settled _ notFailed => exact absurd failed notFailed

/-- A projection's queue holds only messages whose routing key it is bound to. -/
def Routed (services : Services) (exchange : Exchange) : Prop :=
  ∀ source ∈ exchange.waiting, ∀ projection,
    services.find source.queueName = some (.projection projection) →
      (Service.projection projection).bound (source.delivery.routingKey.getD "") = true

theorem routed_receive {queues : List String} {event : ℕ} {delivery : Delivery}
    (routed : Routed services exchange)
    (fits : ∀ queueName ∈ queues, ∀ projection,
      services.find queueName = some (.projection projection) →
        (Service.projection projection).bound (delivery.routingKey.getD "") = true) :
    Routed services (exchange.receive queues event delivery) := by
  intro source member projection found
  rcases List.mem_append.mp member with before | new
  · exact routed source before projection found
  · obtain ⟨queueName, isQueue, rfl⟩ := List.mem_map.mp new
    exact fits queueName isQueue projection found

theorem routed_publish_topic (routed : Routed services exchange) (event : ℕ)
    (message : OutgoingMessage) (routingKey : String) :
    Routed services (publishTo services exchange event message (.topic routingKey)) := by
  refine routed_receive routed fun queueName isRouted projection found => ?_
  obtain ⟨_, isBound, sameName⟩ := List.mem_map.mp isRouted
  obtain ⟨member, bound⟩ := List.mem_filter.mp isBound
  have isService := (lookup_iff services.distinct).mpr ⟨member, sameName⟩
  cases found.symm.trans isService
  exact bound

theorem routed_publish_own (routed : Routed services exchange) (ownMember : own ∈ services.all)
    (notProjection : ∀ projection, own ≠ .projection projection) (event : ℕ)
    (message : OutgoingMessage) :
    Routed services (publishTo services exchange event message (.queue own.queueName)) := by
  have isOwn : services.find own.queueName = some own :=
    (lookup_iff services.distinct).mpr ⟨ownMember, rfl⟩
  refine routed_receive routed fun queueName isQueue projection found => ?_
  rw [isOwn] at isQueue
  rw [List.mem_singleton.mp isQueue, isOwn] at found
  exact absurd (Option.some.inj found) (notProjection projection)

theorem source_some {index : ℕ} {source : QueuedMessage}
    (isSource : exchange.source services index = some (source, service)) :
    source ∈ exchange.waiting ∧ services.find source.queueName = some service ∧
      service ∈ services.all ∧ service.queueName = source.queueName := by
  unfold Exchange.source at isSource
  cases waits : exchange.waiting[index]? with
  | none => simp [waits] at isSource
  | some queued =>
    cases found : services.find queued.queueName with
    | none => simp [waits, found] at isSource
    | some =>
      simp only [waits, found, Option.bind_eq_bind, Option.bind_some, Option.some.injEq,
        Prod.mk.injEq] at isSource
      obtain ⟨rfl, rfl⟩ := isSource
      exact ⟨List.mem_of_getElem? waits, found, lookup_mem found⟩

theorem routed_deliver_to {source : QueuedMessage} (routed : Routed services exchange)
    (member : service ∈ services.all) (outcome : Outcome) :
    Routed services (deliverTo services exchange service source outcome) := by
  by_cases failed : FailsBelow service source.delivery outcome
  · obtain ⟨_, retried⟩ := deliver_to_retried services exchange failed
    rw [retried]
    have noted : Routed services (exchange.fail source) := routed
    cases service with
    | shared =>
      exact routed_publish_own noted member (by simp) _ _
    | projection => exact routed_publish_topic noted _ _ _
    | embedding => exact routed_publish_own noted member (by simp) _ _
  · rw [deliver_to_settled failed]
    exact routed

theorem step_routed (exchange : Exchange) (label : Label) (routed : Routed services exchange) :
    Routed services (step services exchange label) := by
  cases label with
  | publish event message routingKey => exact routed_publish_topic routed event message routingKey
  | deliver index outcome =>
    unfold step
    dsimp only
    split
    · next source service isSource =>
      obtain ⟨_, _, member, _⟩ := source_some isSource
      refine routed_deliver_to (fun other isOther => ?_) member outcome
      exact routed other (List.mem_of_mem_eraseIdx isOther)
    · exact routed

theorem owed_fail (exchange : Exchange) (source : QueuedMessage) (service : Service)
    (event : ℕ) :
    owed (exchange.fail source) service event = owed exchange service event +
      if source.event = event ∧ service.queueName = source.queueName then 1 else 0 := by
  unfold owed Exchange.fail
  dsimp only
  rw [List.count_append, List.count_singleton]
  have same : ((source.queueName, source.event) == (service.queueName, event)) = true ↔
      source.event = event ∧ service.queueName = source.queueName := by
    rw [beq_iff_eq, Prod.mk.injEq]
    exact ⟨fun both => ⟨both.2, both.1.symm⟩, fun both => ⟨both.2.symm, both.1⟩⟩
  simp only [same]
  omega

theorem receipts_fail (exchange : Exchange) (source : QueuedMessage) (service : Service)
    (event : ℕ) : receipts (exchange.fail source) service event = receipts exchange service event :=
  rfl

theorem own_retry_balance {source : QueuedMessage} (ownMember : own ∈ services.all)
    (isOwn : own.queueName = source.queueName) (exchange : Exchange) (message : OutgoingMessage)
    (event : ℕ) :
    receipts (publishTo services (exchange.fail source) source.event message
        (.queue own.queueName)) service event + owed exchange service event =
      receipts exchange service event + owed (publishTo services (exchange.fail source)
        source.event message (.queue own.queueName)) service event := by
  rw [receipts_publish_own ownMember, owed_publish_to, owed_fail, isOwn, receipts_fail]
  omega

theorem topic_retry_balance {source : QueuedMessage} (member : service ∈ services.all)
    (routed : service.queueName = source.queueName →
      service.bound (source.delivery.routingKey.getD "") = true) (exchange : Exchange)
    (message : OutgoingMessage) (event : ℕ) :
    receipts (publishTo services (exchange.fail source) source.event message
        (.topic (source.delivery.routingKey.getD ""))) service event + owed exchange service event =
      receipts exchange service event + owed (publishTo services (exchange.fail source)
          source.event message (.topic (source.delivery.routingKey.getD ""))) service event +
        if source.event = event ∧ service.queueName ≠ source.queueName ∧
          service.bound (source.delivery.routingKey.getD "") = true then 1 else 0 := by
  rw [receipts_publish_to member, owed_publish_to, owed_fail, receipts_fail]
  by_cases same : source.event = event
  · by_cases here : service.queueName = source.queueName
    · simp only [same, here, routed here]
      simp
      omega
    · by_cases bound : service.bound (source.delivery.routingKey.getD "") = true
      · simp [same, here, bound]
        omega
      · simp [same, here, bound]
  · simp [same]

/-- What a service gets beyond what it is owed comes from leaks alone. -/
theorem step_balance (routed : Routed services exchange) (member : service ∈ services.all)
    (label : Label) (event : ℕ) :
    ∃ surplus, receipts (step services exchange label) service event + owed exchange service event =
      receipts exchange service event + owed (step services exchange label) service event +
        surplus ∧ (surplus = 0 ↔ ¬ Leaks services exchange label service event) := by
  cases label with
  | publish published message routingKey =>
    exact ⟨0, publish_balance member exchange published event message routingKey, by
      simp [Leaks]⟩
  | deliver index outcome =>
    unfold step
    dsimp only
    cases isSource : exchange.source services index with
    | none =>
      refine ⟨0, rfl, ?_⟩
      simp [Leaks, isSource]
    | some pair =>
      obtain ⟨source, receiver⟩ := pair
      obtain ⟨waits, found, receives, named⟩ := source_some isSource
      dsimp only
      by_cases failed : FailsBelow receiver source.delivery outcome
      · obtain ⟨_, retried⟩ := deliver_to_retried services
          { exchange with waiting := exchange.waiting.eraseIdx index } failed
        rw [retried]
        cases receiver with
        | projection projection =>
          have isOwn (here : service.queueName = source.queueName) :
              service.bound (source.delivery.routingKey.getD "") = true := by
            have isService := (lookup_iff services.distinct).mpr ⟨member, here⟩
            cases found.symm.trans isService
            exact routed source waits projection found
          refine ⟨_, topic_retry_balance member isOwn _ _ event, ?_⟩
          have leaks : Leaks services exchange (.deliver index outcome) service event ↔
              source.event = event ∧ service.queueName ≠ source.queueName ∧
                service.bound (source.delivery.routingKey.getD "") = true := by
            constructor
            · rintro ⟨other, _, same, isEvent, _, elsewhere, bound⟩
              cases isSource.symm.trans same
              exact ⟨isEvent, elsewhere, bound⟩
            · rintro ⟨isEvent, elsewhere, bound⟩
              exact ⟨source, projection, isSource, isEvent, failed, elsewhere, bound⟩
          rw [leaks]
          simp
        | shared =>
          refine ⟨0, own_retry_balance receives named _ _ event, ?_⟩
          simp [Leaks, isSource]
        | embedding =>
          refine ⟨0, own_retry_balance receives named _ _ event, ?_⟩
          simp [Leaks, isSource]
      · rw [deliver_to_settled failed]
        refine ⟨0, rfl, ?_⟩
        simp only [Leaks, isSource, true_iff]
        rintro ⟨other, projection, same, _, fails, _⟩
        cases same
        exact failed fails

theorem surplus_free (labels : List Label) (routed : Routed services exchange)
    (atLeast : ∀ service ∈ services.all, ∀ event,
      owed exchange service event ≤ receipts exchange service event) :
    (∀ service ∈ services.all, ∀ event,
      receipts (runFrom (step services) exchange labels) service event =
        owed (runFrom (step services) exchange labels) service event) ↔
      (∀ service ∈ services.all, ∀ event,
        receipts exchange service event = owed exchange service event) ∧
        AllSteps (step services) (StaysPrivate services) exchange labels := by
  induction labels generalizing exchange with
  | nil => simp [AllSteps]
  | cons label labels ih =>
    have stepAtLeast : ∀ service ∈ services.all, ∀ event,
        owed (step services exchange label) service event ≤
          receipts (step services exchange label) service event := by
      intro service member event
      obtain ⟨_, _, _⟩ := step_balance routed member label event
      have before := atLeast service member event
      omega
    rw [run_from_cons, ih (step_routed exchange label routed) stepAtLeast]
    change _ ↔ _ ∧ StaysPrivate services exchange label ∧
      AllSteps (step services) (StaysPrivate services) (step services exchange label) labels
    constructor
    · rintro ⟨counted, rest⟩
      refine ⟨fun service member event => ?_, fun service member event => ?_, rest⟩
      · obtain ⟨_, _, _⟩ := step_balance routed member label event
        have before := atLeast service member event
        have after := counted service member event
        omega
      · obtain ⟨_, _, free⟩ := step_balance routed member label event
        have before := atLeast service member event
        have after := counted service member event
        exact free.mp (by omega)
    · rintro ⟨counted, stays, rest⟩
      refine ⟨fun service member event => ?_, rest⟩
      obtain ⟨_, _, free⟩ := step_balance routed member label event
      have none := free.mpr (stays service member event)
      have before := counted service member event
      omega

theorem owed_elsewhere {index : ℕ} (outcome : Outcome) {source : QueuedMessage}
    {receiver other : Service} (isSource : exchange.source services index = some (source, receiver))
    (elsewhere : other.queueName ≠ source.queueName) (event : ℕ) :
    owed (step services exchange (.deliver index outcome)) other event =
      owed exchange other event := by
  unfold step
  dsimp only
  rw [isSource]
  dsimp only
  by_cases failed : FailsBelow receiver source.delivery outcome
  · obtain ⟨_, retried⟩ := deliver_to_retried services
      { exchange with waiting := exchange.waiting.eraseIdx index } failed
    rw [retried, owed_publish_to, owed_fail, if_neg fun both => elsewhere both.2]
    rfl
  · rw [deliver_to_settled failed]
    rfl

theorem others_untouched {label : Label} (routed : Routed services exchange)
    (stays : StaysPrivate services exchange label) :
    OthersUntouched services exchange label := by
  cases label with
  | publish => trivial
  | deliver index outcome =>
    intro _ _ isSource other member elsewhere event
    obtain ⟨_, _, free⟩ := step_balance routed member (.deliver index outcome) event
    have none := free.mpr (stays other member event)
    have same := owed_elsewhere outcome isSource elsewhere event
    omega

def createdMessage (text : String) : OutgoingMessage where
  body := text.toUTF8
  headers := .empty
  contentType := "application/json"
  persistent := true

def projectionAndEmbeddings : Services where
  all := [.projection .transactions, .embedding]
  distinct := by
    unfold DistinctKeys
    decide

def failure : Outcome where
  handled := .error .other

def publishLabel (text : String) : Label :=
  .publish 0 (createdMessage text) "transaction.created"

def IsCreated (text : String) : Prop :=
  ∃ payload, readText text.toList = some (.obj payload) ∧
    Consumers.isKnown registeredTypes (getD payload "event_type" .null) = .ok true

theorem created_fails {text : String} (created : IsCreated text) :
    FailsBelow (.projection .transactions) ((createdMessage text).arrive "transaction.created")
      failure := by
  obtain ⟨payload, isObject, known⟩ := created
  have read : loads ((createdMessage text).arrive "transaction.created").body =
    readText text.toList := loads_text text
  refine ⟨⟨payload, read.trans isObject, ?_, rfl, rfl⟩, rfl⟩
  unfold getD at known
  unfold Consumers.eventType getD
  cases found : get payload "event_type" with
  | none => simp [found, Consumers.isKnown] at known
  | some => simpa [found] using known

theorem created_leaks {text : String} (created : IsCreated text) :
    Leaks projectionAndEmbeddings (step projectionAndEmbeddings {} (publishLabel text))
      (.deliver 0 failure) .embedding 0 := by
  have elsewhere : Service.embedding.queueName ≠
      (Service.projection Projection.transactions).queueName := by decide
  have isBound : Service.embedding.bound "transaction.created" = true := by decide
  exact ⟨_, .transactions, rfl, rfl, created_fails created, elsewhere, isBound⟩

theorem published_balanced (text : String) :
    receipts (step projectionAndEmbeddings {} (publishLabel text)) .embedding 0 =
      owed (step projectionAndEmbeddings {} (publishLabel text)) .embedding 0 := rfl

end FinanceTracker.System.PrivateRetries
