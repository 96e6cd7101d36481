import FinanceTracker.Banking.SagaCommands
import FinanceTracker.Saga.BankSyncCommands
import FinanceTracker.Saga.ReplyConsumer
import FinanceTracker.Transaction.ImportedRows

/-!
# A bank sync across the services

The orchestrator, the two command consumers and the broker between them. The
outbox publisher may publish a row any number of times and in any order, and a
reply may be handled any number of times, so that deliveries are delayed,
duplicated and reordered at will. The timeout sweep runs at any moment.
-/

namespace FinanceTracker.System.BankSyncRuns

open Library.Calendar (Date)
open Library.Runs Shared.CommandConsumer Shared.SagaMessages Saga.Domain
  Saga.Orchestrator Saga.BankSync Saga.BankSyncCommands Saga.Decisions Saga.ReplyConsumer
  Transaction.Domain Transaction.BulkImport Transaction.ImportedRows
open Banking.MarkSyncComplete (BankConnection)

inductive Participant where
  | transaction
  | banking
  deriving DecidableEq, Repr

/-- `published` lists the outbox rows the publisher has sent, `acked` the replies
that saga-service has acknowledged. -/
structure BankSyncSystem where
  saga : BankSyncDb := SagaDb.empty
  transaction : Transaction.SagaCommands.Consumer
  banking : Banking.SagaCommands.Consumer
  published : List Nat := []
  acked : List (Participant × Nat) := []
  deriving DecidableEq

/-- What the services take from the language and from other tables. -/
structure Environment where
  reads : ItemReads
  copies : ReadCopies
  parseUuid : String → Option String

inductive Label where
  | startSaga (now : Instant) (event : BankSyncStart) (correlationId : Option String)
      (generatedId : String)
  | publish (index : Nat)
  | transaction (label : Transaction.SagaCommands.Label)
  | banking (label : Banking.SagaCommands.Label)
  | reply (participant : Participant) (index : Nat) (now : Instant) (acked : Bool)
  | checkTimeouts (now : Instant) (maxAge : Int)
  deriving DecidableEq

def transactionRoutingKeys : List String :=
  [Transaction.SagaCommands.bulkImportEventType, Transaction.SagaCommands.rollbackImportEventType]

def bankingRoutingKeys : List String :=
  [Banking.SagaCommands.fetchEventType, Banking.SagaCommands.markSyncCompleteEventType]

def replies (system : BankSyncSystem) : Participant → List SagaReply
  | .transaction =>
    system.transaction.replies.map Transaction.SagaCommands.PublishedReply.reply
  | .banking => system.banking.replies

def runTransaction (environment : Environment) (system : BankSyncSystem)
    (label : Transaction.SagaCommands.Label) : BankSyncSystem :=
  { system with
    transaction := Transaction.SagaCommands.step environment.reads environment.copies
      system.transaction label }

def runBanking (environment : Environment) (system : BankSyncSystem)
    (label : Banking.SagaCommands.Label) : BankSyncSystem :=
  { system with
    banking := Banking.SagaCommands.step environment.parseUuid system.banking label }

/-- The publisher sends an outbox row to the queue bound to its event type. -/
def publishEntry (environment : Environment) (system : BankSyncSystem) (index : Nat) :
    BankSyncSystem :=
  match system.saga.outbox[index]? with
  | none => system
  | some entry =>
    let system := { system with published := index :: system.published }
    let command := commandBody entry
    if command.eventType ∈ transactionRoutingKeys then
      runTransaction environment system (.deliver command)
    else if command.eventType ∈ bankingRoutingKeys then
      runBanking environment system (.deliver command)
    else system

def isSettled : Disposition → Bool
  | .retry _ => false
  | _ => true

def handleReply (system : BankSyncSystem) (participant : Participant) (index : Nat)
    (now : Instant) (acked : Bool) : BankSyncSystem :=
  match (replies system participant)[index]? with
  | none => system
  | some reply =>
    let outcome := handle system.saga now reply
    { system with
      saga := outcome.1
      acked :=
        if acked && isSettled outcome.2 then (participant, index) :: system.acked
        else system.acked }

def isTransactionDelivery : Transaction.SagaCommands.Label → Bool
  | .deliver _ => true
  | _ => false

def isBankingDelivery : Banking.SagaCommands.Label → Bool
  | .deliver _ => true
  | _ => false

/-- Commands reach a consumer through the publisher only. -/
def step (environment : Environment) (system : BankSyncSystem) : Label → BankSyncSystem
  | .startSaga now event correlationId generatedId =>
    { system with
      saga := runCall sagaRegistry system.saga
        (.startSaga now bankSyncDefinition.sagaType (startContext event) correlationId
          generatedId) }
  | .publish index => publishEntry environment system index
  | .transaction label =>
    if isTransactionDelivery label then system else runTransaction environment system label
  | .banking label =>
    if isBankingDelivery label then system else runBanking environment system label
  | .reply participant index now acked => handleReply system participant index now acked
  | .checkTimeouts now maxAge =>
    { system with saga := runCall sagaRegistry system.saga (.checkTimeouts now maxAge) }

def labelCall (system : BankSyncSystem) : Label → Option (Call BankSyncContext ResultData)
  | .startSaga now event correlationId generatedId =>
    some (.startSaga now bankSyncDefinition.sagaType (startContext event) correlationId
      generatedId)
  | .reply participant index now _ => (replies system participant)[index]?.map (replyCall now)
  | .checkTimeouts now maxAge => some (.checkTimeouts now maxAge)
  | _ => none

/-- A step moves one of the three parties. -/
inductive Moved (environment : Environment) (system : BankSyncSystem) (label : Label)
    (next : BankSyncSystem) : Prop
  | idle (saga : next.saga = system.saga) (transaction : next.transaction = system.transaction)
      (banking : next.banking = system.banking)
  | called (call : Call BankSyncContext ResultData) (isCall : labelCall system label = some call)
      (saga : next.saga = runCall sagaRegistry system.saga call)
      (transaction : next.transaction = system.transaction)
      (banking : next.banking = system.banking)
  | transaction (inner : Transaction.SagaCommands.Label)
      (origin : label = .transaction inner ∧ isTransactionDelivery inner = false ∨
        ∃ entry ∈ system.saga.outbox, inner = .deliver (commandBody entry))
      (saga : next.saga = system.saga)
      (transaction : next.transaction = Transaction.SagaCommands.step environment.reads
        environment.copies system.transaction inner)
      (banking : next.banking = system.banking)
  | banking (inner : Banking.SagaCommands.Label)
      (origin : label = .banking inner ∧ isBankingDelivery inner = false ∨
        ∃ entry ∈ system.saga.outbox, inner = .deliver (commandBody entry))
      (saga : next.saga = system.saga) (transaction : next.transaction = system.transaction)
      (banking : next.banking = Banking.SagaCommands.step environment.parseUuid system.banking
        inner)

variable (environment : Environment) (system : BankSyncSystem)

theorem publish_moved (index : Nat) :
    Moved environment system (.publish index) (publishEntry environment system index) := by
  unfold publishEntry
  split
  · exact .idle rfl rfl rfl
  · next entry found =>
    have member := List.mem_of_getElem? found
    dsimp only
    split
    · exact .transaction (.deliver (commandBody entry)) (Or.inr ⟨entry, member, rfl⟩) rfl rfl rfl
    · split
      · exact .banking (.deliver (commandBody entry)) (Or.inr ⟨entry, member, rfl⟩) rfl rfl rfl
      · exact .idle rfl rfl rfl

theorem reply_moved (participant : Participant) (index : Nat) (now : Instant) (acked : Bool) :
    Moved environment system (.reply participant index now acked)
      (handleReply system participant index now acked) := by
  unfold handleReply
  split
  · exact .idle rfl rfl rfl
  · next reply pending =>
    rcases handle_runs system.saga now reply with same | called
    · exact .idle same rfl rfl
    · apply Moved.called (replyCall now reply) _ called
      · rfl
      · rfl
      · exact congrArg (Option.map (replyCall now)) pending

theorem step_moved (label : Label) :
    Moved environment system label (step environment system label) := by
  cases label with
  | startSaga | checkTimeouts => exact .called _ rfl rfl rfl rfl
  | publish index => exact publish_moved environment system index
  | transaction inner =>
    simp only [step]
    split
    · exact .idle rfl rfl rfl
    · next own =>
      exact .transaction inner (Or.inl ⟨rfl, Bool.eq_false_iff.mpr own⟩) rfl rfl rfl
  | banking inner =>
    simp only [step]
    split
    · exact .idle rfl rfl rfl
    · next own =>
      exact .banking inner (Or.inl ⟨rfl, Bool.eq_false_iff.mpr own⟩) rfl rfl rfl
  | reply participant index now acked =>
    exact reply_moved environment system participant index now acked

theorem label_call_from_event {system : BankSyncSystem} {label : Label}
    {call : Call BankSyncContext ResultData} (isCall : labelCall system label = some call) :
    StartsFromEvent call := by
  intro now _ _ _ _ isStart
  subst isStart
  cases label with
  | startSaga now event =>
    cases isCall
    exact ⟨event, rfl⟩
  | reply =>
    obtain ⟨_, _, isReply⟩ := Option.map_eq_some_iff.mp isCall
    unfold replyCall at isReply
    split at isReply
    · contradiction
    · contradiction
  | publish | transaction | banking => contradiction
  | checkTimeouts => cases isCall

/-- Every command in the system belongs to a stored saga, the handlers match
their commands, and only finished rollbacks answer as compensations. -/
structure SystemInvariant (system : BankSyncSystem) : Prop where
  sagas : BankSyncInvariant system.saga
  transactionCommands : ∀ command, system.transaction.Holds command → Owned system.saga command
  bankingCommands : ∀ command, system.banking.Holds command → Owned system.saga command
  matching : Transaction.SagaCommands.RunningMatches system.transaction
  marking : Banking.SagaCommands.MarkingMatches system.banking
  compensationReplies : ∀ published ∈ system.transaction.replies,
    published.reply.isCompensation = true → published.command.eventType = rollbackEventType ∧
        published.command.sagaId = published.reply.sagaId ∧
        Owned system.saga published.command
  bankingReplies : Banking.SagaCommands.RepliesUnflagged system.banking

theorem transaction_keeps_compensations {environment : Environment} {saga : BankSyncDb}
    {consumer : Transaction.SagaCommands.Consumer} {label : Transaction.SagaCommands.Label}
    (commands : ∀ command, consumer.Holds command → Owned saga command)
    (matching : Transaction.SagaCommands.RunningMatches consumer)
    (before : ∀ published ∈ consumer.replies, published.reply.isCompensation = true →
      published.command.eventType = rollbackEventType ∧
        published.command.sagaId = published.reply.sagaId ∧ Owned saga published.command)
    {published : Transaction.SagaCommands.PublishedReply}
    (member : published ∈ (Transaction.SagaCommands.step environment.reads environment.copies
      consumer label).replies) (flagged : published.reply.isCompensation = true) :
    published.command.eventType = rollbackEventType ∧
      published.command.sagaId = published.reply.sagaId ∧ Owned saga published.command := by
  rcases Transaction.SagaCommands.step_replies member with
    earlier | ⟨running, data, isRunning, rfl, done | ⟨error, rfl⟩⟩
  · exact before published earlier flagged
  · obtain ⟨_, _, work, _⟩ :=
      Transaction.SagaCommands.finished_compensation done flagged
    have matched := matching running isRunning
    unfold Transaction.SagaCommands.WorkMatches at matched
    rw [work] at matched
    exact ⟨matched.1, rfl, commands _ (running_holds isRunning)⟩
  · contradiction

theorem step_keeps_system (label : Label) (invariant : SystemInvariant system) :
    SystemInvariant (step environment system label) := by
  have moved := step_moved environment system label
  generalize step environment system label = next at moved ⊢
  cases moved with
  | idle saga transaction banking =>
    constructor
    · rw [saga]
      exact invariant.sagas
    · rw [saga, transaction]
      exact invariant.transactionCommands
    · rw [saga, banking]
      exact invariant.bankingCommands
    · rw [transaction]
      exact invariant.matching
    · rw [banking]
      exact invariant.marking
    · rw [saga, transaction]
      exact invariant.compensationReplies
    · rw [banking]
      exact invariant.bankingReplies
  | called call isCall saga transaction banking =>
    obtain ⟨sagas, grows⟩ := run_call_bank_sync (label_call_from_event isCall) invariant.sagas
    constructor
    · rw [saga]
      exact sagas
    · rw [saga, transaction]
      intro command holds
      exact owned_grows grows (invariant.transactionCommands command holds)
    · rw [saga, banking]
      intro command holds
      exact owned_grows grows (invariant.bankingCommands command holds)
    · rw [transaction]
      exact invariant.matching
    · rw [banking]
      exact invariant.marking
    · rw [saga, transaction]
      intro published member flagged
      obtain ⟨isRollback, sameSaga, owned⟩ :=
        invariant.compensationReplies published member flagged
      exact ⟨isRollback, sameSaga, owned_grows grows owned⟩
    · rw [banking]
      exact invariant.bankingReplies
  | transaction inner origin saga transaction banking =>
    constructor
    · rw [saga]
      exact invariant.sagas
    · rw [saga, transaction]
      intro command holds
      rcases Transaction.SagaCommands.step_holds holds with before | isDelivery
      · exact invariant.transactionCommands command before
      · rcases origin with ⟨_, own⟩ | ⟨entry, member, delivered⟩
        · rw [isDelivery] at own
          contradiction
        · rw [isDelivery] at delivered
          cases delivered
          exact invariant.sagas.commands entry member
    · rw [saga, banking]
      exact invariant.bankingCommands
    · rw [transaction]
      exact Transaction.SagaCommands.step_keeps_matches _ inner invariant.matching
    · rw [banking]
      exact invariant.marking
    · rw [saga, transaction]
      intro _ member flagged
      exact transaction_keeps_compensations invariant.transactionCommands invariant.matching
        invariant.compensationReplies member flagged
    · rw [banking]
      exact invariant.bankingReplies
  | banking inner origin saga transaction banking =>
    constructor
    · rw [saga]
      exact invariant.sagas
    · rw [saga, transaction]
      exact invariant.transactionCommands
    · rw [saga, banking]
      intro command holds
      rcases Banking.SagaCommands.step_holds holds with before | isDelivery
      · exact invariant.bankingCommands command before
      · rcases origin with ⟨_, own⟩ | ⟨entry, member, delivered⟩
        · rw [isDelivery] at own
          contradiction
        · rw [isDelivery] at delivered
          cases delivered
          exact invariant.sagas.commands entry member
    · rw [transaction]
      exact invariant.matching
    · rw [banking]
      exact Banking.SagaCommands.step_keeps_marking _ inner invariant.marking
    · rw [saga, transaction]
      exact invariant.compensationReplies
    · rw [banking]
      exact Banking.SagaCommands.step_keeps_unflagged _ inner invariant.bankingReplies

/-- No saga and no message yet; any transactions and any connections. -/
def initial (table : TransactionTable) (connections : List BankConnection) : BankSyncSystem where
  transaction := { db := table.db }
  banking := { db := { connections := connections, outbox := [], processedEvents := [] } }

theorem initial_system (table : TransactionTable) (connections : List BankConnection) :
    SystemInvariant (initial table connections) := by
  have nothingHeld : ∀ (Work : Type) (command : SagaCommand),
      ¬ ({} : CommandQueue Work).Holds command := by
    intro _ _ holds
    rcases holds with ⟨message, member, _⟩ | ⟨running, isRunning, _⟩
    · contradiction
    · contradiction
  constructor
  · exact empty_bank_sync
  · intro command holds
    exact absurd holds (nothingHeld _ command)
  · intro command holds
    exact absurd holds (nothingHeld _ command)
  · intro _ _
    contradiction
  · intro _ _ _
    contradiction
  · intro _ _
    contradiction
  · intro _ _
    contradiction

/-- The step makes the orchestrator give up the STARTED saga: it accepts a failure
reply to its current step, or its sweep finds it stale. -/
def givesUp (system : BankSyncSystem) (sagaId : String) (label : Label) : Bool :=
  (labelCall system label).any fun call =>
    (getById system.saga sagaId).any fun saga =>
      saga.status = .started && unwinds call saga

def awaitsReply (system : BankSyncSystem) (sagaId : String) (participant : Participant) : Bool :=
  (replies system participant).zipIdx.any fun reply =>
    reply.1.sagaId = sagaId && !decide ((participant, reply.2) ∈ system.acked)

/-- No command of the saga waits to be published or handled, and no reply to it
waits to be acknowledged. -/
def NothingInFlight (system : BankSyncSystem) (sagaId : String) : Prop :=
  (∀ entry ∈ system.saga.outbox.zipIdx, entry.1.payload.sagaId = sagaId →
    entry.2 ∈ system.published) ∧
  (∀ message ∈ system.transaction.queue, message.body.sagaId ≠ sagaId) ∧
  (∀ running ∈ system.transaction.running, running.message.body.sagaId ≠ sagaId) ∧
  (∀ message ∈ system.banking.queue, message.body.sagaId ≠ sagaId) ∧
  (∀ running ∈ system.banking.running, running.message.body.sagaId ≠ sagaId) ∧
  awaitsReply system sagaId .transaction = false ∧ awaitsReply system sagaId .banking = false

instance (system : BankSyncSystem) (sagaId : String) :
    Decidable (NothingInFlight system sagaId) :=
  inferInstanceAs (Decidable (_ ∧ _ ∧ _ ∧ _ ∧ _ ∧ _ ∧ _))

def sampleEnvironment : Environment where
  reads :=
    { decimal := fun text => if text = "1.00" then some 1 else none
      date := fun text => if text = "2024-01-05" then Date.ofFields 2024 1 5 else none
      strip := id }
  copies := { categoryName := fun _ => none, subcategory := fun _ => none }
  parseUuid := some

def emptyTable : TransactionTable where
  db := { transactions := [], nextId := 1 }
  ids := fun _ member => nomatch member

def sampleConnection : BankConnection := { id := "c", accountId := 1 }

def sampleStart : BankSyncStart where
  connectionId := "c"
  userId := 1
  accountId := 1
  accountName := "Konto"
  bankAccountUid := "u"

def samplePurchase : FetchedItem where
  amount := some "1.00"
  transactionType := some "expense"
  date := some "2024-01-05"

def chunkCommitted : List Label :=
  [.startSaga 0 sampleStart (some "s") "g",
    .publish 0, .banking (.take 0), .banking (.fetch (.fetched [samplePurchase] 1 0 0)),
    .banking (.finish true), .reply .banking 0 1 true,
    .publish 1, .transaction (.take 0), .transaction .commitChunk]

def importReplied : List Label :=
  [.transaction (.finish true), .reply .transaction 0 2 true, .publish 2]

/-- mark_sync_complete raises on every attempt and is answered with a failure. -/
def markExhausted : List Label :=
  (List.replicate 4
    [.banking (.take 0), .banking (.raise "down"), .banking (.settle true)]).flatten ++
    [.reply .banking 1 3 true]

def sampleRun (labels : List Label) : BankSyncSystem :=
  runFrom (step sampleEnvironment) (initial emptyTable [sampleConnection]) labels

end FinanceTracker.System.BankSyncRuns
