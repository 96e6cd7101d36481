import Mathlib.Data.List.Infix
import FinanceTracker.Library.Binary64
import FinanceTracker.Library.KeyedRows
import FinanceTracker.Library.Runs
import FinanceTracker.Library.Sessions

/-!
# The transaction.created consumer of categorization-service

Deliveries to any number of consumer instances, statement by statement under READ
COMMITTED: the duplicate check, the audit row and the outbox row, the inbox row, the
commit. A delivery that comes again, by the retry ladder or after a crash, is one more
session. The INSERT of an inbox row waits for an uncommitted one with its key. The inbox
also holds the rows of another consumer of the service, and every start of an instance
sweeps it.

The audit row and the outbox row carry no correlation id. That of the message they were
written for stands in them as a ghost, and `deletions` keeps what the sweeps removed.
-/

namespace FinanceTracker.Categorization.TransactionConsumer

open Library Binary64 Runs

def queueName : String := "categorization.transaction_created"

/-- The other consumer of the service with rows in the inbox. -/
def correctedQueueName : String := "categorization.category_corrected"

def modelVersion : String := "rules-keyword-v1"

/-- Microseconds. -/
abbrev Instant := Int

def cleanupDays : Int := 30

def cleanupAge : Int := cleanupDays * 24 * 60 * 60 * 1000000

def cleanupSafetyThreshold : ℚ := nearestDouble (9 / 10)

structure TransactionCreated where
  correlationId : String
  eventType : String := "transaction.created"
  transactionId : Int
  userId : Option Int
  description : String
  amount : String
  transactionType : String
  identified : correlationId ≠ ""
  deriving DecidableEq

/-- What the pipeline answers, and the names that the tables have for it. -/
structure Categorized where
  categoryId : Int
  categoryName : Option String := none
  subcategoryId : Int
  subcategoryName : Option String := none
  merchantId : Option Int := none
  tier : String
  confidence : String
  deriving DecidableEq

structure ResultRow where
  messageId : String
  transactionId : Int
  categoryId : Int
  subcategoryId : Int
  merchantId : Option Int
  tier : String
  confidence : String
  modelVersion : String
  deriving DecidableEq

structure CategorizedEvent where
  messageId : String
  eventType : String := "transaction.categorized"
  transactionId : Int
  categoryId : Int
  categoryName : String
  subcategoryId : Int
  subcategoryName : String
  merchantId : Option Int
  tier : String
  confidence : String
  modelVersion : String
  aggregateType : String := "transaction"
  aggregateId : String
  deriving DecidableEq

/-- The id column is a 32 bit integer. -/
structure InboxRow where
  id : Nat
  messageId : String
  consumerName : String
  eventType : String
  processedAt : Instant
  inRange : id < 2 ^ 31
  deriving DecidableEq

def resultRow (message : TransactionCreated) (result : Categorized) : ResultRow where
  messageId := message.correlationId
  transactionId := message.transactionId
  categoryId := result.categoryId
  subcategoryId := result.subcategoryId
  merchantId := result.merchantId
  tier := result.tier
  confidence := result.confidence
  modelVersion := modelVersion

def categorizedEvent (message : TransactionCreated) (result : Categorized) :
    CategorizedEvent where
  messageId := message.correlationId
  transactionId := message.transactionId
  categoryId := result.categoryId
  categoryName := if result.categoryId = 0 then "" else result.categoryName.getD ""
  subcategoryId := result.subcategoryId
  subcategoryName := if result.subcategoryId = 0 then "" else result.subcategoryName.getD ""
  merchantId := result.merchantId
  tier := result.tier
  confidence := result.confidence
  modelVersion := modelVersion
  aggregateId := toString message.transactionId

def CategorizedEvent.row (event : CategorizedEvent) : ResultRow where
  messageId := event.messageId
  transactionId := event.transactionId
  categoryId := event.categoryId
  subcategoryId := event.subcategoryId
  merchantId := event.merchantId
  tier := event.tier
  confidence := event.confidence
  modelVersion := event.modelVersion

inductive CommitError where
  | uniqueViolation (table constraint : String)
  | connectionLost
  deriving DecidableEq

/-- `str(exc)`: the message of the database and the statement. -/
def CommitError.text : CommitError → String
  | .uniqueViolation table constraint =>
    "duplicate key value violates unique constraint \"" ++ constraint ++
      "\" [SQL: INSERT INTO " ++ table ++ "]"
  | .connectionLost => "connection was closed in the middle of operation"

def CommitError.isIntegrityError : CommitError → Bool
  | .uniqueViolation _ _ => true
  | .connectionLost => false

def containsText (needle text : String) : Bool :=
  decide (needle.toList <:+: text.toLower.toList)

def isBenignRace (failure : CommitError) : Bool :=
  failure.isIntegrityError && (containsText "processed_events" failure.text ||
    containsText "uq_processed_events" failure.text)

/-- `skipped` returns without writing; `failed` goes to the retry ladder. -/
inductive Phase where
  | received
  | checked
  | written (result : ResultRow) (event : CategorizedEvent)
  | inboxed (result : ResultRow) (event : CategorizedEvent) (row : InboxRow)
  | committed
  | skipped
  | failed
  deriving DecidableEq

/-- `startedAt` is the start of the transaction, which `processed_at` gets. -/
structure Session where
  message : TransactionCreated
  startedAt : Instant := 0
  phase : Phase := .received
  deriving DecidableEq

/-- The rows that a SELECT counted stand for their number. -/
inductive SweepPhase where
  | started
  | counted (total : List InboxRow)
  | approved (total old : List InboxRow)
  | ended
  deriving DecidableEq

structure Sweep where
  startedAt : Instant
  phase : SweepPhase := .started
  deriving DecidableEq

structure Deletion where
  startedAt : Instant
  total : List InboxRow
  removed : List InboxRow
  deriving DecidableEq

structure State where
  now : Instant := 0
  results : List ResultRow := []
  outbox : List CategorizedEvent := []
  inbox : List InboxRow := []
  nextInboxId : Nat := 1
  sessions : List Session := []
  sweeps : List Sweep := []
  deletions : List Deletion := []

def State.setSession (state : State) (index : Nat) (session : Session) : State :=
  { state with sessions := state.sessions.set index session }

def State.setSweep (state : State) (index : Nat) (sweep : Sweep) : State :=
  { state with sweeps := state.sweeps.set index sweep }

def Session.at (session : Session) (phase : Phase) : Session := { session with phase := phase }

/-- The key of an inbox row that is inserted and not committed. -/
def pendingMessage (session : Session) : Option String :=
  match session.phase with
  | .inboxed _ _ _ => some session.message.correlationId
  | _ => none

def heldByOther (state : State) (index : Nat) (messageId : String) : Bool :=
  (List.range state.sessions.length).any fun other =>
    other ≠ index && state.sessions[other]?.bind pendingMessage = some messageId

def isOwn (row : InboxRow) : Bool := row.consumerName = queueName

def isDuplicate (inbox : List InboxRow) (messageId : String) : Bool :=
  inbox.any fun row => row.messageId = messageId && row.consumerName = queueName

def check (state : State) (session : Session) : Session :=
  { session with
    startedAt := state.now
    phase := if isDuplicate state.inbox session.message.correlationId then .skipped else .checked }

/-- `session.commit()` has raised. -/
def afterCommitError (failure : CommitError) : Phase :=
  if isBenignRace failure then .skipped else .failed

def insertInbox (state : State) (index : Nat) (session : Session) (result : ResultRow)
    (event : CategorizedEvent) : State :=
  if heldByOther state index session.message.correlationId then state
  else if isDuplicate state.inbox session.message.correlationId then
    state.setSession index (session.at
      (afterCommitError (.uniqueViolation "processed_events" "uq_processed_events")))
  else if inRange : state.nextInboxId < 2 ^ 31 then
    let row : InboxRow :=
      { id := state.nextInboxId
        messageId := session.message.correlationId
        consumerName := queueName
        eventType := session.message.eventType
        processedAt := session.startedAt
        inRange := inRange }
    { state with nextInboxId := state.nextInboxId + 1 }.setSession index
      (session.at (.inboxed result event row))
  else state.setSession index (session.at .failed)

/-- What the transaction of a session leaves when it commits. -/
def commit (state : State) (result : ResultRow) (event : CategorizedEvent) (row : InboxRow) :
    State :=
  { state with
    results := state.results ++ [result]
    outbox := state.outbox ++ [event]
    inbox := state.inbox ++ [row] }

def advance (state : State) (index : Nat) (result : Categorized) (session : Session) : State :=
  match session.phase with
  | .received => state.setSession index (check state session)
  | .checked =>
    state.setSession index (session.at (.written (resultRow session.message result)
      (categorizedEvent session.message result)))
  | .written row event => insertInbox state index session row event
  | .inboxed result event row =>
    (commit state result event row).setSession index (session.at .committed)
  | .committed => state
  | .skipped => state
  | .failed => state

/-- An exception, a lost connection or a crash; a commit under way may have gone through. -/
def fail (state : State) (index : Nat) (commits : Bool) (session : Session) : State :=
  match session.phase with
  | .committed => state
  | .skipped => state
  | .failed => state
  | .inboxed result event row =>
    if commits then (commit state result event row).setSession index (session.at .failed)
    else state.setSession index (session.at (afterCommitError .connectionLost))
  | _ => state.setSession index (session.at .failed)

def isOld (startedAt : Instant) (row : InboxRow) : Bool :=
  row.processedAt < startedAt - cleanupAge

/-- The share to delete is over the threshold; the quotient is a double. -/
def isUnsafe (total old : Nat) : Bool :=
  total ≠ 0 && old ≠ 0 && decide (cleanupSafetyThreshold < nearestDouble (old / total))

def sweepOn (state : State) (index : Nat) (sweep : Sweep) : State :=
  match sweep.phase with
  | .started => state.setSweep index { sweep with phase := .counted state.inbox }
  | .counted total =>
    let old := state.inbox.filter (isOld sweep.startedAt)
    state.setSweep index { sweep with
      phase := if isUnsafe total.length old.length then .ended else .approved total old }
  | .approved total _ =>
    { state with
      inbox := state.inbox.filter fun row => !isOld sweep.startedAt row
      sweeps := state.sweeps.set index { sweep with phase := .ended }
      deletions := state.deletions ++
        [{ startedAt := sweep.startedAt
           total := total
           removed := state.inbox.filter (isOld sweep.startedAt) }] }
  | .ended => state

def insertOther (state : State) (messageId eventType : String) : State :=
  if inRange : state.nextInboxId < 2 ^ 31 then
    if state.inbox.any fun row =>
        row.messageId = messageId && row.consumerName = correctedQueueName then state
    else
      { state with
        nextInboxId := state.nextInboxId + 1
        inbox := state.inbox ++
          [{ id := state.nextInboxId
             messageId := messageId
             consumerName := correctedQueueName
             eventType := eventType
             processedAt := state.now
             inRange := inRange }] }
  else state

inductive Label where
  | wait (duration : Nat)
  | deliver (message : TransactionCreated)
  | advance (index : Nat) (result : Categorized)
  | fail (index : Nat) (commits : Bool)
  | correct (messageId eventType : String)
  | start
  | sweep (index : Nat)
  | failSweep (index : Nat)

def step (state : State) : Label → State
  | .wait duration => { state with now := state.now + duration }
  | .deliver message => { state with sessions := state.sessions ++ [{ message := message }] }
  | .advance index result =>
    match state.sessions[index]? with
    | none => state
    | some session => advance state index result session
  | .fail index commits =>
    match state.sessions[index]? with
    | none => state
    | some session => fail state index commits session
  | .correct messageId eventType => insertOther state messageId eventType
  | .start => { state with sweeps := state.sweeps ++ [{ startedAt := state.now }] }
  | .sweep index =>
    match state.sweeps[index]? with
    | none => state
    | some sweep => sweepOn state index sweep
  | .failSweep index =>
    match state.sweeps[index]? with
    | none => state
    | some sweep => state.setSweep index { sweep with phase := .ended }

def consumerRun (labels : List Label) : State :=
  runFrom step {} labels

end FinanceTracker.Categorization.TransactionConsumer
