import Mathlib
import FinanceTracker.Library.Runs
import FinanceTracker.Messaging.Outbox

/-!
# The outbox worker, statement by statement

`OutboxPublisherWorker` with each effect of its loop apart: the broker may refuse any
publish, the database may fail any statement or commit, the open transaction of a
worker may be lost under it, and the process may stop between any two effects. The
rows have the columns that a message is built from. The ghost fields `confirmed`,
`failures` and `purged` record what happened; no guard reads them.
-/

namespace FinanceTracker.Messaging.OutboxWorker

open Library.KeyedRows Outbox

structure OutboxEvent extends OutboxRow where
  eventType : String
  payloadJson : String
  deriving DecidableEq

def OutboxEvent.key (row : OutboxEvent) : ℕ := row.id

structure BrokerMessage where
  body : ByteArray
  routingKey : String
  deriving DecidableEq

def messageOf (entry : OutboxEvent) : BrokerMessage where
  body := entry.payloadJson.toUTF8
  routingKey := entry.eventType

def OutboxEvent.update (mark : Mark) (row : OutboxEvent) : OutboxEvent :=
  { row with toOutboxRow := mark.apply row.toOutboxRow }

def updateRow (rows : List OutboxEvent) (mark : Mark) : List OutboxEvent :=
  replace OutboxEvent.key rows mark.id (OutboxEvent.update mark)

structure WorkerConfig where
  batchSize : ℕ
  maxAttempts : Option ℕ
  commitPerEntry : Bool
  purgePublishedAfterDays : Option ℕ

/-- What `_try_publish` does next for the first entry. -/
inductive Attempt where
  | publishing
  | marking
  | recording
  deriving DecidableEq

structure RecordedFailure where
  id : ℕ
  recordedAt : Int
  deriving DecidableEq

/-- A session: the entries it has still to settle and its uncommitted updates. It is
not open any more once its transaction has failed or its connection was lost. -/
structure Session where
  entries : List OutboxEvent
  attempt : Attempt := .publishing
  marks : List Mark := []
  failures : List RecordedFailure := []
  locked : List ℕ
  isOpen : Bool := true

/-- Where a worker stands in `run_forever`; `left` counts the sessions that its batch
may still open. -/
inductive Position where
  | looping
  | inBatch (left : ℕ)
  | inSession (left : ℕ) (session : Session)
  | purging

structure State where
  rows : List OutboxEvent := []
  nextId : ℕ := 0
  workers : List Position
  confirmed : List (ℕ × BrokerMessage) := []
  failures : List RecordedFailure := []
  purged : List OutboxEvent := []

def start (workers : ℕ) : State := { workers := List.replicate workers .looping }

structure NewEvent where
  aggregate : Aggregate
  eventType : String
  payloadJson : String

inductive CommitOutcome where
  | returned
  | raisedCommitted
  | raisedRolledBack
  deriving DecidableEq

/-- An effect of a worker with what its environment answers. `loseTransaction` is a
failed statement or a lost connection, `crash` the end of the process. -/
inductive Action where
  | beginBatch
  | fetch (now : Int) (answer : Option (List OutboxEvent))
  | publish (returns : Bool)
  | markPublished (now : Int) (succeeds : Bool)
  | recordFailure (now : Int) (succeeds : Bool)
  | commit (outcome : CommitOutcome)
  | loseTransaction
  | purge (due : Bool) (now : Int) (outcome : CommitOutcome)
  | crash

inductive Label where
  | addEvents (createdAt : Int) (events : List NewEvent)
  | act (worker : ℕ) (action : Action)

def newEvents (nextId : ℕ) (createdAt : Int) : List NewEvent → List OutboxEvent
  | [] => []
  | event :: events =>
    { id := nextId, aggregate := event.aggregate, nextAttemptAt := createdAt
      createdAt := createdAt, eventType := event.eventType
      payloadJson := event.payloadJson } :: newEvents (nextId + 1) createdAt events

/-- `add`, `add_batch` and `add_entries` in a unit of work that commits. -/
def addEvents (state : State) (createdAt : Int) (events : List NewEvent) : State :=
  let added := newEvents state.nextId createdAt events
  { state with
    rows := state.rows ++ added
    nextId := state.nextId + events.length }

def Position.session : Position → Option Session
  | .inSession _ session => some session
  | _ => none

/-- The rows that the transaction of a worker holds locks on. -/
def Position.locked (position : Position) : List ℕ :=
  match position.session with
  | some session => if session.isOpen then session.locked else []
  | none => []

def lockedIds (workers : List Position) : List ℕ := workers.flatMap Position.locked

def setWorker (state : State) (worker : ℕ) (position : Position) : State :=
  { state with workers := state.workers.set worker position }

def WorkerConfig.rounds (config : WorkerConfig) : ℕ :=
  if config.commitPerEntry then config.batchSize else 1

def WorkerConfig.limit (config : WorkerConfig) : ℕ :=
  if config.commitPerEntry then 1 else config.batchSize

/-- The answer is one of `fetch_pending`, made of stored rows. -/
def CanFetch (config : WorkerConfig) (state : State) (now : Int) (picked : List OutboxEvent) :
    Prop :=
  (∀ entry ∈ picked, entry ∈ state.rows) ∧
    IsAnswer (state.rows.map OutboxEvent.toOutboxRow) (lockedIds state.workers) now config.limit
      (picked.map OutboxEvent.toOutboxRow)

instance (config : WorkerConfig) (state : State) (now : Int) (picked : List OutboxEvent) :
    Decidable (CanFetch config state now picked) :=
  inferInstanceAs (Decidable (_ ∧ _))

/-- The head of a round: a new session and its `fetch_pending`. -/
def fetchEntries (config : WorkerConfig) (state : State) (worker left : ℕ) (now : Int) :
    Option (List OutboxEvent) → State
  | none => setWorker state worker .looping
  | some picked =>
    if CanFetch config state now picked then
      match picked with
      | [] => setWorker state worker .purging
      | _ :: _ => setWorker state worker
          (.inSession left { entries := picked, locked := picked.map OutboxEvent.key })
    else state

def publishEntry (state : State) (worker left : ℕ) (session : Session) (returns : Bool) : State :=
  match session.entries, session.attempt with
  | entry :: _, .publishing =>
    if returns then
      setWorker
        { state with confirmed := state.confirmed ++ [(entry.id, messageOf entry)] } worker
        (.inSession left { session with attempt := .marking })
    else setWorker state worker (.inSession left { session with attempt := .recording })
  | _, _ => state

def markEntry (state : State) (worker left : ℕ) (session : Session) (now : Int)
    (succeeds : Bool) : State :=
  match session.entries, session.attempt with
  | entry :: entries, .marking =>
    if succeeds && session.isOpen then
      setWorker state worker (.inSession left
        { session with
          entries := entries
          attempt := .publishing
          marks := session.marks ++ [.published entry.id now] })
    else setWorker state worker (.inSession left { session with attempt := .recording })
  | _, _ => state

/-- The except branch of `_try_publish`; what it raises ends the batch. -/
def recordEntry (config : WorkerConfig) (state : State) (worker left : ℕ) (session : Session)
    (now : Int) (succeeds : Bool) : State :=
  match session.entries, session.attempt with
  | entry :: entries, .recording =>
    if succeeds && session.isOpen then
      setWorker state worker (.inSession left
        { session with
          entries := entries
          attempt := .publishing
          marks := session.marks ++ [recordFailure config.maxAttempts now entry.toOutboxRow]
          failures := session.failures ++ [⟨entry.id, now⟩] })
    else setWorker state worker .looping
  | _, _ => state

def saveMarks (state : State) (session : Session) : State :=
  { state with
    rows := session.marks.foldl updateRow state.rows
    failures := state.failures ++ session.failures }

def commitSession (state : State) (worker left : ℕ) (session : Session) : CommitOutcome → State
  | .returned => setWorker (saveMarks state session) worker (.inBatch left)
  | .raisedCommitted => setWorker (saveMarks state session) worker .looping
  | .raisedRolledBack => setWorker state worker .looping

def endSession (state : State) (worker left : ℕ) (session : Session) (outcome : CommitOutcome) :
    State :=
  match session.entries with
  | [] => commitSession state worker left session
      (if session.isOpen then outcome else .raisedRolledBack)
  | _ :: _ => state

def microsecondsPerDay : Int := 86400000000

def isPurgeable (cutoff : Int) (row : OutboxEvent) : Bool :=
  row.status = .published && row.publishedAt.any fun publishedAt => publishedAt < cutoff

def purgePublished (state : State) (cutoff : Int) : State :=
  { state with
    rows := state.rows.filter fun row => !isPurgeable cutoff row
    purged := state.purged ++ state.rows.filter (isPurgeable cutoff) }

/-- `_maybe_purge`; whether the interval has passed is the clock's choice. -/
def maybePurge (config : WorkerConfig) (state : State) (now : Int) (due : Bool)
    (outcome : CommitOutcome) : State :=
  match config.purgePublishedAfterDays with
  | none => state
  | some days =>
    if due && outcome ≠ .raisedRolledBack then
      purgePublished state (now - microsecondsPerDay * days)
    else state

def actAt (config : WorkerConfig) (state : State) (worker : ℕ) : Position → Action → State
  | _, .crash => setWorker state worker .looping
  | .looping, .beginBatch => setWorker state worker (.inBatch config.rounds)
  | .inBatch 0, .fetch .. => setWorker state worker .purging
  | .inBatch (left + 1), .fetch now answer => fetchEntries config state worker left now answer
  | .inSession left session, .publish returns => publishEntry state worker left session returns
  | .inSession left session, .markPublished now succeeds =>
    markEntry state worker left session now succeeds
  | .inSession left session, .recordFailure now succeeds =>
    recordEntry config state worker left session now succeeds
  | .inSession left session, .commit outcome => endSession state worker left session outcome
  | .inSession left session, .loseTransaction =>
    setWorker state worker (.inSession left { session with isOpen := false })
  | .purging, .purge due now outcome =>
    setWorker (maybePurge config state now due outcome) worker .looping
  | _, _ => state

def act (config : WorkerConfig) (state : State) (worker : ℕ) (action : Action) : State :=
  match state.workers[worker]? with
  | some position => actAt config state worker position action
  | none => state

def step (config : WorkerConfig) (state : State) : Label → State
  | .addEvents createdAt events => addEvents state createdAt events
  | .act worker action => act config state worker action

end FinanceTracker.Messaging.OutboxWorker
