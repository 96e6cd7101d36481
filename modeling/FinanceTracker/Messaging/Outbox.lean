import FinanceTracker.Library.KeyedRows
import Mathlib.Algebra.Group.Nat.Defs
import Mathlib.Data.List.Sort

/-!
# The outbox and its workers

The outbox table of a service, the queries of `OutboxRepository` and the publisher
workers. A transaction of a worker fetches due rows with `FOR UPDATE SKIP LOCKED`,
tries to publish each and commits its marks; a crash drops the marks and the locks.
The default mode fetches one row a transaction, the legacy mode a batch. The columns
that only the message is built from are left out. The ghost fields of the state
(`events`, `published`) and of a transaction (`seen`, `held`, `commitsSeen`,
`refused`) record what happened; no guard reads them.
-/

namespace FinanceTracker.Messaging.Outbox

open Library.KeyedRows

inductive OutboxStatus where
  | pending
  | failed
  | published
  | dead
  deriving DecidableEq

structure Aggregate where
  aggregateType : String
  aggregateId : String
  deriving DecidableEq

/-- Timestamps are in microseconds. The id, a fresh uuid, is a fresh number. -/
structure OutboxRow where
  id : ℕ
  aggregate : Aggregate
  status : OutboxStatus := .pending
  attempts : ℕ := 0
  nextAttemptAt : Int
  publishedAt : Option Int := none
  createdAt : Int
  deriving DecidableEq

def backoffBaseS : ℕ := 5
def maxBackoffS : ℕ := 300

def computeBackoff (attempts : ℕ) : ℕ := min (2 ^ attempts * backoffBaseS) maxBackoffS

def microseconds (seconds : ℕ) : Int := 1000000 * seconds

/-- The rows that the query of `fetch_pending` sees and can lock. -/
def isDue (now : Int) (held : List ℕ) (row : OutboxRow) : Bool :=
  (row.status = .pending || row.status = .failed) && row.nextAttemptAt ≤ now && row.id ∉ held

/-- The answers of the query: due rows in the order of `created_at`, ties in any
order, and no more than the limit; a due row is left out only behind a full answer. -/
structure IsAnswer (rows : List OutboxRow) (held : List ℕ) (now : Int) (limit : ℕ)
    (picked : List OutboxRow) : Prop where
  distinct : picked.Nodup
  due : ∀ row ∈ picked, row ∈ rows ∧ isDue now held row = true
  sorted : picked.Pairwise fun first second => first.createdAt ≤ second.createdAt
  limited : picked.length ≤ limit
  complete : ∀ row ∈ rows, isDue now held row = true → row ∈ picked ∨
    (picked.length = limit ∧ ∀ other ∈ picked, other.createdAt ≤ row.createdAt)

instance (rows : List OutboxRow) (held : List ℕ) (now : Int) (limit : ℕ)
    (picked : List OutboxRow) : Decidable (IsAnswer rows held now limit picked) :=
  decidable_of_iff
    (picked.Nodup ∧ (∀ row ∈ picked, row ∈ rows ∧ isDue now held row = true) ∧
      (picked.Pairwise fun first second => first.createdAt ≤ second.createdAt) ∧
      picked.length ≤ limit ∧
      ∀ row ∈ rows, isDue now held row = true → row ∈ picked ∨
        (picked.length = limit ∧ ∀ other ∈ picked, other.createdAt ≤ row.createdAt))
    ⟨fun ⟨distinct, due, sorted, limited, complete⟩ =>
      ⟨distinct, due, sorted, limited, complete⟩,
     fun answer => ⟨answer.distinct, answer.due, answer.sorted, answer.limited, answer.complete⟩⟩

/-- An uncommitted update of a locked row. -/
inductive Mark where
  | published (id : ℕ) (publishedAt : Int)
  | failed (id : ℕ) (nextAttemptAt : Int)
  | dead (id : ℕ)
  deriving DecidableEq

def Mark.id : Mark → ℕ
  | .published id _ => id
  | .failed id _ => id
  | .dead id => id

def Mark.apply : Mark → OutboxRow → OutboxRow
  | .published _ publishedAt, row =>
    { row with status := .published, publishedAt := some publishedAt }
  | .failed _ nextAttemptAt, row =>
    { row with
      status := .failed, attempts := row.attempts + 1, nextAttemptAt := nextAttemptAt }
  | .dead _, row => { row with status := .dead, attempts := row.attempts + 1 }

def applyMark (rows : List OutboxRow) (mark : Mark) : List OutboxRow :=
  replace OutboxRow.id rows mark.id mark.apply

def recordFailure (maxAttempts : Option ℕ) (now : Int) (entry : OutboxRow) : Mark :=
  if maxAttempts.any fun bound => bound ≤ entry.attempts + 1 then .dead entry.id
  else .failed entry.id (now + microseconds (computeBackoff entry.attempts))

/-- A transaction of a worker: the fetched entries that it has still to try and the
marks it has made. -/
structure Transaction where
  entries : List OutboxRow
  marks : List Mark := []
  locked : List ℕ
  fetchedAt : Int
  seen : List OutboxRow
  held : List ℕ
  commitsSeen : ℕ
  refused : List ℕ := []

structure CommittedEvent where
  id : ℕ
  aggregate : Aggregate
  commit : ℕ
  deriving DecidableEq

structure State where
  rows : List OutboxRow := []
  nextId : ℕ := 0
  transactions : List (Option Transaction) := []
  events : List CommittedEvent := []
  commits : ℕ := 0
  published : List ℕ := []

/-- How `publish_raw` ends: it returns, it raises after the broker took the message, or
it raises and the broker has not taken it. -/
inductive PublishOutcome where
  | confirmed
  | lostConfirm
  | refused
  deriving DecidableEq

inductive Label where
  | commitEvents (createdAt : Int) (aggregates : List Aggregate)
  | fetch (now : Int) (limit : ℕ) (picked : List OutboxRow)
  | publish (worker : ℕ) (now : Int) (outcome : PublishOutcome)
  | commit (worker : ℕ)
  | crash (worker : ℕ)
  | purge (cutoff : Int)

def newRows (nextId : ℕ) (createdAt : Int) : List Aggregate → List OutboxRow
  | [] => []
  | aggregate :: others =>
    { id := nextId, aggregate := aggregate, nextAttemptAt := createdAt,
      createdAt := createdAt } :: newRows (nextId + 1) createdAt others

/-- The rows locked by the open transactions. -/
def heldIds (transactions : List (Option Transaction)) : List ℕ :=
  transactions.flatMap fun transaction => (transaction.map Transaction.locked).getD []

/-- A unit of work of the service commits its events; `created_at` is the time at which
its transaction began. -/
def commitEvents (state : State) (createdAt : Int) (aggregates : List Aggregate) : State :=
  let added := newRows state.nextId createdAt aggregates
  { state with
    rows := state.rows ++ added
    nextId := state.nextId + aggregates.length
    events := state.events ++ added.map fun row => ⟨row.id, row.aggregate, state.commits⟩
    commits := state.commits + 1 }

def fetchPending (state : State) (now : Int) (limit : ℕ) (picked : List OutboxRow) : State :=
  let held := heldIds state.transactions
  if IsAnswer state.rows held now limit picked then
    { state with
      transactions := state.transactions ++ [some
        { entries := picked, locked := picked.map OutboxRow.id, fetchedAt := now
          seen := state.rows, held := held, commitsSeen := state.commits }] }
  else state

def setTransaction (state : State) (worker : ℕ) (transaction : Option Transaction) : State :=
  { state with transactions := state.transactions.set worker transaction }

def PublishOutcome.reachesBroker : PublishOutcome → Bool
  | .confirmed => true
  | .lostConfirm => true
  | .refused => false

def markOf (maxAttempts : Option ℕ) (now : Int) (entry : OutboxRow) : PublishOutcome → Mark
  | .confirmed => .published entry.id now
  | .lostConfirm => recordFailure maxAttempts now entry
  | .refused => recordFailure maxAttempts now entry

def tryPublish (maxAttempts : Option ℕ) (state : State) (worker : ℕ) (now : Int)
    (outcome : PublishOutcome) : State :=
  match state.transactions[worker]? with
  | some (some transaction) =>
    match transaction.entries with
    | [] => state
    | entry :: entries =>
      { setTransaction state worker (some
          { transaction with
            entries := entries
            marks := transaction.marks ++ [markOf maxAttempts now entry outcome]
            refused := if outcome.reachesBroker then transaction.refused
              else transaction.refused ++ [entry.id] }) with
        published := if outcome.reachesBroker then state.published ++ [entry.id]
          else state.published }
  | _ => state

def commitMarks (state : State) (worker : ℕ) : State :=
  match state.transactions[worker]? with
  | some (some transaction) =>
    if transaction.entries = [] then
      { setTransaction state worker none with
        rows := transaction.marks.foldl applyMark state.rows }
    else state
  | _ => state

def purgePublished (state : State) (cutoff : Int) : State :=
  { state with rows := state.rows.filter fun row =>
      !(row.status = .published && row.publishedAt.any fun publishedAt => publishedAt < cutoff) }

def step (maxAttempts : Option ℕ) (state : State) : Label → State
  | .commitEvents createdAt aggregates => commitEvents state createdAt aggregates
  | .fetch now limit picked => fetchPending state now limit picked
  | .publish worker now outcome => tryPublish maxAttempts state worker now outcome
  | .commit worker => commitMarks state worker
  | .crash worker => setTransaction state worker none
  | .purge cutoff => purgePublished state cutoff

theorem older_is_picked {rows picked : List OutboxRow} {held : List ℕ} {now : Int} {limit : ℕ}
    (answer : IsAnswer rows held now limit picked) {first second : OutboxRow}
    (stored : first ∈ rows) (due : isDue now held first = true) (member : second ∈ picked)
    (older : first.createdAt < second.createdAt) : first ∈ picked := by
  rcases answer.complete first stored due with inside | ⟨_, newest⟩
  · exact inside
  · have behind := newest second member
    omega

theorem older_stands_before {tried entries : List OutboxRow}
    (sorted : (tried ++ entries).Pairwise fun first second => first.createdAt ≤ second.createdAt)
    {first second : OutboxRow} (member : first ∈ tried ++ entries)
    (next : entries.head? = some second) (older : first.createdAt < second.createdAt) :
    first ∈ tried := by
  rcases List.mem_append.mp member with before | after
  · exact before
  · cases entries with
    | nil => contradiction
    | cons =>
      cases next
      rw [List.pairwise_append, List.pairwise_cons] at sorted
      rcases List.mem_cons.mp after with rfl | later
      · omega
      · have behind := sorted.2.1.1 first later
        omega

end FinanceTracker.Messaging.Outbox
