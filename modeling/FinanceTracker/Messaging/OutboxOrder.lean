import FinanceTracker.Library.Runs
import FinanceTracker.Library.Sessions
import FinanceTracker.Messaging.Outbox

/-!
# The order of an aggregate's events

An event is overtaken when a later one of its aggregate is published first. The
query of `fetch_pending` passes an older event over in three ways: it is backed off,
another worker has it locked, or its `created_at` is not smaller. In a batch it can
also be refused by the broker before a later entry is tried. The main result says
that these are all the ways: order is kept in every state of a run exactly when no
event is published past one that was passed over or refused.
-/

namespace FinanceTracker.Messaging.OutboxOrder

open Library KeyedRows Runs List
open Library.Sessions (get_set_cases)
open Outbox

def IsDead (state : State) (id : ℕ) : Prop := ∃ row ∈ state.rows, row.id = id ∧ row.status = .dead

instance (state : State) (id : ℕ) : Decidable (IsDead state id) := by
  unfold IsDead
  infer_instance

def isLive (row : OutboxRow) : Bool := row.status = .pending || row.status = .failed

structure Marking (marks : List Mark) (before after : List OutboxRow) : Prop where
  ids : after.map OutboxRow.id = before.map OutboxRow.id
  origin : ∀ row ∈ after, ∃ old ∈ before, old.id = row.id ∧ old.aggregate = row.aggregate ∧
    (row.status = .published →
      old.status = .published ∨ ∃ publishedAt, .published row.id publishedAt ∈ marks)
  others : ∀ row ∈ before, (∀ mark ∈ marks, mark.id ≠ row.id) → row ∈ after

theorem apply_mark_keeps_id (mark : Mark) (row : OutboxRow) : (mark.apply row).id = row.id := by
  cases mark <;> rfl

theorem apply_mark_keeps_aggregate (mark : Mark) (row : OutboxRow) :
    (mark.apply row).aggregate = row.aggregate := by
  cases mark <;> rfl

variable {row entry : OutboxRow} {state : State} {transaction : Transaction} {id worker : ℕ}
  {published : List ℕ} {entries : List OutboxRow}

theorem published_by_mark {mark : Mark} (published : (mark.apply row).status = .published) :
    ∃ publishedAt, mark = .published mark.id publishedAt := by
  cases mark with
  | published id publishedAt => exact ⟨publishedAt, rfl⟩
  | failed | dead => simp [Mark.apply] at published

theorem apply_marks (marks : List Mark) (rows : List OutboxRow) :
    Marking marks rows (marks.foldl applyMark rows) := by
  induction marks generalizing rows with
  | nil => exact ⟨rfl, fun row member => ⟨row, member, rfl, rfl, Or.inl⟩, fun row member _ => member⟩
  | cons mark marks ih =>
    have rest := ih (applyMark rows mark)
    have keeps : ∀ row ∈ rows, row.id = mark.id → (mark.apply row).id = row.id :=
      fun row _ _ => apply_mark_keeps_id mark row
    constructor
    · rw [foldl_cons, rest.ids]
      exact replace_keys keeps
    · intro row member
      obtain ⟨middle, middleMember, sameId, sameAggregate, wasPublished⟩ := rest.origin row member
      rcases mem_replace.mp middleMember with ⟨stored, _⟩ | ⟨old, stored, here, rfl⟩
      · refine ⟨middle, stored, sameId, sameAggregate, fun published => ?_⟩
        rcases wasPublished published with before | ⟨publishedAt, marked⟩
        · exact Or.inl before
        · exact Or.inr ⟨publishedAt, mem_cons_of_mem _ marked⟩
      · rw [apply_mark_keeps_id] at sameId
        rw [apply_mark_keeps_aggregate] at sameAggregate
        refine ⟨old, stored, sameId, sameAggregate, fun published => Or.inr ?_⟩
        rcases wasPublished published with byMark | ⟨publishedAt, marked⟩
        · obtain ⟨publishedAt, isPublished⟩ := published_by_mark byMark
          rw [← here, sameId] at isPublished
          exact ⟨publishedAt, isPublished ▸ mem_cons_self⟩
        · exact ⟨publishedAt, mem_cons_of_mem _ marked⟩
    · intro _ member unmarked
      apply rest.others
      · exact mem_replace.mpr (Or.inl
          ⟨member, Ne.symm (unmarked mark mem_cons_self)⟩)
      · intro other otherMember
        exact unmarked other (mem_cons_of_mem _ otherMember)

structure TransactionInv (state : State) (transaction : Transaction) : Prop where
  answer : ∃ tried limit, IsAnswer transaction.seen transaction.held transaction.fetchedAt limit
        (tried ++ transaction.entries) ∧
      transaction.locked = (tried ++ transaction.entries).map OutboxRow.id ∧
      ∀ row ∈ tried, row.id ∈ state.published ∨ row.id ∈ transaction.refused
  commitsSeen : transaction.commitsSeen ≤ state.commits
  seenEvents : ∀ event ∈ state.events, event.commit < transaction.commitsSeen →
    (∃ row ∈ transaction.seen, row.id = event.id) ∨ event.id ∈ state.published
  seenRows : ∀ row ∈ transaction.seen, ∃ event ∈ state.events,
    event.id = row.id ∧ event.aggregate = row.aggregate ∧ event.commit < transaction.commitsSeen
  seenPublished : ∀ row ∈ transaction.seen, row.status = .published → row.id ∈ state.published
  seenDead : ∀ row ∈ transaction.seen, row.status = .dead → IsDead state row.id
  lockedLive : ∀ id ∈ transaction.locked, ∃ row ∈ state.rows, row.id = id ∧ isLive row = true
  marksLocked : ∀ mark ∈ transaction.marks, mark.id ∈ transaction.locked
  marksPublished : ∀ id publishedAt, .published id publishedAt ∈ transaction.marks →
    id ∈ state.published

structure OutboxInv (state : State) : Prop where
  distinct : DistinctKeys OutboxRow.id state.rows
  rowEvents : ∀ row ∈ state.rows, ∃ event ∈ state.events,
    event.id = row.id ∧ event.aggregate = row.aggregate
  eventBounds : ∀ event ∈ state.events, event.id < state.nextId ∧ event.commit < state.commits
  eventsDistinct : (state.events.map CommittedEvent.id).Nodup
  kept : ∀ event ∈ state.events,
    (∃ row ∈ state.rows, row.id = event.id) ∨ event.id ∈ state.published
  rowsPublished : ∀ row ∈ state.rows, row.status = .published → row.id ∈ state.published
  publishedBound : ∀ id ∈ state.published, id < state.nextId
  transactions : ∀ (worker : ℕ) transaction,
    state.transactions[worker]? = some (some transaction) → TransactionInv state transaction
  exclusive : ∀ (first second : ℕ) left right id, state.transactions[first]? = some (some left) →
      state.transactions[second]? = some (some right) →
        id ∈ left.locked → id ∈ right.locked → first = second

theorem row_eq_of_id (invariant : OutboxInv state) {left right : OutboxRow}
    (leftStored : left ∈ state.rows) (rightStored : right ∈ state.rows) (same : left.id = right.id) :
    left = right :=
  inj_on_of_nodup_map invariant.distinct leftStored rightStored same

theorem dead_not_locked (invariant : OutboxInv state) (holds : TransactionInv state transaction)
    (locked : id ∈ transaction.locked) :
    ¬ IsDead state id := by
  rintro ⟨row, stored, sameId, dead⟩
  obtain ⟨_, heldStored, heldId, live⟩ := holds.lockedLive id locked
  rw [row_eq_of_id invariant stored heldStored (sameId.trans heldId.symm)] at dead
  simp [isLive, dead] at live

/-- What a step leaves of the state that a transaction relies on, apart from the rows
it touches. -/
structure Grows (state after : State) (touched : List ℕ) : Prop where
  published : ∀ id ∈ state.published, id ∈ after.published
  events : ∀ event ∈ state.events, event ∈ after.events
  newEvents : ∀ event ∈ after.events,
    event ∈ state.events ∨ (state.commits ≤ event.commit ∧ event.id ∉ state.published)
  commits : state.commits ≤ after.commits
  rows : ∀ row ∈ state.rows, row.id ∉ touched → row.status ≠ .published → row ∈ after.rows
  dead : ∀ id, IsDead state id → IsDead after id

variable {after : State} {touched : List ℕ} {transactions : List (Option Transaction)}
  {outcome : PublishOutcome} {second : ℕ}

theorem transaction_inv_grows (grows : Grows state after touched)
    (holds : TransactionInv state transaction) (untouched : ∀ id ∈ transaction.locked, id ∉ touched) : TransactionInv after transaction where
  answer := by
    obtain ⟨tried, limit, answer, locked, tries⟩ := holds.answer
    refine ⟨tried, limit, answer, locked, fun row member => ?_⟩
    exact (tries row member).imp_left (grows.published row.id)
  commitsSeen := le_trans holds.commitsSeen grows.commits
  seenEvents event member early := by
    rcases grows.newEvents event member with old | ⟨new, _⟩
    · exact (holds.seenEvents event old early).imp_right (grows.published event.id)
    · have bound := holds.commitsSeen
      omega
  seenRows row member := by
    obtain ⟨event, stored, rest⟩ := holds.seenRows row member
    exact ⟨event, grows.events event stored, rest⟩
  seenPublished row member published :=
    grows.published row.id (holds.seenPublished row member published)
  seenDead row member dead := grows.dead row.id (holds.seenDead row member dead)
  lockedLive id locked := by
    obtain ⟨row, stored, sameId, live⟩ := holds.lockedLive id locked
    refine ⟨row, grows.rows row stored ?_ ?_, sameId, live⟩
    · rw [sameId]
      exact untouched id locked
    · intro published
      simp [isLive, published] at live
  marksLocked := holds.marksLocked
  marksPublished id publishedAt marked :=
    grows.published id (holds.marksPublished id publishedAt marked)

theorem start_inv : OutboxInv {} where
  distinct := nodup_nil
  rowEvents := by simp
  eventBounds := by simp
  eventsDistinct := nodup_nil
  kept := by simp
  rowsPublished := by simp
  publishedBound := by simp
  transactions := by simp
  exclusive := by simp

theorem new_rows_fields (nextId : ℕ) (createdAt : Int) (aggregates : List Aggregate) :
    ∀ row ∈ newRows nextId createdAt aggregates,
      nextId ≤ row.id ∧ row.id < nextId + aggregates.length ∧ row.status = .pending := by
  induction aggregates generalizing nextId with
  | nil => simp [newRows]
  | cons aggregate others ih =>
    intro row member
    rw [newRows, mem_cons] at member
    rw [length_cons]
    rcases member with rfl | later
    · exact ⟨le_refl _, by simp, rfl⟩
    · obtain ⟨_, _, status⟩ := ih (nextId + 1) row later
      exact ⟨by omega, by omega, status⟩

theorem new_rows_ids (nextId : ℕ) (createdAt : Int) (aggregates : List Aggregate) :
    ((newRows nextId createdAt aggregates).map OutboxRow.id).Nodup := by
  induction aggregates generalizing nextId with
  | nil => exact nodup_nil
  | cons aggregate others ih =>
    rw [newRows, map_cons, nodup_cons]
    refine ⟨?_, ih (nextId + 1)⟩
    intro member
    obtain ⟨row, later, same⟩ := mem_map.mp member
    have low := (new_rows_fields (nextId + 1) createdAt others row later).1
    simp only at same
    omega

theorem commit_events_grows (invariant : OutboxInv state) (createdAt : Int)
    (aggregates : List Aggregate) :
    Grows state (commitEvents state createdAt aggregates) [] := by
  refine ⟨fun id member => member, fun event member => mem_append_left _ member, ?_,
    Nat.le_succ _, fun row member _ _ => mem_append_left _ member, ?_⟩
  · refine forall_mem_append.mpr ⟨fun _ old => Or.inl old, ?_⟩
    intro _ new
    obtain ⟨row, added, rfl⟩ := mem_map.mp new
    refine Or.inr ⟨le_refl _, fun published => ?_⟩
    have below := invariant.publishedBound row.id published
    have above := (new_rows_fields state.nextId createdAt aggregates row added).1
    omega
  · rintro id ⟨row, member, same, dead⟩
    exact ⟨row, mem_append_left _ member, same, dead⟩

theorem commit_events_inv (invariant : OutboxInv state) (createdAt : Int)
    (aggregates : List Aggregate) : OutboxInv (commitEvents state createdAt aggregates) := by
  have fields := new_rows_fields state.nextId createdAt aggregates
  have grows := commit_events_grows invariant createdAt aggregates
  have rowBound : ∀ row ∈ state.rows, row.id < state.nextId := by
    intro row member
    obtain ⟨event, stored, same, _⟩ := invariant.rowEvents row member
    rw [← same]
    exact (invariant.eventBounds event stored).1
  constructor
  · simp only [DistinctKeys, commitEvents, map_append, nodup_append]
    refine ⟨invariant.distinct, new_rows_ids state.nextId createdAt aggregates, ?_⟩
    intro _ firstMember _ secondMember
    obtain ⟨row, stored, rfl⟩ := mem_map.mp firstMember
    obtain ⟨added, isNew, rfl⟩ := mem_map.mp secondMember
    have below := rowBound row stored
    have above := (fields added isNew).1
    omega
  · intro row member
    rcases mem_append.mp member with stored | added
    · obtain ⟨event, present, same⟩ := invariant.rowEvents row stored
      exact ⟨event, mem_append_left _ present, same⟩
    · exact ⟨⟨row.id, row.aggregate, state.commits⟩,
        mem_append_right _ (mem_map.mpr ⟨row, added, rfl⟩), rfl, rfl⟩
  · intro event member
    rcases mem_append.mp member with old | new
    · have bounds := invariant.eventBounds event old
      simp only [commitEvents]
      omega
    · obtain ⟨row, added, rfl⟩ := mem_map.mp new
      have high := (fields row added).2.1
      exact ⟨high, Nat.lt_succ_self _⟩
  · simp only [commitEvents, map_append, map_map, nodup_append]
    refine ⟨invariant.eventsDistinct, new_rows_ids state.nextId createdAt aggregates, ?_⟩
    intro _ firstMember _ secondMember
    obtain ⟨event, stored, rfl⟩ := mem_map.mp firstMember
    obtain ⟨added, isNew, rfl⟩ := mem_map.mp secondMember
    have below := (invariant.eventBounds event stored).1
    have above := (fields added isNew).1
    simp only [Function.comp_apply]
    omega
  · intro event member
    rcases mem_append.mp member with old | new
    · rcases invariant.kept event old with ⟨row, stored, same⟩ | logged
      · exact Or.inl ⟨row, mem_append_left _ stored, same⟩
      · exact Or.inr logged
    · obtain ⟨row, added, rfl⟩ := mem_map.mp new
      exact Or.inl ⟨row, mem_append_right _ added, rfl⟩
  · intro row member published
    rcases mem_append.mp member with stored | added
    · exact invariant.rowsPublished row stored published
    · rw [(fields row added).2.2] at published
      contradiction
  · intro id member
    have bound := invariant.publishedBound id member
    simp only [commitEvents]
    omega
  · intro worker transaction found
    exact transaction_inv_grows grows (invariant.transactions worker transaction found) (by simp)
  · exact invariant.exclusive

theorem grows_of_transactions (state : State) (transactions : List (Option Transaction)) :
    Grows state { state with transactions := transactions } [] where
  published _ member := member
  events _ member := member
  newEvents _ member := Or.inl member
  commits := le_refl _
  rows _ member _ _ := member
  dead _ dead := dead

theorem inv_of_transactions (invariant : OutboxInv state)
    (each : ∀ (worker : ℕ) transaction, transactions[worker]? = some (some transaction) →
      TransactionInv state transaction)
    (exclusive : ∀ (first second : ℕ) left right id, transactions[first]? = some (some left) →
      transactions[second]? = some (some right) →
        id ∈ left.locked → id ∈ right.locked → first = second) :
    OutboxInv { state with transactions := transactions } where
  distinct := invariant.distinct
  rowEvents := invariant.rowEvents
  eventBounds := invariant.eventBounds
  eventsDistinct := invariant.eventsDistinct
  kept := invariant.kept
  rowsPublished := invariant.rowsPublished
  publishedBound := invariant.publishedBound
  transactions worker transaction found :=
    transaction_inv_grows (grows_of_transactions state transactions)
      (each worker transaction found) (by simp)
  exclusive := exclusive

theorem mem_held_ids (found : transactions[worker]? = some (some transaction))
    (locked : id ∈ transaction.locked) :
    id ∈ heldIds transactions := by
  unfold heldIds
  rw [mem_flatMap]
  exact ⟨some transaction, mem_of_getElem? found, by simpa using locked⟩

theorem live_of_due {now : Int} {held : List ℕ} (due : isDue now held row = true) :
    isLive row = true ∧ row.id ∉ held := by
  simp only [isDue, Bool.and_eq_true, decide_eq_true_eq] at due
  exact ⟨due.1.1, due.2⟩

theorem fetch_inv (invariant : OutboxInv state) (now : Int) (limit : ℕ) (picked : List OutboxRow) :
    OutboxInv (fetchPending state now limit picked) := by
  unfold fetchPending
  dsimp only
  split
  next answer =>
    have fresh : TransactionInv state
        { entries := picked, locked := picked.map OutboxRow.id, fetchedAt := now,
          seen := state.rows, held := heldIds state.transactions,
          commitsSeen := state.commits } := by
      refine ⟨⟨[], limit, answer, rfl, by simp⟩, le_refl _, ?_, ?_, invariant.rowsPublished, ?_, ?_,
        by simp, by simp⟩
      · intro event member _
        exact invariant.kept event member
      · intro row member
        obtain ⟨event, stored, same, sameAggregate⟩ := invariant.rowEvents row member
        exact ⟨event, stored, same, sameAggregate, (invariant.eventBounds event stored).2⟩
      · intro row member dead
        exact ⟨row, member, rfl, dead⟩
      · intro _ locked
        obtain ⟨row, member, rfl⟩ := mem_map.mp locked
        obtain ⟨stored, due⟩ := answer.due row member
        exact ⟨row, stored, rfl, (live_of_due due).1⟩
    have found : ∀ (worker : ℕ) transaction, (state.transactions ++ [some
          { entries := picked, locked := picked.map OutboxRow.id, fetchedAt := now,
            seen := state.rows, held := heldIds state.transactions,
            commitsSeen := state.commits }])[worker]? = some (some transaction) →
        state.transactions[worker]? = some (some transaction) ∨
          (worker = state.transactions.length ∧ transaction.locked = picked.map OutboxRow.id ∧
            TransactionInv state transaction) := by
      intro worker _ present
      rw [List.getElem?_append] at present
      split at present
      · exact Or.inl present
      next beyond =>
        right
        have isLast : worker - state.transactions.length = 0 := by
          by_contra later
          rw [List.getElem?_eq_none (by simp; omega)] at present
          contradiction
        rw [isLast, List.getElem?_cons_zero] at present
        cases present
        exact ⟨by omega, rfl, fresh⟩
    have unlocked : ∀ (worker : ℕ) transaction id,
        state.transactions[worker]? = some (some transaction) → id ∈ transaction.locked →
          id ∉ picked.map OutboxRow.id := by
      intro _ _ _ present locked member
      obtain ⟨row, isPicked, rfl⟩ := mem_map.mp member
      exact (live_of_due (answer.due row isPicked).2).2 (mem_held_ids present locked)
    apply inv_of_transactions invariant
    · intro worker transaction present
      rcases found worker transaction present with old | ⟨_, _, isFresh⟩
      · exact invariant.transactions worker transaction old
      · exact isFresh
    · intro first second left right id leftPresent rightPresent leftLocked rightLocked
      rcases found first left leftPresent with leftOld | ⟨leftLast, leftPicked, _⟩ <;>
        rcases found second right rightPresent with rightOld | ⟨rightLast, rightPicked, _⟩
      · exact invariant.exclusive first second left right id leftOld rightOld leftLocked rightLocked
      · rw [rightPicked] at rightLocked
        exact absurd rightLocked (unlocked first left id leftOld leftLocked)
      · rw [leftPicked] at leftLocked
        exact absurd leftLocked (unlocked second right id rightOld rightLocked)
      · omega
  · exact invariant

theorem crash_inv (invariant : OutboxInv state) (worker : ℕ) :
    OutboxInv (setTransaction state worker none) := by
  have before : ∀ (other : ℕ) transaction,
      (state.transactions.set worker none)[other]? = some (some transaction) →
        state.transactions[other]? = some (some transaction) := by
    intro _ _ present
    rcases get_set_cases present with ⟨_, isNone⟩ | ⟨_, old⟩
    · contradiction
    · exact old
  apply inv_of_transactions invariant
  · intro other transaction present
    exact invariant.transactions other transaction (before other transaction present)
  · intro first second left right id leftPresent rightPresent
    exact invariant.exclusive first second left right id (before first left leftPresent)
      (before second right rightPresent)

variable (maxAttempts : Option ℕ) (now : Int)

theorem record_failure_id (entry : OutboxRow) :
    (recordFailure maxAttempts now entry).id = entry.id := by
  unfold recordFailure
  split <;> rfl

theorem record_failure_not_published (entry : OutboxRow) (id : ℕ) (publishedAt : Int) :
    recordFailure maxAttempts now entry ≠ .published id publishedAt := by
  unfold recordFailure
  split <;> simp

theorem mark_of_id (entry : OutboxRow) (outcome : PublishOutcome) :
    (markOf maxAttempts now entry outcome).id = entry.id := by
  cases outcome with
  | confirmed => rfl
  | lostConfirm | refused => exact record_failure_id maxAttempts now entry

theorem confirmed_of_published_mark {maxAttempts : Option ℕ} {now publishedAt : Int}
    (marked : markOf maxAttempts now entry outcome = .published id publishedAt) :
    id = entry.id ∧ outcome = .confirmed := by
  cases outcome with
  | confirmed =>
    simp only [markOf, Mark.published.injEq] at marked
    exact ⟨marked.1.symm, rfl⟩
  | lostConfirm | refused => exact absurd marked (record_failure_not_published _ _ _ _ _)

def triedTransaction (maxAttempts : Option ℕ) (transaction : Transaction) (entry : OutboxRow)
    (entries : List OutboxRow) (now : Int) (outcome : PublishOutcome) : Transaction :=
  { transaction with
    entries := entries
    marks := transaction.marks ++ [markOf maxAttempts now entry outcome]
    refused := if outcome.reachesBroker then transaction.refused
      else transaction.refused ++ [entry.id] }

def publishedAfter (published : List ℕ) (entry : OutboxRow) (outcome : PublishOutcome) : List ℕ :=
  if outcome.reachesBroker then published ++ [entry.id] else published

theorem mem_published_after :
    id ∈ publishedAfter published entry outcome ↔
      id ∈ published ∨ (outcome.reachesBroker = true ∧ id = entry.id) := by
  unfold publishedAfter
  split
  next reaches => simp [reaches]
  next refused => simp [refused]

theorem try_publish_cases (state : State) (worker : ℕ) (now : Int) (outcome : PublishOutcome) :
    (tryPublish maxAttempts state worker now outcome = state ∧
      ∀ transaction entry entries, state.transactions[worker]? = some (some transaction) →
        transaction.entries ≠ entry :: entries) ∨
      ∃ transaction entry entries, state.transactions[worker]? = some (some transaction) ∧
        transaction.entries = entry :: entries ∧
        tryPublish maxAttempts state worker now outcome =
          { state with
            transactions := state.transactions.set worker
              (some (triedTransaction maxAttempts transaction entry entries now outcome))
            published := publishedAfter state.published entry outcome } := by
  unfold tryPublish
  split
  next transaction found =>
    split
    next none_left =>
      refine Or.inl ⟨rfl, fun other entry entries present => ?_⟩
      rw [found] at present
      cases present
      simp [none_left]
    next entry entries remaining =>
      exact Or.inr ⟨transaction, entry, entries, found, remaining, rfl⟩
  next absent =>
    exact Or.inl ⟨rfl, fun other entry entries present => absurd present (absent other)⟩

theorem entry_locked (holds : TransactionInv state transaction)
    (remaining : transaction.entries = entry :: entries) : entry.id ∈ transaction.locked := by
  obtain ⟨_, _, _, locked, _⟩ := holds.answer
  rw [locked, remaining]
  simp

theorem try_publish_inv (invariant : OutboxInv state) (maxAttempts : Option ℕ) (worker : ℕ)
    (now : Int) (outcome : PublishOutcome) :
    OutboxInv (tryPublish maxAttempts state worker now outcome) := by
  rcases try_publish_cases maxAttempts state worker now outcome with
    ⟨same, _⟩ | ⟨transaction, entry, entries, found, remaining, after⟩
  · rw [same]
    exact invariant
  rw [after]
  have holds := invariant.transactions worker transaction found
  have locked := entry_locked holds remaining
  have grows : Grows state
      { state with
        transactions := state.transactions.set worker
          (some (triedTransaction maxAttempts transaction entry entries now outcome))
        published := publishedAfter state.published entry outcome } [] := by
    refine ⟨fun id member => mem_published_after.mpr (Or.inl member), fun _ member => member,
      fun _ member => Or.inl member, le_refl _, fun _ member _ _ => member, fun _ dead => dead⟩
  constructor
  · exact invariant.distinct
  · exact invariant.rowEvents
  · exact invariant.eventBounds
  · exact invariant.eventsDistinct
  · intro event member
    exact (invariant.kept event member).imp_right (grows.published event.id)
  · intro row member published
    exact grows.published row.id (invariant.rowsPublished row member published)
  · intro id member
    rcases mem_published_after.mp member with old | ⟨_, rfl⟩
    · exact invariant.publishedBound id old
    · obtain ⟨row, stored, sameId, _⟩ := holds.lockedLive entry.id locked
      obtain ⟨event, present, sameEvent, _⟩ := invariant.rowEvents row stored
      have bound := (invariant.eventBounds event present).1
      rwa [sameEvent, sameId] at bound
  · intro other changed present
    rcases get_set_cases present with ⟨_, isChanged⟩ | ⟨_, old⟩
    · cases isChanged
      have grown := transaction_inv_grows grows holds (by simp)
      obtain ⟨tried, limit, answer, isLocked, tries⟩ := grown.answer
      refine ⟨⟨tried ++ [entry], limit, ?_, ?_, ?_⟩, grown.commitsSeen, grown.seenEvents,
        grown.seenRows, grown.seenPublished, grown.seenDead, grown.lockedLive, ?_, ?_⟩
      · simpa [triedTransaction, remaining] using answer
      · simpa [triedTransaction, remaining] using isLocked
      · intro row member
        rcases mem_snoc.mp member with earlier | rfl
        · refine (tries row earlier).imp_right fun wasRefused => ?_
          simp only [triedTransaction]
          split
          · exact wasRefused
          · exact mem_append_left _ wasRefused
        · by_cases reaches : outcome.reachesBroker
          · exact Or.inl (mem_published_after.mpr (Or.inr ⟨reaches, rfl⟩))
          · exact Or.inr (by simp [triedTransaction, reaches])
      · refine forall_snoc holds.marksLocked ?_
        rw [mark_of_id]
        exact locked
      · intro id publishedAt marked
        rcases mem_snoc.mp marked with earlier | isNew
        · exact grows.published id (holds.marksPublished id publishedAt earlier)
        · obtain ⟨rfl, rfl⟩ :=
            confirmed_of_published_mark isNew.symm
          have reached : entry.id ∈ publishedAfter state.published entry .confirmed :=
            mem_published_after.mpr (Or.inr ⟨rfl, rfl⟩)
          exact reached
    · exact transaction_inv_grows grows (invariant.transactions other changed old) (by simp)
  · have earlier : ∀ (other : ℕ) changed,
        (state.transactions.set worker (some
          (triedTransaction maxAttempts transaction entry entries now outcome)))[other]? =
            some (some changed) →
          ∃ old, state.transactions[other]? = some (some old) ∧ old.locked = changed.locked := by
      intro _ changed present
      rcases get_set_cases present with ⟨rfl, isChanged⟩ | ⟨_, old⟩
      · cases isChanged
        exact ⟨transaction, found, rfl⟩
      · exact ⟨changed, old, rfl⟩
    intro first second left right id leftPresent rightPresent leftLocked rightLocked
    obtain ⟨oldLeft, leftFound, leftSame⟩ := earlier first left leftPresent
    obtain ⟨oldRight, rightFound, rightSame⟩ := earlier second right rightPresent
    exact invariant.exclusive first second oldLeft oldRight id leftFound rightFound
      (leftSame ▸ leftLocked) (rightSame ▸ rightLocked)

theorem commit_marks_cases (state : State) (worker : ℕ) : commitMarks state worker = state ∨
      ∃ transaction, state.transactions[worker]? = some (some transaction) ∧
        commitMarks state worker =
          { state with
            transactions := state.transactions.set worker none
            rows := transaction.marks.foldl applyMark state.rows } := by
  unfold commitMarks
  split
  next transaction found =>
    split
    · exact Or.inr ⟨transaction, found, rfl⟩
    · exact Or.inl rfl
  · exact Or.inl rfl

theorem commit_marks_grows (invariant : OutboxInv state)
    (found : state.transactions[worker]? = some (some transaction)) :
    Grows state
      { state with
        transactions := state.transactions.set worker none
        rows := transaction.marks.foldl applyMark state.rows } transaction.locked := by
  have holds := invariant.transactions worker transaction found
  have untouched : ∀ row ∈ state.rows, row.id ∉ transaction.locked →
      row ∈ transaction.marks.foldl applyMark state.rows := by
    intro row member free
    apply (apply_marks transaction.marks state.rows).others row member
    intro mark marked same
    exact free (same ▸ holds.marksLocked mark marked)
  refine ⟨fun _ member => member, fun _ member => member, fun _ member => Or.inl member,
    le_refl _, fun row member free _ => untouched row member free, ?_⟩
  rintro id ⟨row, stored, same, dead⟩
  refine ⟨row, untouched row stored ?_, same, dead⟩
  intro locked
  exact dead_not_locked invariant holds locked ⟨row, stored, rfl, dead⟩

theorem commit_marks_inv (invariant : OutboxInv state) (worker : ℕ) :
    OutboxInv (commitMarks state worker) := by
  rcases commit_marks_cases state worker with same | ⟨transaction, found, after⟩
  · rw [same]
    exact invariant
  rw [after]
  have holds := invariant.transactions worker transaction found
  have grows := commit_marks_grows invariant found
  obtain ⟨ids, origin, _⟩ := apply_marks transaction.marks state.rows
  have before : ∀ (other : ℕ) kept,
      (state.transactions.set worker none)[other]? = some (some kept) →
        other ≠ worker ∧ state.transactions[other]? = some (some kept) := by
    intro _ _ present
    rcases get_set_cases present with ⟨_, isNone⟩ | old
    · contradiction
    · exact old
  constructor
  · unfold DistinctKeys
    rw [ids]
    exact invariant.distinct
  · intro row member
    obtain ⟨old, stored, sameId, sameAggregate, _⟩ := origin row member
    rw [← sameId, ← sameAggregate]
    exact invariant.rowEvents old stored
  · exact invariant.eventBounds
  · exact invariant.eventsDistinct
  · intro event member
    refine (invariant.kept event member).imp_left ?_
    rintro ⟨row, stored, same⟩
    have listed : event.id ∈ (transaction.marks.foldl applyMark state.rows).map
        OutboxRow.id := by
      rw [ids, ← same]
      exact mem_map_of_mem stored
    obtain ⟨current, present, sameCurrent⟩ := mem_map.mp listed
    exact ⟨current, present, sameCurrent⟩
  · intro row member published
    obtain ⟨old, stored, sameId, _, wasPublished⟩ := origin row member
    rcases wasPublished published with already | ⟨publishedAt, marked⟩
    · rw [← sameId]
      exact invariant.rowsPublished old stored already
    · exact holds.marksPublished row.id publishedAt marked
  · exact invariant.publishedBound
  · intro other kept present
    obtain ⟨differs, old⟩ := before other kept present
    apply transaction_inv_grows grows (invariant.transactions other kept old)
    intro id keptLocked locked
    exact differs (invariant.exclusive other worker kept transaction id old found keptLocked
      locked)
  · intro first second left right id leftPresent rightPresent
    exact invariant.exclusive first second left right id (before first left leftPresent).2
      (before second right rightPresent).2

theorem purge_keeps {cutoff : Int} (stored : row ∈ state.rows)
    (unpublished : row.status ≠ .published) : row ∈ (purgePublished state cutoff).rows :=
  mem_filter.mpr ⟨stored, by simp [unpublished]⟩

theorem purge_grows (state : State) (cutoff : Int) :
    Grows state (purgePublished state cutoff) [] := by
  refine ⟨fun _ member => member, fun _ member => member, fun _ member => Or.inl member,
    le_refl _, fun row member _ unpublished => purge_keeps member unpublished, ?_⟩
  rintro id ⟨row, stored, same, dead⟩
  exact ⟨row, purge_keeps stored (by simp [dead]), same, dead⟩

theorem purge_inv (invariant : OutboxInv state) (cutoff : Int) :
    OutboxInv (purgePublished state cutoff) := by
  have grows := purge_grows state cutoff
  constructor
  · exact invariant.distinct.sublist (filter_sublist.map _)
  · intro row member
    exact invariant.rowEvents row (mem_filter.mp member).1
  · exact invariant.eventBounds
  · exact invariant.eventsDistinct
  · intro event member
    rcases invariant.kept event member with ⟨row, stored, same⟩ | logged
    · by_cases published : row.status = .published
      · exact Or.inr (same ▸ invariant.rowsPublished row stored published)
      · exact Or.inl ⟨row, purge_keeps stored published, same⟩
    · exact Or.inr logged
  · intro row member
    exact invariant.rowsPublished row (mem_filter.mp member).1
  · exact invariant.publishedBound
  · intro worker transaction found
    exact transaction_inv_grows grows (invariant.transactions worker transaction found) (by simp)
  · exact invariant.exclusive

theorem step_inv (state : State) (label : Label) (invariant : OutboxInv state) :
    OutboxInv (step maxAttempts state label) := by
  cases label with
  | commitEvents createdAt aggregates => exact commit_events_inv invariant createdAt aggregates
  | fetch now limit picked => exact fetch_inv invariant now limit picked
  | publish worker now outcome => exact try_publish_inv invariant maxAttempts worker now outcome
  | commit worker => exact commit_marks_inv invariant worker
  | crash worker => exact crash_inv invariant worker
  | purge cutoff => exact purge_inv invariant cutoff

def PublishedBefore (published : List ℕ) (first second : ℕ) : Prop :=
  first ∈ published.takeWhile fun id => id ≠ second

instance (published : List ℕ) (first second : ℕ) :
    Decidable (PublishedBefore published first second) :=
  inferInstanceAs (Decidable (_ ∈ _))

/-- The one event was committed earlier than the other, for the same aggregate. -/
def Precedes (first second : CommittedEvent) : Prop :=
  first.aggregate = second.aggregate ∧ first.commit < second.commit

instance (first second : CommittedEvent) : Decidable (Precedes first second) :=
  inferInstanceAs (Decidable (_ ∧ _))

def OrderKept (state : State) : Prop :=
  ∀ first ∈ state.events, ∀ second ∈ state.events, Precedes first second →
    ¬ IsDead state first.id → second.id ∈ state.published →
      PublishedBefore state.published first.id second.id

instance (state : State) : Decidable (OrderKept state) := by
  unfold OrderKept
  infer_instance

theorem take_while_append (member : second ∈ published) (later : List ℕ) :
    (published ++ later).takeWhile (fun id => id ≠ second) =
      published.takeWhile (fun id => id ≠ second) := by
  induction published with
  | nil => simp at member
  | cons head published ih =>
    by_cases same : head = second
    · simp [same]
    · have rest : second ∈ published := by
        rcases mem_cons.mp member with equal | later
        · exact absurd equal.symm same
        · exact later
      simpa [same] using ih rest

theorem take_while_first (fresh : second ∉ published) :
    (published ++ [second]).takeWhile (fun id => id ≠ second) = published := by
  induction published with
  | nil => simp
  | cons head published ih =>
    rw [mem_cons, not_or] at fresh
    have differs : head ≠ second := fun same => fresh.1 same.symm
    simpa [differs] using ih fresh.2

/-- An older event was passed over by the fetch of the entry's transaction, because it
was backed off, locked by another worker or not created before, or it was refused
earlier in the same batch. -/
def PassedOver (transaction : Transaction) (first : ℕ) (entry : OutboxRow) : Prop :=
  (∃ row ∈ transaction.seen, row.id = first ∧
    (transaction.fetchedAt < row.nextAttemptAt ∨ row.id ∈ transaction.held ∨
      entry.createdAt ≤ row.createdAt)) ∨
  first ∈ transaction.refused

/-- The next entry of the transaction is not published for the first time past an event
that was passed over and still waits. -/
def EntryInOrder (state : State) (transaction : Transaction) (entry : OutboxRow) : Prop :=
  entry.id ∉ state.published → ∀ first ∈ state.events, ∀ second ∈ state.events,
    second.id = entry.id → Precedes first second → ¬ IsDead state first.id →
      first.id ∉ state.published → ¬ PassedOver transaction first.id entry

def PublishesInOrder (state : State) : Label → Prop
  | .publish worker _ outcome => outcome.reachesBroker = true →
      ∀ transaction entry entries, state.transactions[worker]? = some (some transaction) →
        transaction.entries = entry :: entries → EntryInOrder state transaction entry
  | _ => True

theorem passed_over_of_waiting (invariant : OutboxInv state)
    (holds : TransactionInv state transaction) (remaining : transaction.entries = entry :: entries)
    {first second : CommittedEvent} (firstStored : first ∈ state.events)
    (secondStored : second ∈ state.events) (isEntry : second.id = entry.id)
    (precedes : Precedes first second) (alive : ¬ IsDead state first.id)
    (waiting : first.id ∉ state.published) : PassedOver transaction first.id entry := by
  obtain ⟨tried, _, answer, _, tries⟩ := holds.answer
  have entryPicked : entry ∈ tried ++ transaction.entries := by
    rw [remaining]
    simp
  obtain ⟨event, eventStored, sameId, _, eventSeen⟩ :=
    holds.seenRows entry (answer.due entry entryPicked).1
  have isSecond : event = second :=
    inj_on_of_nodup_map invariant.eventsDistinct eventStored secondStored
      (sameId.trans isEntry.symm)
  have early : first.commit < transaction.commitsSeen := by
    rw [isSecond] at eventSeen
    exact lt_trans precedes.2 eventSeen
  rcases holds.seenEvents first firstStored early with ⟨row, seen, same⟩ | published
  swap
  · exact absurd published waiting
  have live : isLive row = true := by
    cases status : row.status with
    | pending | failed => simp [isLive, status]
    | published => exact absurd (same ▸ holds.seenPublished row seen status) waiting
    | dead => exact absurd (same ▸ holds.seenDead row seen status) alive
  by_contra notPassed
  simp only [PassedOver, not_or, not_exists, not_and, not_lt, not_le] at notPassed
  obtain ⟨backedOff, free, older⟩ := notPassed.1 row seen same
  have due : isDue transaction.fetchedAt transaction.held row = true := by
    simp only [isDue, Bool.and_eq_true, decide_eq_true_eq]
    exact ⟨⟨live, backedOff⟩, free⟩
  have picked := older_is_picked answer seen due entryPicked older
  have before := older_stands_before answer.sorted picked (by rw [remaining]; rfl) older
  rcases tries row before with published | refused
  · exact waiting (same ▸ published)
  · exact notPassed.2 (same ▸ refused)

theorem order_kept_grows (kept : OrderKept state) (invariant : OutboxInv state)
    (grows : Grows state after touched) (same : after.published = state.published) :
    OrderKept after := by
  intro first firstStored second secondStored precedes alive published
  rw [same] at published ⊢
  rcases grows.newEvents second secondStored with secondOld | ⟨_, unpublished⟩
  · rcases grows.newEvents first firstStored with firstOld | ⟨late, _⟩
    · exact kept first firstOld second secondOld precedes
        (fun dead => alive (grows.dead first.id dead)) published
    · have bound := (invariant.eventBounds second secondOld).2
      have order := precedes.2
      omega
  · exact absurd published unpublished

theorem publish_order_iff (kept : OrderKept state) (invariant : OutboxInv state)
    (found : state.transactions[worker]? = some (some transaction))
    (remaining : transaction.entries = entry :: entries) (transactions : List (Option Transaction)) :
    OrderKept { state with
      transactions := transactions
      published := state.published ++ [entry.id] } ↔ EntryInOrder state transaction entry := by
  constructor
  · intro keptAfter fresh first firstStored second secondStored isEntry precedes alive waiting _
    have before := keptAfter first firstStored second secondStored precedes alive
      (by rw [isEntry]; exact mem_append_right _ (mem_singleton.mpr rfl))
    unfold PublishedBefore at before
    rw [isEntry, take_while_first fresh] at before
    exact waiting before
  · intro inOrder first firstStored second secondStored precedes alive published
    by_cases already : second.id ∈ state.published
    · have before := kept first firstStored second secondStored precedes alive already
      unfold PublishedBefore at before ⊢
      rw [take_while_append already]
      exact before
    · have isEntry : second.id = entry.id := by
        rcases mem_snoc.mp published with old | new
        · exact absurd old already
        · exact new
      unfold PublishedBefore
      rw [isEntry] at already ⊢
      rw [take_while_first already]
      by_contra waiting
      exact inOrder already first firstStored second secondStored isEntry precedes alive waiting
        (passed_over_of_waiting invariant (invariant.transactions worker transaction found)
          remaining firstStored secondStored isEntry precedes alive waiting)

theorem step_order_iff (label : Label) (kept : OrderKept state) (invariant : OutboxInv state) :
    OrderKept (step maxAttempts state label) ↔ PublishesInOrder state label := by
  cases label with
  | commitEvents createdAt aggregates =>
    simp only [PublishesInOrder, iff_true]
    exact order_kept_grows kept invariant (commit_events_grows invariant createdAt aggregates) rfl
  | fetch =>
    simp only [PublishesInOrder, iff_true, step, fetchPending]
    split
    · exact order_kept_grows kept invariant (grows_of_transactions state _) rfl
    · exact kept
  | publish worker now outcome =>
    simp only [PublishesInOrder, step]
    rcases try_publish_cases maxAttempts state worker now outcome with
      ⟨same, noEntry⟩ | ⟨transaction, entry, entries, found, remaining, after⟩
    · rw [same]
      simp only [kept, true_iff]
      intro _ transaction entry entries found remaining
      exact absurd remaining (noEntry transaction entry entries found)
    · rw [after, publishedAfter]
      by_cases reaches : outcome.reachesBroker
      · rw [if_pos reaches, publish_order_iff kept invariant found remaining]
        constructor
        · intro inOrder _ _ _ _ otherFound otherRemaining
          rw [found] at otherFound
          cases otherFound
          rw [remaining] at otherRemaining
          cases otherRemaining
          exact inOrder
        · intro allowed
          exact allowed reaches transaction entry entries found remaining
      · rw [if_neg reaches]
        simp only [reaches, Bool.false_eq_true, false_implies, iff_true]
        exact order_kept_grows kept invariant (grows_of_transactions state _) rfl
  | commit worker =>
    simp only [PublishesInOrder, iff_true, step]
    rcases commit_marks_cases state worker with same | ⟨transaction, found, after⟩
    · rw [same]
      exact kept
    · rw [after]
      exact order_kept_grows kept invariant (commit_marks_grows invariant found) rfl
  | crash =>
    simp only [PublishesInOrder, iff_true]
    exact order_kept_grows kept invariant (grows_of_transactions state _) rfl
  | purge cutoff =>
    simp only [PublishesInOrder, iff_true]
    exact order_kept_grows kept invariant (purge_grows state cutoff) rfl

theorem run_order_iff (labels : List Label) (kept : OrderKept state) (invariant : OutboxInv state) :
    (∀ before, before <+: labels → OrderKept (runFrom (step maxAttempts) state before)) ↔
      AllSteps (step maxAttempts) PublishesInOrder state labels := by
  exact run_kept_iff (step maxAttempts) (step_inv maxAttempts)
    (fun state label invariant kept => step_order_iff maxAttempts label kept invariant)
    invariant kept labels

def transaction7 : Aggregate := ⟨"transaction", "7"⟩

def firstRow : OutboxRow := { id := 0, aggregate := transaction7, nextAttemptAt := 0, createdAt := 0 }

def secondRow : OutboxRow := { id := 1, aggregate := transaction7, nextAttemptAt := 1, createdAt := 1 }

/-- The first row after one failure, backed off for five seconds. -/
def failedRow : OutboxRow :=
  { firstRow with status := .failed, attempts := 1, nextAttemptAt := 5000002 }

/-- One worker, one row a transaction: the first event is refused once and backs off,
the next poll publishes the second event and a later one the first. -/
def overtakingRun : List Label :=
  [.commitEvents 0 [transaction7], .commitEvents 1 [transaction7],
   .fetch 2 1 [firstRow], .publish 0 2 .refused, .commit 0,
   .fetch 3 1 [secondRow], .publish 1 3 .confirmed, .commit 1,
   .fetch 5000003 1 [failedRow], .publish 2 5000003 .confirmed, .commit 2]

example : (runFrom (step none) {} overtakingRun).published = [1, 0] := by decide +kernel

end FinanceTracker.Messaging.OutboxOrder
