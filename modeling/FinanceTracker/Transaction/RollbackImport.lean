import FinanceTracker.Library.Columns
import FinanceTracker.Transaction.SagaCommands

/-!
# Rolling an import back

`_handle_rollback_import` with the time stamps of the rows and the
`transaction.deleted` rows of the outbox. Each id is deleted in a unit of work of
its own, so an attempt that is cut off has deleted a part of the list and the next
one goes over the whole list again.

The `UPDATE` of the soft delete also stamps `updated_at`, whose column has
`onupdate`, and an id beyond `INTEGER` is refused as a query argument.
-/

namespace FinanceTracker.Transaction.RollbackImport

open Library.Columns Shared.SagaMessages Domain List
open BulkImport (TransactionDb)

/-- A stored row with its time stamps, in microseconds since the epoch. -/
structure StampedRow where
  tx : Transaction
  deletedAt : Option Int
  createdAt : Int
  updatedAt : Option Int
  flag : tx.deleted = deletedAt.isSome
  deriving DecidableEq

structure TransactionDeletedEvent where
  transactionId : Int
  accountId : Int
  userId : Int
  amount : String
  deriving DecidableEq

structure DeletedEntry where
  event : TransactionDeletedEvent
  aggregateType : String
  aggregateId : String
  deriving DecidableEq

structure RollbackState where
  rows : List StampedRow
  outbox : List DeletedEntry

/-- What the schema promises of the stored rows: the primary key and the `INTEGER` columns. -/
structure RollbackTables extends RollbackState where
  ids : (rows.map fun row => row.tx.id).Nodup
  columns : ∀ row ∈ rows, fitsInteger row.tx.id = true ∧ fitsInteger row.tx.userId = true

inductive DeleteError where
  | transactionNotFound (transactionId : Int)
  | database (message : String)
  deriving DecidableEq

/-- The `WHERE` clause of `find_by_id` and of `delete`. -/
def selects (transactionId userId : Int) (row : StampedRow) : Bool :=
  (row.tx.id : Int) = transactionId && row.tx.userId = userId && row.deletedAt.isNone

def softDelete (now : Int) (row : StampedRow) : StampedRow where
  tx := { row.tx with deleted := true }
  deletedAt := some now
  createdAt := row.createdAt
  updatedAt := some now
  flag := rfl

def deletedEntry (transactionId userId : Int) (row : StampedRow) : DeletedEntry where
  event :=
    { transactionId := transactionId
      accountId := row.tx.accountId
      userId := userId
      amount := amountText row.tx.amount }
  aggregateType := "transaction"
  aggregateId := toString transactionId

/-- The driver takes both arguments as `INTEGER`. -/
def refused (userId transactionId : Int) : Bool :=
  !(fitsInteger transactionId && fitsInteger userId)

/-- `delete_transaction`. The row that was found is still live at the `UPDATE` of the
same unit of work. -/
def deleteTransaction (now : Int) (state : RollbackState) (transactionId userId : Int) :
    Except DeleteError RollbackState :=
  if refused userId transactionId then .error (.database "invalid input for query argument")
  else
    match state.rows.find? (selects transactionId userId) with
    | none => .error (.transactionNotFound transactionId)
    | some row =>
      .ok
        { rows := state.rows.map fun stored =>
            if selects transactionId userId stored then softDelete now stored else stored
          outbox := state.outbox ++ [deletedEntry transactionId userId row] }

/-- What the database does at each position of the list: whether it fails there, and
what its clock says. -/
structure Pass where
  fails : Nat → Bool
  now : Nat → Int

def deleteAt (pass : Pass) (position : Nat) (state : RollbackState) (transactionId userId : Int) :
    Except DeleteError RollbackState :=
  if pass.fails position then .error (.database "connection was closed")
  else deleteTransaction (pass.now position) state transactionId userId

/-- The loop with `failed_ids`: a missing row counts as done. -/
def rollbackLoop (pass : Pass) (userId : Int) :
    Nat → List Int → RollbackState → List Int → RollbackState × List Int
  | _, [], state, failedIds => (state, failedIds)
  | position, id :: ids, state, failedIds =>
    match deleteAt pass position state id userId with
    | .ok next => rollbackLoop pass userId (position + 1) ids next failedIds
    | .error (.transactionNotFound _) =>
      rollbackLoop pass userId (position + 1) ids state failedIds
    | .error (.database _) =>
      rollbackLoop pass userId (position + 1) ids state (failedIds ++ [id])

def rollbackReply (failedIds : List Int) : ReplyData :=
  if failedIds = [] then { success := true, isCompensation := true }
  else
    { success := false
      errorMessage := some ("Failed to roll back transactions: " ++ toString failedIds)
      isCompensation := true }

def handleRollbackImport (pass : Pass) (userId : Int) (transactionIds : List Int)
    (state : RollbackState) : RollbackState × ReplyData :=
  if transactionIds = [] then (state, { success := true, isCompensation := true })
  else
    let result := rollbackLoop pass userId 0 transactionIds state []
    (result.1, rollbackReply result.2)

structure Attempt extends Pass where
  reached : Nat

def attempt (userId : Int) (transactionIds : List Int) (state : RollbackState)
    (cut : Attempt) : RollbackState :=
  (rollbackLoop cut.toPass userId 0 (transactionIds.take cut.reached) state []).1

/-- A pass in which the database does not fail. -/
def healthy (now : Nat → Int) : Pass where
  fails := fun _ => false
  now := now

/-- Attempts that were cut off, and one that went through. -/
def rollbackRun (userId : Int) (transactionIds : List Int) (state : RollbackState)
    (attempts : List Attempt) (now : Nat → Int) : RollbackState × ReplyData :=
  handleRollbackImport (healthy now) userId transactionIds
    (attempts.foldl (attempt userId transactionIds) state)

/-- A listed row of the user that is live. -/
def doomed (userId : Int) (transactionIds : List Int) (row : StampedRow) : Bool :=
  row.deletedAt.isNone && row.tx.userId = userId && (row.tx.id : Int) ∈ transactionIds

/-- The row after the deletions so far, given when each id was deleted. -/
def stamp (times : Nat → Option Int) (row : StampedRow) : StampedRow :=
  match times row.tx.id with
  | none => row
  | some now => softDelete now row

def rowEntry (row : StampedRow) : DeletedEntry := deletedEntry row.tx.id row.tx.userId row

/-- The rows deleted so far, in order, and when: each was doomed, its stamps are in the
table and its event in the outbox, and nothing else has changed. -/
structure Progress (before state : RollbackState) (userId : Int) (transactionIds : List Int)
    (times : Nat → Option Int) (order : List StampedRow) : Prop where
  chosen : ∀ row ∈ order, row ∈ before.rows ∧ doomed userId transactionIds row = true
  nodup : order.Nodup
  timed : ∀ row ∈ before.rows, (times row.tx.id).isSome = true ↔ row ∈ order
  rows : state.rows = before.rows.map (stamp times)
  outbox : state.outbox = before.outbox ++ order.map rowEntry

theorem progress_start (before : RollbackState) (userId : Int) (transactionIds : List Int) :
    Progress before before userId transactionIds (fun _ => none) [] := by
  refine ⟨by simp, nodup_nil, by simp, ?_, by simp⟩
  exact (map_id _).symm

@[simp] theorem selects_soft_delete (transactionId userId now : Int) (row : StampedRow) :
    selects transactionId userId (softDelete now row) = false := by
  simp [selects, softDelete]

theorem stamp_selected {times : Nat → Option Int} {transactionId userId : Int} {row : StampedRow}
    (selected : selects transactionId userId (stamp times row) = true) :
    times row.tx.id = none ∧ selects transactionId userId row = true := by
  unfold stamp at selected
  cases stamped : times row.tx.id with
  | none =>
    rw [stamped] at selected
    exact ⟨rfl, selected⟩
  | some =>
    rw [stamped, selects_soft_delete] at selected
    contradiction

theorem selects_iff {transactionId userId : Int} {row : StampedRow} :
    selects transactionId userId row = true ↔
      (row.tx.id : Int) = transactionId ∧ row.tx.userId = userId ∧ row.deletedAt = none := by
  simp [selects, and_assoc]

/-- No live row of the user has the id. -/
def gone (state : RollbackState) (transactionId userId : Int) : Prop :=
  ∀ row ∈ state.rows, selects transactionId userId row = false

def withDeleted (state : RollbackState) (now transactionId userId : Int) (row : StampedRow) :
    RollbackState where
  rows := state.rows.map fun stored =>
    if selects transactionId userId stored then softDelete now stored else stored
  outbox := state.outbox ++ [deletedEntry transactionId userId row]

theorem delete_transaction_ok {state next : RollbackState} {now transactionId userId : Int}
    (deleted : deleteTransaction now state transactionId userId = .ok next) :
    refused userId transactionId = false ∧ ∃ row ∈ state.rows,
      selects transactionId userId row = true ∧
        next = withDeleted state now transactionId userId row := by
  unfold deleteTransaction at deleted
  split at deleted
  · contradiction
  · next accepted =>
    split at deleted
    · contradiction
    · next row isFound =>
      cases deleted
      exact ⟨by simpa using accepted, row, mem_of_find?_eq_some isFound,
        List.find?_some isFound, rfl⟩

theorem gone_with_deleted (state : RollbackState) (now transactionId userId : Int)
    (row : StampedRow) :
    gone (withDeleted state now transactionId userId row) transactionId userId ∧
      ∀ other, gone state other userId →
        gone (withDeleted state now transactionId userId row) other userId := by
  constructor
  · intro _ member
    obtain ⟨_, _, rfl⟩ := mem_map.mp member
    split
    · exact selects_soft_delete _ _ _ _
    · next unselected => simpa using unselected
  · intro _ wasGone _ member
    obtain ⟨old, oldMember, rfl⟩ := mem_map.mp member
    split
    · exact selects_soft_delete _ _ _ _
    · exact wasGone old oldMember

section Added

variable {tables : RollbackTables} {state : RollbackState} {userId : Int}
  {transactionIds : List Int} {transactionId : Int} {times : Nat → Option Int}
  {order : List StampedRow} {row : StampedRow}

def addTime (times : Nat → Option Int) (row : StampedRow) (now : Int) : Nat → Option Int :=
  fun id => if id = row.tx.id then some now else times id

/-- The primary key: only the deleted row has its id. -/
theorem same_id (member : row ∈ tables.rows) {other : StampedRow} (otherMember : other ∈ tables.rows)
    (sameId : other.tx.id = row.tx.id) : other = row :=
  inj_on_of_nodup_map tables.ids otherMember member sameId

theorem stamp_add (now : Int) (member : row ∈ tables.rows)
    (unstamped : stamp times row = row) (selected : selects transactionId userId row = true)
    {other : StampedRow} (otherMember : other ∈ tables.rows) :
    (if selects transactionId userId (stamp times other) then softDelete now (stamp times other)
      else stamp times other) = stamp (addTime times row now) other := by
  by_cases sameId : other.tx.id = row.tx.id
  · rw [same_id member otherMember sameId, unstamped, if_pos selected]
    unfold stamp addTime
    rw [if_pos rfl]
  · have unselected : selects transactionId userId (stamp times other) = false := by
      rw [Bool.eq_false_iff]
      intro chosen
      have otherId := (selects_iff.mp (stamp_selected chosen).2).1
      have rowId := (selects_iff.mp selected).1
      apply sameId
      omega
    rw [if_neg (by simp [unselected])]
    unfold stamp addTime
    rw [if_neg sameId]

theorem progress_add (now : Int)
    (progress : Progress tables.toRollbackState state userId transactionIds times order)
    (listed : transactionId ∈ transactionIds) (member : row ∈ tables.rows)
    (untimed : times row.tx.id = none) (selected : selects transactionId userId row = true) :
    Progress tables.toRollbackState (withDeleted state now transactionId userId row) userId
      transactionIds (addTime times row now) (order ++ [row]) := by
  obtain ⟨isId, isUser, live⟩ := selects_iff.mp selected
  have unstamped : stamp times row = row := by
    unfold stamp
    rw [untimed]
  have unlisted : row ∉ order := by
    rw [← progress.timed row member, untimed]
    simp
  constructor
  · refine forall_mem_append.mpr ⟨progress.chosen, ?_⟩
    intro other last
    rw [mem_singleton.mp last]
    refine ⟨member, ?_⟩
    simp [doomed, live, isUser, isId, listed]
  · rw [nodup_append]
    refine ⟨progress.nodup, by simp, ?_⟩
    intro _ otherMember _ isLast same
    rw [mem_singleton.mp isLast] at same
    exact unlisted (same ▸ otherMember)
  · intro other otherMember
    rw [mem_append, mem_singleton]
    unfold addTime
    by_cases sameId : other.tx.id = row.tx.id
    · simp [same_id member otherMember sameId]
    · rw [if_neg sameId, progress.timed other otherMember]
      refine (or_iff_left ?_).symm
      rintro rfl
      exact sameId rfl
  · unfold withDeleted
    dsimp only
    rw [progress.rows, map_map]
    apply map_congr_left
    intro _ otherMember
    exact stamp_add now member unstamped selected otherMember
  · unfold withDeleted rowEntry
    dsimp only
    rw [progress.outbox, map_append, append_assoc, map_cons, map_nil, isId, isUser]
    rfl

end Added

/-- A deletion that goes through takes the one row with the id, stamps it and writes
its event. -/
theorem delete_progress {tables : RollbackTables} {state next : RollbackState} {now userId : Int}
    {transactionIds : List Int} {transactionId : Int} {times : Nat → Option Int}
    {order : List StampedRow}
    (progress : Progress tables.toRollbackState state userId transactionIds times order)
    (listed : transactionId ∈ transactionIds)
    (deleted : deleteTransaction now state transactionId userId = .ok next) :
    (∃ times order, Progress tables.toRollbackState next userId transactionIds times order) ∧
      gone next transactionId userId ∧
      ∀ other, gone state other userId → gone next other userId := by
  obtain ⟨_, _, member, selected, rfl⟩ := delete_transaction_ok deleted
  rw [progress.rows] at member
  obtain ⟨row, rowMember, rfl⟩ := mem_map.mp member
  obtain ⟨untimed, rowSelected⟩ := stamp_selected selected
  have unstamped : stamp times row = row := by
    unfold stamp
    rw [untimed]
  rw [unstamped]
  exact ⟨⟨_, _, progress_add now progress listed rowMember untimed rowSelected⟩,
    gone_with_deleted state now transactionId userId row⟩

section Loop

variable {tables : RollbackTables} {userId : Int} {transactionIds : List Int}

theorem loop_progress (pass : Pass) (position : Nat) {rest : List Int}
    (listed : ∀ id ∈ rest, id ∈ transactionIds) {state : RollbackState} (failedIds : List Int)
    {times : Nat → Option Int} {order : List StampedRow}
    (progress : Progress tables.toRollbackState state userId transactionIds times order) :
    (∃ times order, Progress tables.toRollbackState
        (rollbackLoop pass userId position rest state failedIds).1 userId transactionIds times
          order) ∧
      ∀ other, gone state other userId →
        gone (rollbackLoop pass userId position rest state failedIds).1 other userId := by
  induction rest generalizing position state failedIds times order with
  | nil => exact ⟨⟨times, order, progress⟩, fun _ => id⟩
  | cons id rest ih =>
    have restListed : ∀ other ∈ rest, other ∈ transactionIds :=
      fun other member => listed other (mem_cons_of_mem _ member)
    unfold rollbackLoop
    cases outcome : deleteAt pass position state id userId with
    | error failure =>
      cases failure with
      | transactionNotFound => exact ih _ restListed _ progress
      | database => exact ih _ restListed _ progress
    | ok =>
      unfold deleteAt at outcome
      split at outcome
      · contradiction
      · obtain ⟨⟨_, _, nextProgress⟩, _, goneStays⟩ :=
          delete_progress progress (listed id mem_cons_self) outcome
        obtain ⟨restProgress, restGone⟩ := ih (position + 1) restListed failedIds nextProgress
        exact ⟨restProgress, fun other wasGone => restGone other (goneStays other wasGone)⟩

/-- After a pass in which the database does not fail, no accepted id of the list has a
live row left, and the failed ids are the refused ones. -/
theorem healthy_loop (now : Nat → Int) (position : Nat) {rest : List Int}
    (listed : ∀ id ∈ rest, id ∈ transactionIds) {state : RollbackState} (failedIds : List Int)
    {times : Nat → Option Int} {order : List StampedRow}
    (progress : Progress tables.toRollbackState state userId transactionIds times order) :
    (rollbackLoop (healthy now) userId position rest state failedIds).2 =
        failedIds ++ rest.filter (refused userId) ∧
      ∀ id ∈ rest, refused userId id = false →
        gone (rollbackLoop (healthy now) userId position rest state failedIds).1 id userId := by
  induction rest generalizing position state failedIds times order with
  | nil => simp [rollbackLoop]
  | cons id rest ih =>
    have restListed : ∀ other ∈ rest, other ∈ transactionIds :=
      fun other member => listed other (mem_cons_of_mem _ member)
    have isDelete : deleteAt (healthy now) position state id userId =
        deleteTransaction (now position) state id userId := rfl
    unfold rollbackLoop
    rw [isDelete]
    cases outcome : deleteTransaction (now position) state id userId with
    | ok =>
      obtain ⟨⟨_, _, nextProgress⟩, nowGone, _⟩ :=
        delete_progress progress (listed id mem_cons_self) outcome
      have accepted := (delete_transaction_ok outcome).1
      obtain ⟨failed, restGone⟩ := ih (position + 1) restListed failedIds nextProgress
      have stays := (loop_progress (healthy now) (position + 1) restListed failedIds
        nextProgress).2
      refine ⟨?_, ?_⟩
      · dsimp only
        rw [failed, filter_cons, if_neg (by simp [accepted])]
      · intro other member isAccepted
        rcases mem_cons.mp member with rfl | later
        · exact stays other nowGone
        · exact restGone other later isAccepted
    | error =>
      unfold deleteTransaction at outcome
      split at outcome
      · next isRefused =>
        cases outcome
        obtain ⟨failed, restGone⟩ := ih (position + 1) restListed (failedIds ++ [id]) progress
        refine ⟨?_, ?_⟩
        · dsimp only
          rw [failed, filter_cons, if_pos isRefused, append_assoc, singleton_append]
        · intro other member isAccepted
          rcases mem_cons.mp member with rfl | later
          · rw [isRefused] at isAccepted
            contradiction
          · exact restGone other later isAccepted
      · next isAccepted =>
        split at outcome
        · next noRow =>
          cases outcome
          have nowGone : gone state id userId := fun row member => by
            simpa using List.find?_eq_none.mp noRow row member
          obtain ⟨failed, restGone⟩ := ih (position + 1) restListed failedIds progress
          have stays := (loop_progress (healthy now) (position + 1) restListed failedIds
            progress).2
          refine ⟨?_, ?_⟩
          · dsimp only
            rw [failed, filter_cons, if_neg isAccepted]
          · intro other member accepted
            rcases mem_cons.mp member with rfl | later
            · exact stays other nowGone
            · exact restGone other later accepted
        · contradiction

end Loop

theorem attempts_progress {tables : RollbackTables} {userId : Int} {transactionIds : List Int}
    (attempts : List Attempt) {state : RollbackState} {times : Nat → Option Int}
    {order : List StampedRow}
    (progress : Progress tables.toRollbackState state userId transactionIds times order) :
    ∃ times order, Progress tables.toRollbackState
      (attempts.foldl (attempt userId transactionIds) state) userId transactionIds times order := by
  induction attempts generalizing state times order with
  | nil => exact ⟨times, order, progress⟩
  | cons cut attempts ih =>
    have listed : ∀ id ∈ transactionIds.take cut.reached, id ∈ transactionIds :=
      fun id member => mem_of_mem_take member
    obtain ⟨⟨_, _, next⟩, _⟩ := loop_progress cut.toPass 0 listed [] progress
    exact ih next

/-- The doomed rows are deleted, at some times, with one event each in some order; the
stamps of these rows are all that changed in the table. -/
structure RolledBack (before after : RollbackState) (userId : Int) (transactionIds : List Int) :
    Prop where
  rows : ∃ times : Nat → Int, after.rows = before.rows.map fun row =>
    if doomed userId transactionIds row then softDelete (times row.tx.id) row else row
  events : ∃ order : List StampedRow, order.Perm (before.rows.filter (doomed userId transactionIds)) ∧
    after.outbox = before.outbox ++ order.map rowEntry

theorem rolled_back_of_progress {tables : RollbackTables} {state : RollbackState} {userId : Int}
    {transactionIds : List Int} {times : Nat → Option Int} {order : List StampedRow}
    (progress : Progress tables.toRollbackState state userId transactionIds times order)
    (noneLeft : ∀ row ∈ tables.rows, doomed userId transactionIds row = true → row ∈ order) :
    RolledBack tables.toRollbackState state userId transactionIds := by
  have deletedIff : ∀ row ∈ tables.rows,
      row ∈ order ↔ doomed userId transactionIds row = true :=
    fun row member => ⟨fun listed => (progress.chosen row listed).2, noneLeft row member⟩
  constructor
  · refine ⟨fun id => (times id).getD 0, ?_⟩
    rw [progress.rows]
    apply map_congr_left
    intro row member
    unfold stamp
    have timed := (progress.timed row member).trans (deletedIff row member)
    cases isTime : times row.tx.id with
    | none =>
      rw [isTime] at timed
      rw [if_neg (by simpa using timed)]
    | some =>
      rw [isTime] at timed
      rw [if_pos (timed.mp rfl)]
      simp [isTime]
  · refine ⟨order, ?_, progress.outbox⟩
    have distinct : tables.rows.Nodup := List.Nodup.of_map _ tables.ids
    rw [perm_ext_iff_of_nodup progress.nodup (distinct.filter _)]
    intro row
    rw [mem_filter]
    constructor
    · intro listed
      exact progress.chosen row listed
    · rintro ⟨member, isDoomed⟩
      exact noneLeft row member isDoomed

/-- After any attempts and a pass that goes through, the rollback is complete, and its
reply reports success unless an id of the list is refused. -/
theorem rollback_run_complete (tables : RollbackTables) (userId : Int) (transactionIds : List Int)
    (attempts : List Attempt) (now : Nat → Int) :
    RolledBack tables.toRollbackState
        (rollbackRun userId transactionIds tables.toRollbackState attempts now).1 userId
        transactionIds ∧
      (rollbackRun userId transactionIds tables.toRollbackState attempts now).2 =
        rollbackReply (transactionIds.filter (refused userId)) := by
  obtain ⟨_, _, progress⟩ :=
    attempts_progress attempts (progress_start tables.toRollbackState userId transactionIds)
  unfold rollbackRun handleRollbackImport
  split
  · next empty =>
      refine ⟨rolled_back_of_progress progress ?_, ?_⟩
      · intro _ _ isDoomed
        simp [doomed, empty] at isDoomed
      · rw [empty]
        rfl
  · dsimp only
    obtain ⟨failed, allGone⟩ := healthy_loop now 0 (fun _ member => member) [] progress
    obtain ⟨⟨finalTimes, _, final⟩, _⟩ :=
      loop_progress (healthy now) 0 (fun _ member => member) [] progress
    rw [failed, nil_append]
    refine ⟨rolled_back_of_progress final ?_, rfl⟩
    intro row member isDoomed
    have parts : (row.deletedAt = none ∧ row.tx.userId = userId) ∧
        (row.tx.id : Int) ∈ transactionIds := by
      simpa [doomed] using isDoomed
    obtain ⟨⟨live, isUser⟩, listed⟩ := parts
    have accepted : refused userId row.tx.id = false := by
      obtain ⟨idFits, userFits⟩ := tables.columns row member
      rw [isUser] at userFits
      simp [refused, idFits, userFits]
    by_contra unlisted
    -- The row was never stamped, so it would still be live in the table.
    have untimed := (final.timed row member).not.mpr unlisted
    have present := final.rows ▸ mem_map_of_mem member
    have unstamped : stamp finalTimes row = row := by
      unfold stamp
      rw [Option.not_isSome_iff_eq_none.mp untimed]
    rw [unstamped] at present
    have isGone := allGone row.tx.id listed accepted row present
    rw [selects_iff.mpr ⟨rfl, isUser, live⟩] at isGone
    contradiction

/-- One imported coffee of user 7, never updated. -/
def coffeeRow : StampedRow where
  tx :=
    { id := 1
      userId := 7
      accountId := 1
      accountName := "Daily"
      amount := 2500
      transactionType := .expense
      description := some "coffee"
      date := { year := 2026, month := 3, day := 2, valid := by decide } }
  deletedAt := none
  createdAt := 100
  updatedAt := none
  flag := rfl

/-- A rollback at time 500 changes `updated_at` beside `deleted_at`, and an id beyond
`INTEGER` makes the reply a failure. -/
theorem rollback_stamps_update :
    ((rollbackRun 7 [1] ⟨[coffeeRow], []⟩ [] fun _ => 500).1.rows.map fun row =>
        (row.deletedAt, row.updatedAt)) = [(some 500, some 500)] ∧
      coffeeRow.updatedAt = none ∧
      (rollbackRun 7 [1, 2147483648] ⟨[coffeeRow], []⟩ [] fun _ => 500).2.success = false := by
  decide

end FinanceTracker.Transaction.RollbackImport
