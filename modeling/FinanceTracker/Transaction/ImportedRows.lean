import FinanceTracker.Transaction.Chunking
import FinanceTracker.Transaction.SagaCommands

/-!
# The rows an import inserted

What the steps of the command consumer do to the table: rows come with new ids
and the user of the command, and once a row is deleted it stays deleted.
-/

namespace FinanceTracker.Transaction.ImportedRows

open Library.Runs Shared.CommandConsumer Domain BulkImport Chunking SagaCommands List

/-- A table whose ids the sequence has already given out. -/
structure TransactionTable where
  db : TransactionDb
  ids : ∀ row ∈ db.transactions, row.id < db.nextId

/-- No live row has the id. -/
def Deleted (db : TransactionDb) (id : Nat) : Prop :=
  ∀ row ∈ db.transactions, row.id = id → row.deleted = true

instance (db : TransactionDb) (id : Nat) : Decidable (Deleted db id) :=
  inferInstanceAs (Decidable (∀ row ∈ db.transactions, row.id = id → row.deleted = true))

/-- Rows are changed by deletion only, and new ones have new ids. -/
structure Grown (db next : TransactionDb) : Prop where
  nextId : db.nextId ≤ next.nextId
  rows : ∀ row ∈ next.transactions,
    (∃ old ∈ db.transactions, old.id = row.id ∧ old.userId = row.userId ∧
      (old.deleted = true → row.deleted = true)) ∨
    (db.nextId ≤ row.id ∧ row.id < next.nextId)

theorem grown_refl (db : TransactionDb) : Grown db db :=
  ⟨Nat.le_refl _, fun row member => Or.inl ⟨row, member, rfl, rfl, id⟩⟩

variable {db next : TransactionDb} {id : Nat} {copies : ReadCopies} {userId : Int}
  {items : List BulkCreateTransactionItemDTO}

theorem deleted_stays (grown : Grown db next) (bound : id < db.nextId) (deleted : Deleted db id) :
    Deleted next id := by
  intro row member isId
  rcases grown.rows row member with ⟨old, oldMember, sameId, _, stays⟩ | ⟨new, _⟩
  · exact stays (deleted old oldMember (sameId.trans isId))
  · omega

theorem ids_stay_bounded (grown : Grown db next)
    (bounded : ∀ row ∈ db.transactions, row.id < db.nextId) :
    ∀ row ∈ next.transactions, row.id < next.nextId := by
  intro row member
  rcases grown.rows row member with ⟨old, oldMember, sameId, _⟩ | ⟨_, new⟩
  · rw [← sameId]
    exact Nat.lt_of_lt_of_le (bounded old oldMember) grown.nextId
  · exact new

variable {rows : List NewTransaction} {result : BulkCreateResultDTO} {reads : ItemReads}
  {consumer : Consumer} {label : Label}

theorem bulk_create_inserts {created : List Transaction}
    (returned : bulkCreate db rows = .ok (next, created)) :
    next = insertAll db rows ∧ created = numbered db.nextId rows := by
  induction rows generalizing db created with
  | nil =>
    cases returned
    exact ⟨(insert_all_nil _).symm, rfl⟩
  | cons row rows ih =>
    unfold bulkCreate at returned
    obtain ⟨⟨_, _⟩, isFirst, returned⟩ := bind_eq_ok.mp returned
    obtain ⟨⟨_, _⟩, isRest, returned⟩ := bind_eq_ok.mp returned
    cases returned
    unfold createRow at isFirst
    split at isFirst
    · contradiction
    · cases isFirst
      obtain ⟨inserted, isOthers⟩ := ih isRest
      rw [inserted, isOthers]
      exact ⟨insert_all_append db [row] rows, rfl⟩

theorem numbered_row {start : Nat} {row : Transaction} (member : row ∈ numbered start rows) :
    start ≤ row.id ∧ row.id < start + rows.length ∧ ∃ new ∈ rows, row.userId = new.userId := by
  induction rows generalizing start with
  | nil => contradiction
  | cons new rows ih =>
    rcases mem_cons.mp member with rfl | later
    · exact ⟨Nat.le_refl start, by simp [NewTransaction.toTransaction], new,
        mem_cons_self, rfl⟩
    · obtain ⟨_, _, other, otherMember, user⟩ := ih later
      rw [length_cons]
      exact ⟨by omega, by omega, other, mem_cons_of_mem _ otherMember, user⟩

theorem bulk_import_inserts (imported : bulkImport copies db userId items = .ok (next, result)) :
    next = withItems copies userId db (keptItems db userId items) ∧
      result.importedIds = importedIds copies userId db (keptItems db userId items) := by
  unfold bulkImport at imported
  dsimp only at imported
  rw [rows_to_insert] at imported
  obtain ⟨⟨_, _⟩, isCreated, returned⟩ := bind_eq_ok.mp imported
  cases returned
  obtain ⟨inserted, isNumbered⟩ := bulk_create_inserts isCreated
  rw [isNumbered]
  exact ⟨inserted, rfl⟩

/-- Some item of the chunk passes the duplicate checks and no such item clashes
with a row on the unique index. -/
def insertsRows (db : TransactionDb) (userId : Int)
    (items : List BulkCreateTransactionItemDTO) : Bool :=
  !(keptItems db userId items).isEmpty &&
    (keptItems db userId items).all fun item => !clashes db item

theorem inserts_rows_of_imported (imported : bulkImport copies db userId items = .ok (next, result))
    (member : id ∈ result.importedIds) : insertsRows db userId items = true := by
  unfold insertsRows
  rw [Bool.and_eq_true, Bool.not_eq_true', all_eq_true]
  constructor
  · rw [(bulk_import_inserts imported).2] at member
    cases kept : keptItems db userId items with
    | nil =>
      rw [kept] at member
      contradiction
    | cons => rfl
  · intro _ kept
    rw [Bool.not_eq_true', Bool.eq_false_iff]
    intro clash
    obtain ⟨_, failed⟩ := @bulk_import_error copies _ _ _ _ kept clash
    rw [imported] at failed
    contradiction

theorem with_items_grown (copies : ReadCopies) (userId : Int) (db : TransactionDb)
    (items : List BulkCreateTransactionItemDTO) :
    Grown db (withItems copies userId db items) := by
  constructor
  · exact Nat.le_add_right _ _
  · refine forall_mem_append.mpr ⟨fun row old => Or.inl ⟨row, old, rfl, rfl, id⟩, ?_⟩
    intro row new
    obtain ⟨lower, upper, _⟩ := numbered_row new
    exact Or.inr ⟨lower, upper⟩

theorem imported_ids_new (bounded : ∀ row ∈ db.transactions, row.id < db.nextId)
    (member : id ∈ importedIds copies userId db items) :
    db.nextId ≤ id ∧ id < (withItems copies userId db items).nextId ∧
      ∀ row ∈ (withItems copies userId db items).transactions, row.id = id →
        row.userId = userId := by
  obtain ⟨_, isCreated, rfl⟩ := mem_map.mp member
  obtain ⟨lower, upper, _⟩ := numbered_row isCreated
  refine ⟨lower, upper, ?_⟩
  intro row rowMember _
  rcases mem_append.mp rowMember with old | new
  · have early := bounded row old
    omega
  · obtain ⟨_, _, _, newMember, user⟩ := numbered_row new
    obtain ⟨_, _, rfl⟩ := mem_map.mp newMember
    exact user

theorem delete_transaction_cases {db : TransactionDb} {id : Nat} {userId : Int} :
    (∃ next, deleteTransaction db id userId = .ok next ∧ Grown db next ∧ next.nextId = db.nextId ∧
      ∀ row ∈ next.transactions, row.id = id → row.userId = userId → row.deleted = true) ∨
    ((∃ failure, deleteTransaction db id userId = .error failure) ∧
      ∀ row ∈ db.transactions, row.id = id → row.userId = userId → row.deleted = true) := by
  unfold deleteTransaction
  split
  · refine Or.inl ⟨_, rfl, ⟨Nat.le_refl _, ?_⟩, rfl, ?_⟩
    · intro _ member
      obtain ⟨old, oldMember, rfl⟩ := mem_map.mp member
      apply Or.inl
      refine ⟨old, oldMember, ?_⟩
      split <;> simp
    · intro _ member isId isUser
      obtain ⟨old, _, rfl⟩ := mem_map.mp member
      by_cases live : isLiveRow id userId old = true
      · rw [if_pos live]
      · rw [if_neg live] at isId isUser ⊢
        unfold isLiveRow at live
        simpa [isId, isUser] using live
  · next absent =>
    refine Or.inr ⟨⟨_, rfl⟩, ?_⟩
    intro row member isId isUser
    simp only [any_eq_true, not_exists, not_and, Bool.not_eq_true] at absent
    have notLive := absent row member
    unfold isLiveRow at notLive
    simpa [isId, isUser] using notLive

theorem step_grown (reads : ItemReads) (copies : ReadCopies) (consumer : Consumer)
    (label : Label) : Grown consumer.db (step reads copies consumer label).db := by
  have stepped := step_stepped reads copies consumer label
  generalize step reads copies consumer label = next at stepped ⊢
  cases stepped with
  | chunkCommitted isRunning work imported =>
    obtain ⟨inserted, _⟩ := bulk_import_inserts imported
    dsimp only
    rw [inserted]
    exact with_items_grown _ _ _ _
  | @idDeleted running userId id rest failedIds db isRunning work deleted =>
    rcases @delete_transaction_cases consumer.db id userId with
      ⟨next, returned, grown, _⟩ | ⟨⟨failure, failed⟩, _⟩
    · rw [returned] at deleted
      cases deleted
      exact grown
    · rw [failed] at deleted
      contradiction
  | idle | delivered | taken | raised | idGone | idFailed | exhausted | republished | finished
  | crashed => exact grown_refl _

def commitsRows (consumer : Consumer) (sagaId : String) : Label → Bool
  | .commitChunk =>
    consumer.running.any fun running =>
      match running.work with
      | .importing command (items :: _) _ =>
        running.message.body.sagaId = sagaId && insertsRows consumer.db command.userId items
      | _ => false
  | _ => false

theorem step_inserted {sagaId : String}
    (bounded : ∀ row ∈ consumer.db.transactions, row.id < consumer.db.nextId)
    (matching : RunningMatches consumer)
    (member : (sagaId, id) ∈ (step reads copies consumer label).inserted) :
    (sagaId, id) ∈ consumer.inserted ∨
      commitsRows consumer sagaId label = true ∧ consumer.db.nextId ≤ id ∧
        id < (step reads copies consumer label).db.nextId ∧
        ∃ running userId, consumer.running = some running ∧ running.message.body.sagaId = sagaId ∧
          running.message.body.eventType = bulkImportEventType ∧
          running.message.body.fields.userId = some userId ∧
          ∀ row ∈ (step reads copies consumer label).db.transactions, row.id = id →
            row.userId = userId := by
  have stepped := step_stepped reads copies consumer label
  generalize step reads copies consumer label = next at stepped member ⊢
  cases stepped with
  | @chunkCommitted running command items rest total result db isRunning work imported =>
    rcases mem_append.mp member with before | new
    · exact Or.inl before
    · apply Or.inr
      obtain ⟨_, isImported, same⟩ := mem_map.mp new
      cases same
      have inserts := inserts_rows_of_imported imported isImported
      obtain ⟨inserted, ids⟩ := bulk_import_inserts imported
      rw [ids] at isImported
      obtain ⟨lower, upper, users⟩ := imported_ids_new bounded isImported
      have matched := matching running isRunning
      unfold WorkMatches at matched
      rw [work] at matched
      refine ⟨?_, lower, ?_, running, command.userId, isRunning, rfl, matched.1, matched.2, ?_⟩
      · unfold commitsRows
        rw [isRunning]
        simp [work, inserts]
      · dsimp only
        rw [inserted]
        exact upper
      · dsimp only
        rw [inserted]
        exact users
  | idle | delivered | taken | raised | idDeleted | idGone | idFailed | exhausted | republished
  | finished | crashed => exact Or.inl member

/-- Where a running rollback comes from: it ran before, has just begun, or has
worked off one more id, which failed or has no live row of the user left. -/
theorem step_rollback {running : Running Work} {rest failedIds : List Nat}
    (isRunning : (step reads copies consumer label).running = some running)
    (work : running.work = .rollingBack userId rest failedIds) :
    consumer.running = some running ∨ beginWork reads running.message.body = some running.work ∨
      ∃ before id failedBefore, consumer.running = some before ∧ before.message = running.message ∧
        before.work = .rollingBack userId (id :: rest) failedBefore ∧
        (failedIds = failedBefore ++ [id] ∨ failedIds = failedBefore ∧
            ∀ row ∈ (step reads copies consumer label).db.transactions, row.id = id →
              row.userId = userId → row.deleted = true) := by
  have stepped := step_stepped reads copies consumer label
  generalize step reads copies consumer label = next at stepped isRunning ⊢
  cases stepped with
  | idle | delivered => exact Or.inl isRunning
  | taken =>
    rcases take_running isRunning with before | begun
    · exact Or.inl before
    · exact Or.inr (Or.inl begun)
  | chunkCommitted | raised =>
    cases isRunning
    contradiction
  | @idDeleted before user id later failedBefore db wasRunning earlier deleted =>
    cases isRunning
    cases work
    refine Or.inr (Or.inr ⟨before, id, _, wasRunning, rfl, earlier, Or.inr ⟨rfl, ?_⟩⟩)
    rcases @delete_transaction_cases consumer.db id userId with
      ⟨next, returned, _, _, gone⟩ | ⟨⟨failure, failed⟩, _⟩
    · rw [returned] at deleted
      cases deleted
      exact gone
    · rw [failed] at deleted
      contradiction
  | @idGone before user id later failedBefore failure wasRunning earlier absent =>
    cases isRunning
    cases work
    refine Or.inr (Or.inr ⟨before, id, _, wasRunning, rfl, earlier, Or.inr ⟨rfl, ?_⟩⟩)
    rcases @delete_transaction_cases consumer.db id userId with
      ⟨next, returned, _⟩ | ⟨_, gone⟩
    · rw [returned] at absent
      contradiction
    · exact gone
  | @idFailed before user id later failedBefore wasRunning earlier =>
    cases isRunning
    cases work
    exact Or.inr (Or.inr ⟨before, id, failedBefore, wasRunning, rfl, earlier, Or.inl rfl⟩)
  | exhausted | republished | finished | crashed => contradiction

end FinanceTracker.Transaction.ImportedRows
