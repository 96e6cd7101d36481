import FinanceTracker.System.BankSyncRuns

/-!
# What a bank sync deletes

The only change a bank sync makes to a stored transaction is the mark of its deletion,
and only the rollback of a saga that has given up sets it, on a transaction of the
saga's user whose id the saga has recorded as imported.
-/

namespace FinanceTracker.System.ImportDeletions

open Library KeyedRows Runs Shared.CommandConsumer Saga.BankSyncCommands Transaction.Domain
  Transaction.BulkImport Transaction.ImportedRows BankSyncRuns List
open Transaction.SagaCommands (Consumer WorkMatches begun_rollback deleteTransaction isLiveRow
  step_stepped)
open Banking.MarkSyncComplete (BankConnection)

/-- A running rollback has only ids left that its command lists. -/
def RollsBackListed (consumer : Consumer) : Prop :=
  ∀ running userId rest failedIds, consumer.running = some running →
    running.work = .rollingBack userId rest failedIds →
      ∀ id ∈ rest, id ∈ running.message.body.fields.transactionIds.getD []

/-- A row that is not kept is marked deleted by a rollback that lists it. -/
def DeletesListed (system next : BankSyncSystem) : Prop :=
  ∀ row ∈ system.transaction.db.transactions, row ∉ next.transaction.db.transactions →
    { row with deleted := true } ∈ next.transaction.db.transactions ∧
      ∃ saga ∈ system.saga.sagas, GivenUp saga ∧ saga.context.userId = some row.userId ∧
        row.id ∈ saga.context.importedIds.getD []

theorem step_keeps_listed {reads : ItemReads} {copies : ReadCopies} {consumer : Consumer}
    (label : Transaction.SagaCommands.Label) (listed : RollsBackListed consumer) :
    RollsBackListed (Transaction.SagaCommands.step reads copies consumer label) := by
  intro running userId rest failedIds isRunning work id member
  rcases step_rollback isRunning work with
    before | begun | ⟨before, _, _, wasRunning, sameMessage, wasWork, _⟩
  · exact listed running userId rest failedIds before work id member
  · rw [work] at begun
    rw [← begun_rollback begun]
    exact member
  · rw [← sameMessage]
    exact listed before _ _ _ wasRunning wasWork id (mem_cons_of_mem _ member)

theorem delete_transaction_changes {db next : TransactionDb} {id : Nat} {userId : Int}
    (deleted : deleteTransaction db id userId = .ok next) {row : Transaction}
    (member : row ∈ db.transactions) :
    row ∈ next.transactions ∨ ({ row with deleted := true } ∈ next.transactions ∧
      row.id = id ∧ row.userId = userId) := by
  unfold deleteTransaction at deleted
  split at deleted
  · cases deleted
    by_cases live : isLiveRow id userId row = true
    · refine Or.inr ⟨mem_map.mpr ⟨row, member, if_pos live⟩, ?_⟩
      simp only [isLiveRow, Bool.and_eq_true, decide_eq_true_eq] at live
      exact live.1
    · exact Or.inl (mem_map.mpr ⟨row, member, if_neg live⟩)
  · cases deleted

theorem step_deletes_listed (environment : Environment) {system : BankSyncSystem} (label : Label)
    (invariant : SystemInvariant system) (listed : RollsBackListed system.transaction) :
    DeletesListed system (step environment system label) := by
  have moved := step_moved environment system label
  generalize step environment system label = next at moved ⊢
  intro row member gone
  cases moved with
  | idle _ transaction | called _ _ _ transaction | banking _ _ _ transaction =>
    rw [transaction] at gone
    exact absurd member gone
  | transaction inner _ _ transaction =>
    rw [transaction] at gone ⊢
    have stepped := step_stepped environment.reads environment.copies system.transaction inner
    generalize Transaction.SagaCommands.step environment.reads environment.copies system.transaction
      inner = consumer at stepped gone ⊢
    cases stepped with
    | chunkCommitted isRunning work imported =>
      refine absurd ?_ gone
      dsimp only
      rw [(bulk_import_inserts imported).1]
      exact mem_append_left _ member
    | @idDeleted running userId id rest failedIds db isRunning work deleted =>
      rcases delete_transaction_changes deleted member with kept | ⟨marked, rfl, rfl⟩
      · exact absurd kept gone
      · obtain ⟨saga, found, commandOf⟩ :=
          invariant.transactionCommands _ (running_holds isRunning)
        have matched := invariant.matching running isRunning
        unfold WorkMatches at matched
        rw [work] at matched
        obtain ⟨givenUp, isUser, isIds⟩ := commandOf.rollsBack matched.1
        have inCommand := listed running _ _ _ isRunning work row.id mem_cons_self
        rw [isIds] at inCommand
        exact ⟨marked, saga, (lookup_mem found).1, givenUp, isUser.symm.trans matched.2, inCommand⟩
    | _ => exact absurd member gone

theorem step_listed (environment : Environment) (system : BankSyncSystem) (label : Label)
    (invariant : SystemInvariant system ∧ RollsBackListed system.transaction) :
    SystemInvariant (step environment system label) ∧
      RollsBackListed (step environment system label).transaction := by
  refine ⟨step_keeps_system environment system label invariant.1, ?_⟩
  have moved := step_moved environment system label
  generalize step environment system label = next at moved ⊢
  cases moved with
  | idle _ transaction | called _ _ _ transaction | banking _ _ _ transaction =>
    rw [transaction]
    exact invariant.2
  | transaction inner _ _ transaction =>
    rw [transaction]
    exact step_keeps_listed inner invariant.2

/-- In every run of the services, from any stored transactions and connections. -/
theorem runs_delete_listed (environment : Environment) (table : TransactionTable)
    (connections : List BankConnection) (labels : List Label) (label : Label) :
    DeletesListed (runFrom (step environment) (initial table connections) labels)
      (runFrom (step environment) (initial table connections) (labels ++ [label])) := by
  have invariant := run_keeps (step environment) (step_listed environment)
    ⟨initial_system table connections, fun _ _ _ _ isRunning => by cases isRunning⟩ labels
  rw [run_from_snoc]
  exact step_deletes_listed environment label invariant.1 invariant.2

end FinanceTracker.System.ImportDeletions
