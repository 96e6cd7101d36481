import FinanceTracker.Shared.CommandConsumer
import FinanceTracker.Transaction.BulkImport

/-!
# The saga command consumer of transaction-service

`TransactionSagaCommandConsumer` as a labelled system. A handler commits chunk by
chunk or deletes row by row, and can raise or be cut off between any two of
these.

Two ghost fields stand beside the code's state: `inserted` records the saga and
id of each row an import inserted, and a published reply names its command.
-/

namespace FinanceTracker.Transaction.SagaCommands

open Library.Runs Shared.CommandConsumer Shared.SagaMessages Domain BulkImport List

def bulkImportEventType : String := "saga.cmd.bulk_import_transactions"

def rollbackImportEventType : String := "saga.cmd.rollback_import"

/-- `str(exc)`. -/
def errorText : TransactionError → String
  | .transactionNotFound transactionId => "Transaction " ++ toString transactionId ++ " not found"
  | .subcategoryNotFound subcategoryId => "Subcategory " ++ toString subcategoryId ++ " not found"
  | .subcategoryMismatch subcategoryId categoryId =>
    "Subcategory " ++ toString subcategoryId ++ " does not belong to category " ++
      (categoryId.map toString).getD "None"
  | .invalidInput message => message
  | .database message => message

def isLiveRow (transactionId : Nat) (userId : Int) (row : Transaction) : Bool :=
  row.id = transactionId && row.userId = userId && !row.deleted

def deleteTransaction (db : TransactionDb) (transactionId : Nat) (userId : Int) :
    Except TransactionError TransactionDb :=
  if db.transactions.any (isLiveRow transactionId userId) then
    .ok { db with
      transactions := db.transactions.map fun row =>
        if isLiveRow transactionId userId row then { row with deleted := true } else row }
  else .error (.transactionNotFound transactionId)

/-- What a handler still has to do. -/
inductive Work where
  | importing (command : BulkImportCommand) (rest : List (List BulkCreateTransactionItemDTO))
      (total : BulkCreateResultDTO)
  | rollingBack (userId : Int) (rest failedIds : List Nat)
  | raised (error : String)
  deriving DecidableEq

def bodyKey {Value : Type} (key : String) (value : Option Value) : Except String Value :=
  match value with
  | some value => .ok value
  | none => .error ("'" ++ key ++ "'")

def readImportCommand (fields : CommandFields) : Except String BulkImportCommand := do
  let userId ← bodyKey "user_id" fields.userId
  let accountId ← bodyKey "account_id" fields.accountId
  let accountName ← bodyKey "account_name" fields.accountName
  return {
    userId := userId
    accountId := accountId
    accountName := accountName
    items := fields.items.getD [] }

def beginImport (reads : ItemReads) (fields : CommandFields) : Work :=
  match readImportCommand fields with
  | .error failure => .raised failure
  | .ok command =>
    match parseItems reads command with
    | .error failure => .raised (errorText failure)
    | .ok items =>
      .importing command ((List.range (chunkCount items)).map (chunk items)) .empty

def beginRollback (fields : CommandFields) : Work :=
  match bodyKey "user_id" fields.userId with
  | .error failure => .raised failure
  | .ok userId => .rollingBack userId (fields.transactionIds.getD []) []

/-- The handler a message starts; none for an unknown command. -/
def beginWork (reads : ItemReads) (body : SagaCommand) : Option Work :=
  if body.eventType = bulkImportEventType then some (beginImport reads body.fields)
  else if body.eventType = rollbackImportEventType then some (beginRollback body.fields)
  else none

theorem begin_import_cases (reads : ItemReads) (fields : CommandFields) :
    (∃ error, beginImport reads fields = .raised error) ∨
      ∃ command items, readImportCommand fields = .ok command ∧
        parseItems reads command = .ok items ∧
        beginImport reads fields =
          .importing command ((List.range (chunkCount items)).map (chunk items)) .empty := by
  unfold beginImport
  cases readImportCommand fields with
  | error failure => exact Or.inl ⟨failure, rfl⟩
  | ok command =>
    dsimp only
    cases parsed : parseItems reads command with
    | error failure => exact Or.inl ⟨errorText failure, rfl⟩
    | ok items => exact Or.inr ⟨command, items, rfl, parsed, rfl⟩

theorem begin_rollback_cases (fields : CommandFields) :
    (∃ error, beginRollback fields = .raised error) ∨ ∃ userId, fields.userId = some userId ∧
        beginRollback fields = .rollingBack userId (fields.transactionIds.getD []) [] := by
  unfold beginRollback
  cases fields.userId with
  | none => exact Or.inl ⟨_, rfl⟩
  | some userId => exact Or.inr ⟨userId, rfl, rfl⟩

variable {reads : ItemReads} {body : SagaCommand} {running : Running Work} {copies : ReadCopies}
  {command : BulkImportCommand} {total : BulkCreateResultDTO}
  {items : List BulkCreateTransactionItemDTO}

/-- A message starts a handler of its own kind, or none. -/
theorem begin_work_cases {work : Work} (begun : beginWork reads body = some work) :
    (body.eventType = bulkImportEventType ∧ work = beginImport reads body.fields) ∨
      (body.eventType = rollbackImportEventType ∧ work = beginRollback body.fields) := by
  unfold beginWork at begun
  split at begun
  · next isImport =>
    cases begun
    exact Or.inl ⟨isImport, rfl⟩
  · split at begun
    · next isRollback =>
      cases begun
      exact Or.inr ⟨isRollback, rfl⟩
    · contradiction

variable {userId : Int} {ids failedIds : List Nat} {rest : List (List BulkCreateTransactionItemDTO)}

theorem begun_rollback (begun : beginWork reads body = some (.rollingBack userId ids failedIds)) :
    ids = body.fields.transactionIds.getD [] := by
  rcases begin_work_cases begun with ⟨_, isWork⟩ | ⟨_, isWork⟩
  · rcases begin_import_cases reads body.fields with
      ⟨error, raised⟩ | ⟨command, items, _, _, importing⟩
    · rw [raised] at isWork
      contradiction
    · rw [importing] at isWork
      contradiction
  · rcases begin_rollback_cases body.fields with ⟨error, raised⟩ | ⟨user, _, rolling⟩
    · rw [raised] at isWork
      contradiction
    · rw [rolling] at isWork
      cases isWork
      rfl

def importReply (total : BulkCreateResultDTO) : ReplyData where
  success := true
  resultData := some {
    imported := some total.imported
    duplicatesSkipped := some total.duplicatesSkipped
    errors := some total.errors
    importedIds := some total.importedIds }

def rollbackReply (failedIds : List Nat) : ReplyData :=
  if failedIds = [] then { success := true, isCompensation := true }
  else
    { success := false
      errorMessage := some ("Failed to roll back transactions: " ++ toString failedIds)
      isCompensation := true }

/-- What the handler returns once nothing is left to do. -/
def finishedReply : Work → Option ReplyData
  | .importing _ [] total => some (importReply total)
  | .rollingBack _ [] failedIds => some (rollbackReply failedIds)
  | _ => none

/-- The reply after the last retry; it does not set `is_compensation`. -/
def exhaustedReply (error : String) : ReplyData where
  success := false
  errorMessage := some error

structure PublishedReply where
  reply : SagaReply
  command : SagaCommand
  deriving DecidableEq

def publishedReply (command : SagaCommand) (data : ReplyData) : PublishedReply where
  reply :=
    { sagaId := command.sagaId
      stepName := command.stepName
      success := data.success
      errorMessage := data.errorMessage
      resultData := data.resultData
      isCompensation := data.isCompensation }
  command := command

structure Consumer extends CommandQueue Work where
  db : TransactionDb
  replies : List PublishedReply := []
  inserted : List (String × Nat) := []
  deriving DecidableEq

/-- `raise` is an exception from outside the modelled code, such as the database
or the broker; `settle` is the except branch of `_on_message`. With `acked` false
the acknowledgement is lost and the broker redelivers the message. -/
inductive Label where
  | deliver (body : SagaCommand)
  | take (index : Nat)
  | commitChunk
  | deleteNext (fails : Bool)
  | raise (error : String)
  | settle (acked : Bool)
  | finish (acked : Bool)
  | crash
  deriving DecidableEq

def setWork (consumer : Consumer) (running : Running Work) (work : Work) : Consumer :=
  { consumer with toCommandQueue := consumer.toCommandQueue.setWork running work }

def commitNextChunk (copies : ReadCopies) (consumer : Consumer) (running : Running Work) : Consumer :=
  match running.work with
  | .importing command (items :: rest) total =>
    match bulkImport copies consumer.db command.userId items with
    | .error failure => setWork consumer running (.raised (errorText failure))
    | .ok (db, result) =>
      { setWork consumer running (.importing command rest (total.add result)) with
        db := db
        inserted := consumer.inserted ++
          result.importedIds.map fun id => (running.message.body.sagaId, id) }
  | _ => consumer

/-- The next id of a rollback; an id whose row is gone counts as done, and any
other exception is recorded. -/
def deleteNextId (consumer : Consumer) (running : Running Work) (fails : Bool) : Consumer :=
  match running.work with
  | .rollingBack userId (id :: rest) failedIds =>
    if fails then setWork consumer running (.rollingBack userId rest (failedIds ++ [id]))
    else
      match deleteTransaction consumer.db id userId with
      | .ok db => { setWork consumer running (.rollingBack userId rest failedIds) with db := db }
      | .error _ => setWork consumer running (.rollingBack userId rest failedIds)
  | _ => consumer

def settleMessage (consumer : Consumer) (message : CommandMessage) (acked : Bool) : Consumer :=
  { consumer with toCommandQueue := consumer.toCommandQueue.settle message acked }

def publishReply (consumer : Consumer) (command : SagaCommand) (data : ReplyData) : Consumer :=
  { consumer with replies := consumer.replies ++ [publishedReply command data] }

def settleRaised (consumer : Consumer) (running : Running Work) (acked : Bool) : Consumer :=
  match running.work with
  | .raised error =>
    if maxRetries ≤ running.message.retryCount then
      publishReply (settleMessage consumer running.message acked) running.message.body
        (exhaustedReply error)
    else
      { consumer with
        toCommandQueue := consumer.toCommandQueue.republish running.message acked }
  | _ => consumer

def finishWork (consumer : Consumer) (running : Running Work) (acked : Bool) : Consumer :=
  match finishedReply running.work with
  | some data =>
    publishReply (settleMessage consumer running.message acked) running.message.body data
  | none => consumer

def step (reads : ItemReads) (copies : ReadCopies) (consumer : Consumer) : Label → Consumer
  | .deliver body => { consumer with toCommandQueue := consumer.toCommandQueue.deliver body }
  | .take index =>
    { consumer with toCommandQueue := consumer.toCommandQueue.take (beginWork reads) index }
  | .commitChunk => consumer.running.elim consumer (commitNextChunk copies consumer)
  | .deleteNext fails =>
    consumer.running.elim consumer fun running => deleteNextId consumer running fails
  | .raise error =>
    consumer.running.elim consumer fun running => setWork consumer running (.raised error)
  | .settle acked =>
    consumer.running.elim consumer fun running => settleRaised consumer running acked
  | .finish acked =>
    consumer.running.elim consumer fun running => finishWork consumer running acked
  | .crash =>
    consumer.running.elim consumer fun running => settleMessage consumer running.message false

/-- The steps of the consumer, each with the guard it passed. -/
inductive Stepped (reads : ItemReads) (copies : ReadCopies) (consumer : Consumer) :
    Label → Consumer → Prop
  | idle {label : Label} : Stepped reads copies consumer label consumer
  | delivered {body : SagaCommand} :
      Stepped reads copies consumer (.deliver body)
        { consumer with toCommandQueue := consumer.toCommandQueue.deliver body }
  | taken {index : Nat} :
      Stepped reads copies consumer (.take index)
        { consumer with toCommandQueue := consumer.toCommandQueue.take (beginWork reads) index }
  | chunkCommitted {running : Running Work} {command : BulkImportCommand}
      {items : List BulkCreateTransactionItemDTO}
      {rest : List (List BulkCreateTransactionItemDTO)} {total result : BulkCreateResultDTO}
      {db : TransactionDb} (isRunning : consumer.running = some running)
      (work : running.work = .importing command (items :: rest) total)
      (imported : bulkImport copies consumer.db command.userId items = .ok (db, result)) :
      Stepped reads copies consumer .commitChunk
        { setWork consumer running (.importing command rest (total.add result)) with
          db := db
          inserted := consumer.inserted ++
            result.importedIds.map fun id => (running.message.body.sagaId, id) }
  | raised {label : Label} {running : Running Work} {error : String}
      (isRunning : consumer.running = some running) :
      Stepped reads copies consumer label (setWork consumer running (.raised error))
  | idDeleted {running : Running Work} {userId : Int} {id : Nat} {rest failedIds : List Nat}
      {db : TransactionDb} (isRunning : consumer.running = some running)
      (work : running.work = .rollingBack userId (id :: rest) failedIds)
      (deleted : deleteTransaction consumer.db id userId = .ok db) :
      Stepped reads copies consumer (.deleteNext false)
        { setWork consumer running (.rollingBack userId rest failedIds) with db := db }
  | idGone {running : Running Work} {userId : Int} {id : Nat} {rest failedIds : List Nat}
      {failure : TransactionError} (isRunning : consumer.running = some running)
      (work : running.work = .rollingBack userId (id :: rest) failedIds)
      (absent : deleteTransaction consumer.db id userId = .error failure) :
      Stepped reads copies consumer (.deleteNext false)
        (setWork consumer running (.rollingBack userId rest failedIds))
  | idFailed {running : Running Work} {userId : Int} {id : Nat} {rest failedIds : List Nat}
      (isRunning : consumer.running = some running)
      (work : running.work = .rollingBack userId (id :: rest) failedIds) :
      Stepped reads copies consumer (.deleteNext true)
        (setWork consumer running (.rollingBack userId rest (failedIds ++ [id])))
  | exhausted {running : Running Work} {error : String} {acked : Bool}
      (isRunning : consumer.running = some running) (work : running.work = .raised error)
      (noRetry : maxRetries ≤ running.message.retryCount) :
      Stepped reads copies consumer (.settle acked)
        (publishReply (settleMessage consumer running.message acked) running.message.body
          (exhaustedReply error))
  | republished {running : Running Work} {error : String} {acked : Bool}
      (isRunning : consumer.running = some running) (work : running.work = .raised error)
      (retry : running.message.retryCount < maxRetries) :
      Stepped reads copies consumer (.settle acked)
        { consumer with
          toCommandQueue := consumer.toCommandQueue.republish running.message acked }
  | finished {running : Running Work} {data : ReplyData} {acked : Bool}
      (isRunning : consumer.running = some running)
      (done : finishedReply running.work = some data) :
      Stepped reads copies consumer (.finish acked)
        (publishReply (settleMessage consumer running.message acked) running.message.body data)
  | crashed {running : Running Work} (isRunning : consumer.running = some running) :
      Stepped reads copies consumer .crash (settleMessage consumer running.message false)

variable {consumer : Consumer}

theorem commit_chunk_stepped (reads : ItemReads) (copies : ReadCopies)
    (isRunning : consumer.running = some running) :
    Stepped reads copies consumer .commitChunk (commitNextChunk copies consumer running) := by
  unfold commitNextChunk
  split
  · next command items rest total work =>
    split
    · exact .raised isRunning
    · next db result imported => exact .chunkCommitted isRunning work imported
  · exact .idle

theorem delete_next_stepped (reads : ItemReads) (copies : ReadCopies)
    (isRunning : consumer.running = some running) (fails : Bool) :
    Stepped reads copies consumer (.deleteNext fails)
      (deleteNextId consumer running fails) := by
  unfold deleteNextId
  split
  · next userId id rest failedIds work =>
    cases fails with
    | true => exact .idFailed isRunning work
    | false =>
      simp only [Bool.false_eq_true, if_false]
      split
      · next db deleted => exact .idDeleted isRunning work deleted
      · next failure absent => exact .idGone isRunning work absent
  · exact .idle

theorem settle_stepped (reads : ItemReads) (copies : ReadCopies)
    (isRunning : consumer.running = some running) (acked : Bool) :
    Stepped reads copies consumer (.settle acked) (settleRaised consumer running acked) := by
  unfold settleRaised
  split
  · next error work =>
    split
    · next noRetry => exact .exhausted isRunning work noRetry
    · next retry => exact .republished isRunning work (Nat.lt_of_not_le retry)
  · exact .idle

theorem finish_stepped (reads : ItemReads) (copies : ReadCopies)
    (isRunning : consumer.running = some running) (acked : Bool) :
    Stepped reads copies consumer (.finish acked) (finishWork consumer running acked) := by
  unfold finishWork
  split
  · next data done => exact .finished isRunning done
  · exact .idle

theorem step_stepped (reads : ItemReads) (copies : ReadCopies) (consumer : Consumer)
    (label : Label) : Stepped reads copies consumer label (step reads copies consumer label) := by
  cases label with
  | deliver => exact .delivered
  | take => exact .taken
  | commitChunk =>
    unfold step
    cases isRunning : consumer.running with
    | none => exact .idle
    | some => exact commit_chunk_stepped reads copies isRunning
  | deleteNext fails =>
    unfold step
    cases isRunning : consumer.running with
    | none => exact .idle
    | some => exact delete_next_stepped reads copies isRunning fails
  | raise =>
    unfold step
    cases isRunning : consumer.running with
    | none => exact .idle
    | some => exact .raised isRunning
  | settle acked =>
    unfold step
    cases isRunning : consumer.running with
    | none => exact .idle
    | some => exact settle_stepped reads copies isRunning acked
  | finish acked =>
    unfold step
    cases isRunning : consumer.running with
    | none => exact .idle
    | some => exact finish_stepped reads copies isRunning acked
  | crash =>
    unfold step
    cases isRunning : consumer.running with
    | none => exact .idle
    | some => exact .crashed isRunning

variable {label : Label}

/-- A command in hand after a step was in hand before it or has just arrived. -/
theorem step_holds (holds : (step reads copies consumer label).Holds body) :
    consumer.Holds body ∨ label = .deliver body := by
  have stepped := step_stepped reads copies consumer label
  generalize step reads copies consumer label = next at stepped holds
  cases stepped with
  | idle => exact Or.inl holds
  | delivered =>
    rcases deliver_holds holds with before | rfl
    · exact Or.inl before
    · exact Or.inr rfl
  | taken => exact Or.inl (take_holds holds)
  | chunkCommitted isRunning | raised isRunning | idDeleted isRunning | idGone isRunning
  | idFailed isRunning => exact Or.inl (set_work_holds isRunning holds)
  | exhausted isRunning | finished isRunning | crashed isRunning => exact Or.inl (settle_holds isRunning holds)
  | republished isRunning => exact Or.inl (republish_holds isRunning holds)

/-- A handler works on a command of its own kind, for the user the command names. -/
def WorkMatches (running : Running Work) : Prop :=
  match running.work with
  | .importing command _ _ =>
    running.message.body.eventType = bulkImportEventType ∧
      running.message.body.fields.userId = some command.userId
  | .rollingBack userId _ _ =>
    running.message.body.eventType = rollbackImportEventType ∧
      running.message.body.fields.userId = some userId
  | .raised _ => True

theorem read_import_command_user {fields : CommandFields}
    (read : readImportCommand fields = .ok command) : fields.userId = some command.userId := by
  unfold readImportCommand at read
  obtain ⟨_, isUser, read⟩ := bind_eq_ok.mp read
  obtain ⟨_, read⟩ := rest_ok read
  obtain ⟨_, read⟩ := rest_ok read
  cases read
  unfold bodyKey at isUser
  split at isUser
  · next given =>
    cases isUser
    exact given
  · contradiction

theorem begin_work_matches (begun : beginWork reads running.message.body = some running.work) :
    WorkMatches running := by
  unfold WorkMatches
  rcases begin_work_cases begun with ⟨isImport, work⟩ | ⟨isRollback, work⟩
  · rw [work]
    rcases begin_import_cases reads running.message.body.fields with
      ⟨error, raised⟩ | ⟨command, items, read, _, importing⟩
    · rw [raised]
      trivial
    · rw [importing]
      exact ⟨isImport, read_import_command_user read⟩
  · rw [work]
    rcases begin_rollback_cases running.message.body.fields with
      ⟨error, raised⟩ | ⟨userId, given, rolling⟩
    · rw [raised]
      trivial
    · rw [rolling]
      exact ⟨isRollback, given⟩

theorem import_goes_on {chunks later : List (List BulkCreateTransactionItemDTO)}
    {sum : BulkCreateResultDTO} (work : running.work = .importing command chunks total)
    (matching : WorkMatches running) :
    WorkMatches { running with work := .importing command later sum } := by
  unfold WorkMatches at matching ⊢
  rw [work] at matching
  exact matching

theorem rollback_goes_on {later failedLater : List Nat}
    (work : running.work = .rollingBack userId ids failedIds) (matching : WorkMatches running) :
    WorkMatches { running with work := .rollingBack userId later failedLater } := by
  unfold WorkMatches at matching ⊢
  rw [work] at matching
  exact matching

/-- What every run keeps: the running handler matches its message. -/
def RunningMatches (consumer : Consumer) : Prop :=
  ∀ running, consumer.running = some running → WorkMatches running

theorem step_keeps_matches (consumer : Consumer) (label : Label)
    (invariant : RunningMatches consumer) :
    RunningMatches (step reads copies consumer label) := by
  have stepped := step_stepped reads copies consumer label
  generalize step reads copies consumer label = next at stepped ⊢
  cases stepped with
  | idle | delivered => exact invariant
  | taken =>
    intro running isRunning
    rcases take_running isRunning with before | begun
    · exact invariant running before
    · exact begin_work_matches begun
  | chunkCommitted isRunning work =>
    intro _ isNext
    cases isNext
    exact import_goes_on work (invariant _ isRunning)
  | raised =>
    intro _ isNext
    cases isNext
    trivial
  | idDeleted isRunning work | idGone isRunning work | idFailed isRunning work =>
    intro _ isNext
    cases isNext
    exact rollback_goes_on work (invariant _ isRunning)
  | exhausted | republished | finished | crashed => intro running isRunning; contradiction

theorem step_replies {published : PublishedReply}
    (member : published ∈ (step reads copies consumer label).replies) :
    published ∈ consumer.replies ∨ ∃ running data, consumer.running = some running ∧
      published = publishedReply running.message.body data ∧
      (finishedReply running.work = some data ∨ ∃ error, data = exhaustedReply error) := by
  have stepped := step_stepped reads copies consumer label
  generalize step reads copies consumer label = next at stepped member
  cases stepped with
  | @exhausted running error acked isRunning work noRetry =>
    rcases mem_snoc.mp member with before | new
    · exact Or.inl before
    · exact Or.inr ⟨running, exhaustedReply error, isRunning, new,
        Or.inr ⟨error, rfl⟩⟩
  | @finished running data acked isRunning done =>
    rcases mem_snoc.mp member with before | new
    · exact Or.inl before
    · exact Or.inr ⟨running, data, isRunning, new, Or.inl done⟩
  | idle | delivered | taken | chunkCommitted | raised | idDeleted | idGone | idFailed
  | republished | crashed => exact Or.inl member

theorem finished_compensation {data : ReplyData} (done : finishedReply running.work = some data)
    (flagged : data.isCompensation = true) :
    ∃ userId failedIds, running.work = .rollingBack userId [] failedIds ∧
      data = rollbackReply failedIds := by
  unfold finishedReply at done
  split at done
  · cases done
    contradiction
  · next userId failedIds work =>
    cases done
    exact ⟨userId, failedIds, work, rfl⟩
  · contradiction

end FinanceTracker.Transaction.SagaCommands
