import FinanceTracker.Shared.CommandConsumer
import FinanceTracker.Banking.ExactlyOnce

/-!
# The saga command consumer of banking-service

`BankingSagaCommandConsumer` as a labelled system. The handler of
mark_sync_complete runs statement by statement and can raise or be cut off
between any two of them, also after its commit. What the consent check and the
bank's API give to a fetch is the environment's choice. The claim statements of
the sync API fall in between.
-/

namespace FinanceTracker.Banking.SagaCommands

open Shared.CommandConsumer Shared.SagaMessages MarkSyncComplete ExactlyOnce

def fetchEventType : String := "saga.cmd.bank_fetch_transactions"

def markSyncCompleteEventType : String := "saga.cmd.mark_sync_complete"

/-- What `_reject_if_consent_expired` and the bank's API come to. -/
inductive FetchOutcome where
  | expired (message : String)
  | fetched (items : List FetchedItem) (totalFetched parseSkipped errors : Int)
  deriving DecidableEq

def fetchReply : FetchOutcome → ReplyData
  | .expired message => { success := false, errorMessage := some message }
  | .fetched items totalFetched parseSkipped errors =>
    { success := true
      resultData := some {
        items := some items
        totalFetched := some totalFetched
        parseSkipped := some parseSkipped
        errors := some errors } }

def markBody (body : SagaCommand) : MarkSyncCommand where
  connectionId := body.fields.connectionId
  userId := body.fields.userId
  sagaId := some body.sagaId
  stepName := some body.stepName
  totalFetched := body.fields.totalFetched
  newImported := body.fields.newImported
  duplicatesSkipped := body.fields.duplicatesSkipped
  errors := body.fields.errors
  parseSkipped := body.fields.parseSkipped

/-- What a handler still has to do. -/
inductive Work where
  | fetching
  | fetched (data : ReplyData)
  | marking (progress : Progress)
  | raised (error : String)
  deriving DecidableEq

def beginFetch (fields : CommandFields) : Work :=
  match fields.connectionId with
  | none => .raised "'connection_id'"
  | some _ => .fetching

/-- The handler a message starts; none for an unknown command. -/
def beginWork (body : SagaCommand) : Option Work :=
  if body.eventType = fetchEventType then some (beginFetch body.fields)
  else if body.eventType = markSyncCompleteEventType then some (.marking .started)
  else none

/-- What the handler returns once nothing is left to do. -/
def finishedReply : Work → Option ReplyData
  | .fetched data => some data
  | .marking (.returned success) => some { success := success }
  | _ => none

def exhaustedReply (error : String) : ReplyData where
  success := false
  errorMessage := some error

/-- `_publish_reply`; it never sets `is_compensation`. -/
def publishedReply (command : SagaCommand) (data : ReplyData) : SagaReply where
  sagaId := command.sagaId
  stepName := command.stepName
  success := data.success
  errorMessage := data.errorMessage
  resultData := data.resultData
  isCompensation := false

structure Consumer extends CommandQueue Work where
  db : BankingDb
  replies : List SagaReply := []
  deriving DecidableEq

inductive ClaimStatement where
  | tryClaim (connectionId sagaId : String) (now ttl : Instant) (trigger : SyncTrigger)
  | stealClaim (connectionId oldSagaId newSagaId : String) (now : Instant)
      (trigger : SyncTrigger)
  | escalate (connectionId sagaId : String)
  deriving DecidableEq

def runClaim (db : BankingDb) : ClaimStatement → BankingDb
  | .tryClaim connectionId sagaId now ttl trigger =>
    tryClaimSync db connectionId sagaId now ttl trigger
  | .stealClaim connectionId oldSagaId newSagaId now trigger =>
    stealSyncClaim db connectionId oldSagaId newSagaId now trigger
  | .escalate connectionId sagaId => escalateTriggerToManual db connectionId sagaId

/-- `raise` is an exception from outside the modelled code or the one that
aborted a statement; `settle` is the except branch of `_on_message`. With `acked`
false the acknowledgement is lost and the broker redelivers the message. -/
inductive Label where
  | deliver (body : SagaCommand)
  | take (index : Nat)
  | fetch (outcome : FetchOutcome)
  | advance (now : Instant)
  | claim (statement : ClaimStatement)
  | raise (error : String)
  | settle (acked : Bool)
  | finish (acked : Bool)
  | crash
  deriving DecidableEq

def setWork (consumer : Consumer) (running : Running Work) (work : Work) : Consumer :=
  { consumer with toCommandQueue := consumer.toCommandQueue.setWork running work }

def runFetch (consumer : Consumer) (running : Running Work) (outcome : FetchOutcome) :
    Consumer :=
  match running.work with
  | .fetching => setWork consumer running (.fetched (fetchReply outcome))
  | _ => consumer

/-- The next statement of `_handle_mark_sync_complete`. -/
def advanceMark (parseUuid : String → Option String) (consumer : Consumer)
    (running : Running Work) (now : Instant) : Consumer :=
  match running.work with
  | .marking progress =>
    let outcome := runStatement parseUuid now consumer.db
      { body := markBody running.message.body, progress := progress }
    { setWork consumer running (.marking outcome.2) with db := outcome.1 }
  | _ => consumer

def settleMessage (consumer : Consumer) (message : CommandMessage) (acked : Bool) : Consumer :=
  { consumer with toCommandQueue := consumer.toCommandQueue.settle message acked }

def publishReply (consumer : Consumer) (command : SagaCommand) (data : ReplyData) : Consumer :=
  { consumer with replies := consumer.replies ++ [publishedReply command data] }

def settleRaised (consumer : Consumer) (running : Running Work) (acked : Bool) : Consumer :=
  match running.work with
  | .raised error =>
    if maxRetries ≤ running.message.retryCount then
      publishReply (settleMessage consumer running.message acked) running.message.body
        (exhaustedReply error)
    else
      { consumer with
        toCommandQueue := consumer.toCommandQueue.republish running.message acked }
  | _ => consumer

def finishWork (consumer : Consumer) (running : Running Work) (acked : Bool) : Consumer :=
  match finishedReply running.work with
  | some data =>
    publishReply (settleMessage consumer running.message acked) running.message.body data
  | none => consumer

def step (parseUuid : String → Option String) (consumer : Consumer) : Label → Consumer
  | .deliver body => { consumer with toCommandQueue := consumer.toCommandQueue.deliver body }
  | .take index =>
    { consumer with toCommandQueue := consumer.toCommandQueue.take beginWork index }
  | .fetch outcome =>
    consumer.running.elim consumer fun running => runFetch consumer running outcome
  | .advance now =>
    consumer.running.elim consumer fun running => advanceMark parseUuid consumer running now
  | .claim statement => { consumer with db := runClaim consumer.db statement }
  | .raise error =>
    consumer.running.elim consumer fun running => setWork consumer running (.raised error)
  | .settle acked =>
    consumer.running.elim consumer fun running => settleRaised consumer running acked
  | .finish acked =>
    consumer.running.elim consumer fun running => finishWork consumer running acked
  | .crash =>
    consumer.running.elim consumer fun running => settleMessage consumer running.message false

/-- The steps of the consumer, each with the guard it passed. -/
inductive Stepped (parseUuid : String → Option String) (consumer : Consumer) :
    Label → Consumer → Prop
  | idle {label : Label} : Stepped parseUuid consumer label consumer
  | delivered {body : SagaCommand} :
      Stepped parseUuid consumer (.deliver body)
        { consumer with toCommandQueue := consumer.toCommandQueue.deliver body }
  | taken {index : Nat} :
      Stepped parseUuid consumer (.take index)
        { consumer with toCommandQueue := consumer.toCommandQueue.take beginWork index }
  | fetched {running : Running Work} {outcome : FetchOutcome}
      (isRunning : consumer.running = some running) (work : running.work = .fetching) :
      Stepped parseUuid consumer (.fetch outcome)
        (setWork consumer running (.fetched (fetchReply outcome)))
  | advanced {running : Running Work} {progress : Progress} {now : Instant}
      (isRunning : consumer.running = some running) (work : running.work = .marking progress) :
      Stepped parseUuid consumer (.advance now)
        { setWork consumer running (.marking (runStatement parseUuid now consumer.db
            { body := markBody running.message.body, progress := progress }).2) with
          db := (runStatement parseUuid now consumer.db
            { body := markBody running.message.body, progress := progress }).1 }
  | claimed {statement : ClaimStatement} :
      Stepped parseUuid consumer (.claim statement)
        { consumer with db := runClaim consumer.db statement }
  | raised {running : Running Work} {error : String}
      (isRunning : consumer.running = some running) :
      Stepped parseUuid consumer (.raise error) (setWork consumer running (.raised error))
  | exhausted {running : Running Work} {error : String} {acked : Bool}
      (isRunning : consumer.running = some running) (work : running.work = .raised error)
      (noRetry : maxRetries ≤ running.message.retryCount) :
      Stepped parseUuid consumer (.settle acked)
        (publishReply (settleMessage consumer running.message acked) running.message.body
          (exhaustedReply error))
  | republished {running : Running Work} {error : String} {acked : Bool}
      (isRunning : consumer.running = some running) (work : running.work = .raised error)
      (retry : running.message.retryCount < maxRetries) :
      Stepped parseUuid consumer (.settle acked)
        { consumer with
          toCommandQueue := consumer.toCommandQueue.republish running.message acked }
  | finished {running : Running Work} {data : ReplyData} {acked : Bool}
      (isRunning : consumer.running = some running)
      (done : finishedReply running.work = some data) :
      Stepped parseUuid consumer (.finish acked)
        (publishReply (settleMessage consumer running.message acked) running.message.body data)
  | crashed {running : Running Work} (isRunning : consumer.running = some running) :
      Stepped parseUuid consumer .crash (settleMessage consumer running.message false)

variable {consumer : Consumer} {running : Running Work}

theorem fetch_stepped (parseUuid : String → Option String)
    (isRunning : consumer.running = some running) (outcome : FetchOutcome) :
    Stepped parseUuid consumer (.fetch outcome) (runFetch consumer running outcome) := by
  unfold runFetch
  split
  · next work => exact .fetched isRunning work
  · exact .idle

theorem advance_stepped (parseUuid : String → Option String)
    (isRunning : consumer.running = some running) (now : Instant) :
    Stepped parseUuid consumer (.advance now)
      (advanceMark parseUuid consumer running now) := by
  unfold advanceMark
  split
  · next progress work => exact .advanced isRunning work
  · exact .idle

theorem settle_stepped (parseUuid : String → Option String)
    (isRunning : consumer.running = some running) (acked : Bool) :
    Stepped parseUuid consumer (.settle acked) (settleRaised consumer running acked) := by
  unfold settleRaised
  split
  · next error work =>
    split
    · next noRetry => exact .exhausted isRunning work noRetry
    · next retry => exact .republished isRunning work (Nat.lt_of_not_le retry)
  · exact .idle

theorem finish_stepped (parseUuid : String → Option String)
    (isRunning : consumer.running = some running) (acked : Bool) :
    Stepped parseUuid consumer (.finish acked) (finishWork consumer running acked) := by
  unfold finishWork
  split
  · next data done => exact .finished isRunning done
  · exact .idle

theorem step_stepped (parseUuid : String → Option String) (consumer : Consumer)
    (label : Label) : Stepped parseUuid consumer label (step parseUuid consumer label) := by
  cases label with
  | deliver => exact .delivered
  | take => exact .taken
  | claim => exact .claimed
  | fetch outcome =>
    unfold step
    cases isRunning : consumer.running with
    | none => exact .idle
    | some => exact fetch_stepped parseUuid isRunning outcome
  | advance now =>
    unfold step
    cases isRunning : consumer.running with
    | none => exact .idle
    | some => exact advance_stepped parseUuid isRunning now
  | raise =>
    unfold step
    cases isRunning : consumer.running with
    | none => exact .idle
    | some => exact .raised isRunning
  | settle acked =>
    unfold step
    cases isRunning : consumer.running with
    | none => exact .idle
    | some => exact settle_stepped parseUuid isRunning acked
  | finish acked =>
    unfold step
    cases isRunning : consumer.running with
    | none => exact .idle
    | some => exact finish_stepped parseUuid isRunning acked
  | crash =>
    unfold step
    cases isRunning : consumer.running with
    | none => exact .idle
    | some => exact .crashed isRunning

variable {parseUuid : String → Option String}

/-- A command in hand after a step was in hand before it or has just arrived. -/
theorem step_holds {label : Label} {body : SagaCommand}
    (holds : (step parseUuid consumer label).Holds body) :
    consumer.Holds body ∨ label = .deliver body := by
  have stepped := step_stepped parseUuid consumer label
  generalize step parseUuid consumer label = next at stepped holds
  cases stepped with
  | idle | claimed => exact Or.inl holds
  | delivered =>
    rcases deliver_holds holds with before | rfl
    · exact Or.inl before
    · exact Or.inr rfl
  | taken => exact Or.inl (take_holds holds)
  | fetched isRunning | advanced isRunning | raised isRunning => exact Or.inl (set_work_holds isRunning holds)
  | exhausted isRunning | finished isRunning | crashed isRunning => exact Or.inl (settle_holds isRunning holds)
  | republished isRunning => exact Or.inl (republish_holds isRunning holds)

/-- Banking-service never answers as a compensation. -/
def RepliesUnflagged (consumer : Consumer) : Prop :=
  ∀ reply ∈ consumer.replies, reply.isCompensation = false

theorem publish_keeps_unflagged (unflagged : RepliesUnflagged consumer) (command : SagaCommand)
    (data : ReplyData) :
    RepliesUnflagged (publishReply consumer command data) := by
  refine List.forall_mem_append.mpr ⟨unflagged, ?_⟩
  intro reply new
  rw [List.mem_singleton.mp new]
  rfl

theorem step_keeps_unflagged (consumer : Consumer) (label : Label)
    (unflagged : RepliesUnflagged consumer) :
    RepliesUnflagged (step parseUuid consumer label) := by
  have stepped := step_stepped parseUuid consumer label
  generalize step parseUuid consumer label = next at stepped ⊢
  cases stepped with
  | exhausted | finished => exact publish_keeps_unflagged unflagged _ _
  | idle | delivered | taken | fetched | advanced | claimed | raised | republished | crashed => exact unflagged

def MarkingMatches (consumer : Consumer) : Prop :=
  ∀ running progress, consumer.running = some running → running.work = .marking progress →
    running.message.body.eventType = markSyncCompleteEventType

theorem begin_work_marking {body : SagaCommand} {progress : Progress}
    (begun : beginWork body = some (.marking progress)) :
    body.eventType = markSyncCompleteEventType := by
  unfold beginWork beginFetch at begun
  split at begun
  · split at begun
    · cases begun
    · cases begun
  · split at begun
    · assumption
    · contradiction

theorem step_keeps_marking (consumer : Consumer) (label : Label)
    (invariant : MarkingMatches consumer) :
    MarkingMatches (step parseUuid consumer label) := by
  have stepped := step_stepped parseUuid consumer label
  generalize step parseUuid consumer label = next at stepped ⊢
  cases stepped with
  | idle | delivered | claimed => exact invariant
  | taken =>
    intro running progress isRunning work
    rcases take_running isRunning with before | begun
    · exact invariant running progress before work
    · rw [work] at begun
      exact begin_work_marking begun
  | fetched | raised =>
    intro _ _ isNext _
    cases isNext
    contradiction
  | @advanced running progress now isRunning work =>
    intro _ _ isNext _
    cases isNext
    exact invariant running progress isRunning work
  | exhausted | republished | finished | crashed => intro running progress isRunning; contradiction

theorem commit_outbox (body : MarkSyncCommand) (connectionId : String) (userId : Int)
    (now : Instant) (loaded : BankConnection) (db : BankingDb) :
    (commitCompletion body connectionId userId now loaded db).outbox = db.outbox ∨
      ∃ row, isDuplicate db (inboxKeyOrNone body) = false ∧ row.inboxKey = inboxKeyOrNone body ∧
        row.event = completedEvent body connectionId userId loaded ∧
        (commitCompletion body connectionId userId now loaded db).outbox = db.outbox ++ [row] := by
  unfold commitCompletion
  dsimp only
  split
  · exact Or.inl rfl
  · next fresh => exact Or.inr ⟨_, Bool.eq_false_iff.mpr fresh, rfl, rfl, rfl⟩

theorem step_outbox (consumer : Consumer) (label : Label) :
    (step parseUuid consumer label).db.outbox = consumer.db.outbox ∨
      ∃ now running connectionId userId conn row, label = .advance now ∧
        consumer.running = some running ∧
        running.work = .marking (.loaded connectionId userId conn) ∧
        isDuplicate consumer.db (inboxKeyOrNone (markBody running.message.body)) = false ∧
        row.inboxKey = inboxKeyOrNone (markBody running.message.body) ∧
        row.event = completedEvent (markBody running.message.body) connectionId userId conn ∧
        (step parseUuid consumer label).db.outbox = consumer.db.outbox ++ [row] := by
  have stepped := step_stepped parseUuid consumer label
  generalize step parseUuid consumer label = next at stepped ⊢
  cases stepped with
  | @advanced running progress now isRunning work =>
    rcases @run_statement_cases parseUuid now consumer.db
      { body := markBody running.message.body, progress := progress } with
      same | ⟨connectionId, userId, conn, isLoaded, committed⟩
    · apply Or.inl
      exact congrArg BankingDb.outbox same
    · dsimp only at isLoaded
      rw [committed]
      rw [isLoaded] at work
      rcases commit_outbox (markBody running.message.body) connectionId userId now conn
        consumer.db with same | ⟨row, fresh, isKey, isEvent, added⟩
      · exact Or.inl same
      · exact Or.inr ⟨now, running, connectionId, userId, conn, row, rfl, isRunning, work,
          fresh, isKey, isEvent, added⟩
  | claimed =>
    rename_i statement
    cases statement <;> exact Or.inl rfl
  | idle | delivered | taken | fetched | raised | exhausted | republished | finished | crashed => exact Or.inl rfl

end FinanceTracker.Banking.SagaCommands
