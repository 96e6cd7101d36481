import FinanceTracker.Banking.FetchReplies
import FinanceTracker.Notifications.Domain
import FinanceTracker.Saga.BankSyncCounts
import FinanceTracker.System.CompletionEvent
import FinanceTracker.System.ImportAtomicity
import FinanceTracker.Transaction.ImportCounts

/-!
# A completed sync reports what it did

The counters of a bank sync on their way from the two participants through the saga
context into the completion event. The event repeats the import reply that the
orchestrator accepted, and that reply counts the rows of one delivery, while the import
may have taken several.
-/

namespace FinanceTracker.System.ReportedSync

open Library.Calendar (Date)
open Library.Runs Shared.CommandConsumer Shared.SagaMessages Saga.Domain Saga.Orchestrator
  Saga.Invariant Saga.BankSync Saga.BankSyncProgress Saga.BankSyncCounts Saga.ReplyConsumer
  Banking.EnableBanking List
open Banking.MarkSyncComplete (BankConnection BankSyncCompletedEvent OutboxEvent
  SyncTrigger inboxKeyOrNone stepKey)
open Banking.SagaCommands (fetchReply markBody)
open Banking.FetchReplies (RunningMatches WorkMatches fetch_transactions_counts)
open Transaction.ImportedRows (TransactionTable commitsRows)
open Transaction.ImportCounts
open Notifications.Domain (shouldNotifyBankSync)
open BankSyncRuns hiding Label step initial
open CompletionEvent (mark_key)
open ImportAtomicity (insertsForSaga)

/-- What the fetch takes beside the environment of the services. -/
structure SyncEnvironment extends Environment where
  fromisoformat : FromIsoformat
  maxTxPages : ℕ

/-- The services with three ghosts: what the running fetch has parsed, what had been
parsed at each reply of banking-service, and what the fetch reply that the orchestrator
accepted for the saga had parsed. -/
structure TracedSystem where
  system : BankSyncSystem
  parsing : List BankTransaction := []
  parsed : List (List BankTransaction) := []
  accepted : Option (List BankTransaction) := none

/-- `fetch` runs `_handle_fetch_transactions` on the pages that the API answers; its
other outcomes are steps of the services. -/
inductive Label where
  | fetch (pages : List Page)
  | service (label : BankSyncRuns.Label)
  deriving DecidableEq

def isFetched : BankSyncRuns.Label → Bool
  | .banking (.fetch (.fetched _ _ _ _)) => true
  | _ => false

/-- The step of the services; a parser that raises is a `raise` of its own. -/
def serviceLabel (environment : SyncEnvironment) : Label → Option BankSyncRuns.Label
  | .fetch pages =>
    match fetchTransactions environment.fromisoformat environment.maxTxPages pages with
    | .ok outcome => some (.banking (.fetch outcome))
    | .error _ => none
  | .service label => if isFetched label then none else some label

def parsedTransactions (environment : SyncEnvironment) (pages : List Page) :
    List BankTransaction :=
  match getTransactions environment.fromisoformat environment.maxTxPages 0 pages with
  | .ok (transactions, _) => transactions
  | .error _ => []

def isFetching (system : BankSyncSystem) : Bool :=
  system.banking.running.any fun running => running.work = .fetching

def takesReply (system : BankSyncSystem) (sagaId : String) (stepIndex : Nat)
    (label : BankSyncRuns.Label) : Bool :=
  (labelCall system label).any (acceptsReply system.saga sagaId stepIndex)

def nextParsing (environment : SyncEnvironment) (traced : TracedSystem) :
    Label → List BankTransaction
  | .fetch pages =>
    if isFetching traced.system then parsedTransactions environment pages else traced.parsing
  | .service _ => traced.parsing

def nextParsed (traced : TracedSystem) (next : BankSyncSystem) : List (List BankTransaction) :=
  if traced.system.banking.replies.length < next.banking.replies.length then
    traced.parsed ++ [traced.parsing]
  else traced.parsed

def nextAccepted (sagaId : String) (traced : TracedSystem) : Label → Option (List BankTransaction)
  | .service (.reply .banking index now acked) =>
    if takesReply traced.system sagaId 0 (.reply .banking index now acked) then
      traced.parsed[index]?
    else traced.accepted
  | _ => traced.accepted

def step (environment : SyncEnvironment) (sagaId : String) (traced : TracedSystem)
    (label : Label) : TracedSystem :=
  match serviceLabel environment label with
  | none => traced
  | some inner =>
    let next := BankSyncRuns.step environment.toEnvironment traced.system inner
    { system := next
      parsing := nextParsing environment traced label
      parsed := nextParsed traced next
      accepted := nextAccepted sagaId traced label }

def initial (table : TransactionTable) (connections : List BankConnection) : TracedSystem where
  system := BankSyncRuns.initial table connections

def isNotified (event : BankSyncCompletedEvent) : Bool :=
  shouldNotifyBankSync (event.trigger = .scheduled) event.newImported event.errors
    event.parseSkipped

/-- The event tells these parsed transactions and inserted rows, and what became of
each transaction; an import of rows is notified. -/
structure Reports (event : BankSyncCompletedEvent) (parsed rows : Nat) : Prop where
  imported : event.newImported = rows
  fetched : event.totalFetched = parsed
  conserved : event.newImported + event.duplicatesSkipped + event.errors = event.totalFetched
  notified : 0 < rows → isNotified event = true

def CompletionReported (traced : TracedSystem) (sagaId : String) : Prop :=
  ∀ row ∈ traced.system.banking.db.outbox,
    row.inboxKey = some (stepKey sagaId markCompleteStep.name) →
      ∃ transactions, traced.accepted = some transactions ∧ Reports row.event transactions.length
          (insertedRows traced.system.transaction sagaId).length

/-- The reply of the step, where the orchestrator takes it as the saga's import. -/
def acceptedImport (system : BankSyncSystem) (sagaId : String) : Label → Option SagaReply
  | .service (.reply participant index now acked) =>
    if takesReply system sagaId 1 (.reply participant index now acked) then
      (replies system participant)[index]?
    else none
  | _ => none

/-- The step commits a chunk of the saga's import that inserts rows. -/
def insertsRowsFor (system : BankSyncSystem) (sagaId : String) : Label → Bool
  | .service label => insertsForSaga system sagaId label
  | .fetch _ => false

def listedIds (reply : SagaReply) : List Nat :=
  (reply.resultData.bind ResultData.importedIds).getD []

/-- No row of the saga is inserted once the orchestrator has taken its import reply,
and the reply that it takes lists every row inserted so far. -/
def KeepsReport (sagaId : String) (traced : TracedSystem) (label : Label) : Prop :=
  (insertsRowsFor traced.system sagaId label = true →
    ∀ saga ∈ getById traced.system.saga sagaId, saga.context.newImported = none) ∧
  ∀ reply ∈ acceptedImport traced.system sagaId label,
    ∀ id ∈ insertedRows traced.system.transaction sagaId, id ∈ listedIds reply

instance (sagaId : String) (traced : TracedSystem) (label : Label) :
    Decidable (KeepsReport sagaId traced label) :=
  inferInstanceAs (Decidable (_ ∧ _))

/-- The command that the reply answers, and for a fetch how many transactions its
delivery had parsed. -/
def Answers (saga : BankSyncDb) (reply : SagaReply) (count : Nat) : Prop :=
  ∃ command, Emitted saga command ∧ command.sagaId = reply.sagaId ∧
    command.stepName = reply.stepName ∧
    (command.eventType = fetchStep.commandEventType ∧
        (∃ result, reply.resultData = some result ∧ FetchResult count result) ∨
      command.eventType = markCompleteStep.commandEventType)

structure CarriesCounters (event : BankSyncCompletedEvent) (fields : CommandFields) : Prop where
  totalFetched : event.totalFetched = fields.totalFetched.getD 0
  newImported : event.newImported = fields.newImported.getD 0
  duplicatesSkipped : event.duplicatesSkipped = fields.duplicatesSkipped.getD 0
  errors : event.errors = fields.errors.getD 0

structure BankingCounts (sagaId : String) (traced : TracedSystem) : Prop where
  held : ∀ command, traced.system.banking.Holds command → Emitted traced.system.saga command
  matching : RunningMatches traced.system.banking
  fetched : ∀ running data, traced.system.banking.running = some running →
    running.work = .fetched data → data.success = true →
      ∃ result, data.resultData = some result ∧ FetchResult traced.parsing.length result
  length : traced.parsed.length = traced.system.banking.replies.length
  replies : ∀ (index : Nat) (reply : SagaReply) (transactions : List BankTransaction),
    traced.system.banking.replies[index]? = some reply →
    traced.parsed[index]? = some transactions → reply.success = true →
      Answers traced.system.saga reply transactions.length
  events : ∀ row ∈ traced.system.banking.db.outbox,
    row.inboxKey = some (stepKey sagaId markCompleteStep.name) →
      ∃ command, Emitted traced.system.saga command ∧ command.sagaId = sagaId ∧
        command.eventType = markCompleteStep.commandEventType ∧
        CarriesCounters row.event command.fields

structure TransactionCounts (system : BankSyncSystem) : Prop where
  held : ∀ command, system.transaction.Holds command → Emitted system.saga command
  answered : ∀ published ∈ system.transaction.replies, Emitted system.saga published.command
  rows : RowsCounted system.transaction

structure ReportInvariant (sagaId : String) (traced : TracedSystem) : Prop where
  services : SystemInvariant traced.system
  banking : BankingCounts sagaId traced
  transaction : TransactionCounts traced.system
  saga : SagaCounts sagaId (traced.accepted.map List.length)
    (insertedRows traced.system.transaction sagaId).length traced.system.saga

variable {environment : SyncEnvironment} {sagaId : String} {traced : TracedSystem} {label : Label}
  {inner : BankSyncRuns.Label} {next : BankSyncSystem} {system : BankSyncSystem} {reply : SagaReply}
  {saga : SagaInstance BankSyncContext} {index : Nat} {now : Instant} {acked : Bool}
  {running : Running Banking.SagaCommands.Work}

theorem moved_emitted {environment : Environment} (moved : Moved environment system inner next)
    {command : SagaCommand} (emitted : Emitted system.saga command) :
    Emitted next.saga command := by
  cases moved with
  | idle saga | transaction inner origin saga | banking inner origin saga =>
    rw [saga]
    exact emitted
  | called call isCall saga =>
    rw [saga]
    exact emitted_stays emitted

theorem answers_emitted {environment : Environment} (moved : Moved environment system inner next)
    {count : Nat} (answers : Answers system.saga reply count) : Answers next.saga reply count := by
  obtain ⟨command, emitted, rest⟩ := answers
  exact ⟨command, moved_emitted moved emitted, rest⟩

theorem next_accepted_reply (sagaId : String) (traced : TracedSystem) (index : Nat)
    (now : Instant) (acked : Bool) :
    nextAccepted sagaId traced (.service (.reply .banking index now acked)) =
      if takesReply traced.system sagaId 0 (.reply .banking index now acked) then
        traced.parsed[index]?
      else traced.accepted := rfl

/-- The accepted fetch changes only with a reply that the orchestrator takes. -/
theorem next_accepted_same (isInner : serviceLabel environment label = some inner)
    (refused : takesReply traced.system sagaId 0 inner = false) :
    nextAccepted sagaId traced label = traced.accepted := by
  unfold nextAccepted
  split
  · next index now acked =>
    cases isInner
    rw [refused]
    rfl
  · rfl

theorem current_step_name {step : SagaStep} (holds : SagaInvariant bankSyncDefinition saga)
    (current : saga.currentStepObj = some step) :
    bankSyncDefinition.steps[saga.currentStep]?.map StepDefinition.name = some step.name := by
  have names := congrArg (Option.map Prod.snd) (holds.labels saga.currentStep)
  unfold SagaInstance.currentStepObj at current
  rw [current] at names
  simp only [Option.map_map, Option.map_some] at names
  exact names.symm

/-- The reply of a fetch or of mark_sync_complete that the orchestrator takes. -/
theorem banking_brings {step : SagaStep} {rows : Nat} (banking : BankingCounts sagaId traced)
    (holds : SagaInvariant bankSyncDefinition saga)
    (commands : ∀ command, Emitted traced.system.saga command → command.sagaId = sagaId →
      CommandCounts saga command) (isReply : traced.system.banking.replies[index]? = some reply)
    (succeeded : reply.success = true) (ofSaga : reply.sagaId = sagaId)
    (current : saga.currentStepObj = some step) (name : step.name = reply.stepName)
    (taken : takesReply traced.system sagaId 0 (.reply .banking index now acked) = true ↔
      saga.currentStep = 0) :
    Brings (traced.accepted.map List.length)
      ((nextAccepted sagaId traced (.service (.reply .banking index now acked))).map List.length)
      rows saga reply.resultData := by
  have isName := current_step_name holds current
  rw [name] at isName
  obtain ⟨transactions, isParsed⟩ : ∃ transactions, traced.parsed[index]? = some transactions := by
    have bound := (List.getElem?_eq_some_iff.mp isReply).1
    rw [← banking.length] at bound
    exact ⟨_, List.getElem?_eq_getElem bound⟩
  obtain ⟨command, emitted, sameSaga, stepName, kind⟩ :=
    banking.replies index reply transactions isReply isParsed succeeded
  have counts := commands command emitted (sameSaga.trans ofSaga)
  rw [← stepName] at isName
  constructor
  · intro fetching
    rcases kind with ⟨_, result, isResult, fetched⟩ | isMark
    · refine ⟨transactions.length, result, ?_, isResult, fetched⟩
      rw [next_accepted_reply, if_pos (taken.mpr fetching), isParsed]
      rfl
    · rw [fetching, (counts.marks isMark).1] at isName
      exact absurd isName (by decide)
  · intro importing
    rw [importing] at isName
    rcases kind with ⟨isFetch, _⟩ | isMark
    · rw [counts.fetches isFetch] at isName
      exact absurd isName (by decide)
    · rw [(counts.marks isMark).1] at isName
      exact absurd isName (by decide)
  · intro later
    rw [next_accepted_reply, if_neg fun takes => later (taken.mp takes)]

/-- The reply of an import that the orchestrator takes. -/
theorem transaction_brings {step : SagaStep} (transaction : TransactionCounts traced.system)
    (holds : SagaInvariant bankSyncDefinition saga)
    (commands : ∀ command, Emitted traced.system.saga command → command.sagaId = sagaId →
      CommandCounts saga command)
    (isReply : (replies traced.system .transaction)[index]? = some reply)
    (succeeded : reply.success = true) (execution : reply.isCompensation = false)
    (ofSaga : reply.sagaId = sagaId) (current : saga.currentStepObj = some step)
    (name : step.name = reply.stepName)
    (lists : saga.currentStep = 1 →
      ∀ id ∈ insertedRows traced.system.transaction sagaId, id ∈ listedIds reply) :
    Brings (traced.accepted.map List.length)

      ((nextAccepted sagaId traced (.service (.reply .transaction index now acked))).map
        List.length)
      (insertedRows traced.system.transaction sagaId).length saga reply.resultData := by
  have isName := current_step_name holds current
  rw [name] at isName
  obtain ⟨published, member, rfl⟩ := mem_map.mp (mem_of_getElem? isReply)
  obtain ⟨sameSaga, stepName⟩ := transaction.rows.addressed published member
  obtain ⟨isImport, _, isResult, tally⟩ :=
    transaction.rows.replies published member succeeded execution
  have ofCommand : published.command.sagaId = sagaId := sameSaga.symm.trans ofSaga
  have counts := commands published.command (transaction.answered published member) ofCommand
  obtain ⟨isStep, _, items⟩ := counts.imports isImport
  rw [stepName, isStep] at isName
  constructor
  · intro fetching
    rw [fetching] at isName
    exact absurd isName (by decide)
  · intro importing
    have listed := lists importing
    unfold listedIds at listed
    rw [isResult] at listed
    have imported := listed_rows_counted transaction.rows tally (by
      rw [ofCommand]
      exact listed)
    rw [ofCommand] at imported
    refine ⟨_, isResult, ?_, ?_⟩
    · exact congrArg (fun count : Nat => some (count : Int)) imported
    · have accounts := tally.items
      rw [items] at accounts
      unfold Transaction.StoredImport.accounted at accounts
      rw [← imported, ← accounts]
      dsimp only [Transaction.SagaCommands.importReply, Option.getD_some]
      push_cast
      omega
  · intro _
    rfl

theorem label_of_reply {participant : Participant}
    (isInner : serviceLabel environment label = some (.reply participant index now acked)) :
    label = .service (.reply participant index now acked) := by
  unfold serviceLabel at isInner
  split at isInner
  · split at isInner
    · cases isInner
    · contradiction
  · next service =>
    split at isInner
    · contradiction
    · cases isInner
      rfl

theorem label_of_transaction {own : Transaction.SagaCommands.Label}
    (isInner : serviceLabel environment label = some (.transaction own)) :
    label = .service (.transaction own) := by
  unfold serviceLabel at isInner
  split at isInner
  · split at isInner
    · cases isInner
    · contradiction
  · split at isInner
    · contradiction
    · cases isInner
      rfl

theorem called_keeps_saga (invariant : ReportInvariant sagaId traced)
    (keeps : KeepsReport sagaId traced label)
    (isInner : serviceLabel environment label = some inner)
    {call : Call BankSyncContext ResultData} (isCall : labelCall traced.system inner = some call) :
    SagaCounts sagaId ((nextAccepted sagaId traced label).map List.length)
      (insertedRows traced.system.transaction sagaId).length
      (runCall sagaRegistry traced.system.saga call) := by
  have taken : ∀ stepIndex, takesReply traced.system sagaId stepIndex inner =
      acceptsReply traced.system.saga sagaId stepIndex call := by
    intro _
    unfold takesReply
    rw [isCall]
    rfl
  apply call_keeps_saga_counts (label_call_from_event isCall) invariant.services.sagas _ _
    invariant.saga
  · intro _ _ _ _ saga isReply found accepts
    subst isReply
    obtain ⟨_, holds⟩ := stored_bank_sync invariant.services.sagas.valid found
    obtain ⟨_, _, _, _, _, _, same, isStored, _, _, current, name⟩ :=
      accepts_reply_saga accepts
    rw [found] at isStored
    cases isStored
    cases same
    have commands : ∀ command, Emitted traced.system.saga command → command.sagaId = sagaId →
        CommandCounts saga command := by
      intro _ emitted ofSaga
      obtain ⟨_, ownerFound, counts⟩ := emitted_counts invariant.saga emitted ofSaga
      rw [found] at ownerFound
      cases ownerFound
      exact counts
    have position : ∀ stepIndex, takesReply traced.system sagaId stepIndex inner = true ↔
        saga.currentStep = stepIndex := by
      intro _
      rw [taken]
      constructor
      · intro accepts
        obtain ⟨_, _, _, _, _, _, _, isOther, _, isPosition, _⟩ := accepts_reply_saga accepts
        rw [found] at isOther
        cases isOther
        exact isPosition
      · rintro rfl
        exact accepts
    cases inner with
    | reply participant index time acked =>
      cases label_of_reply isInner
      obtain ⟨reply, isReply, replies⟩ := Option.map_eq_some_iff.mp isCall
      unfold replyCall at replies
      split at replies
      · contradiction
      · next execution =>
        simp only [Call.handleReply.injEq] at replies
        obtain ⟨_, ofSaga, sameStep, succeeded, sameData, _⟩ := replies
        rw [← sameData]
        have unflagged : reply.isCompensation = false := by
          unfold route at execution
          split at execution
          · contradiction
          · next notFlagged => exact Bool.eq_false_iff.mpr notFlagged
        cases participant with
        | banking =>
          exact banking_brings invariant.banking holds commands isReply succeeded ofSaga
            current (name.trans sameStep.symm) (position 0)
        | transaction =>
          apply transaction_brings invariant.transaction holds commands isReply succeeded
            unflagged ofSaga current (name.trans sameStep.symm)
          intro importing
          apply keeps.2 reply
          have taken : acceptedImport traced.system sagaId
              (.service (.reply .transaction index time acked)) =
                (replies traced.system .transaction)[index]? :=
            if_pos ((position 1).mpr importing)
          rw [taken]
          exact isReply
    | startSaga | checkTimeouts => cases isCall
    | publish | transaction | banking => contradiction
  · intro refused
    rw [next_accepted_same isInner ((taken 0).trans refused)]

/-- Where the orchestrator does not move, the counts of the saga stay what they were. -/
theorem still_saga (invariant : ReportInvariant sagaId traced)
    (isInner : serviceLabel environment label = some inner) :
    SagaCounts sagaId ((nextAccepted sagaId traced label).map List.length)
      (insertedRows traced.system.transaction sagaId).length traced.system.saga := by
  cases isCall : labelCall traced.system inner with
  | none =>
    have refused : takesReply traced.system sagaId 0 inner = false := by
      unfold takesReply
      rw [isCall]
      rfl
    rw [next_accepted_same isInner refused]
    exact invariant.saga
  | some call =>
    have otherwise : acceptsReply traced.system.saga sagaId 0 call = false →
        (nextAccepted sagaId traced label).map List.length = traced.accepted.map List.length := by
      intro refused
      apply congrArg (Option.map List.length)
      apply next_accepted_same isInner
      unfold takesReply
      rw [isCall]
      exact refused
    exact unchanged_keeps_saga_counts otherwise invariant.saga

theorem transaction_keeps_saga (environment : SyncEnvironment)
    {own : Transaction.SagaCommands.Label} {parsed : Option Nat}
    (keeps : commitsRows traced.system.transaction sagaId own = true →
      ∀ saga ∈ getById traced.system.saga sagaId, saga.context.newImported = none)
    (counts : SagaCounts sagaId parsed (insertedRows traced.system.transaction sagaId).length
      traced.system.saga) :
    SagaCounts sagaId parsed
      (insertedRows (Transaction.SagaCommands.step environment.reads environment.copies
        traced.system.transaction own) sagaId).length traced.system.saga := by
  rcases step_inserted_rows environment.reads environment.copies traced.system.transaction own
    sagaId with same | commits
  · rw [same]
    exact counts
  · exact rows_free_before_import (keeps commits) counts

theorem step_keeps_transaction {environment : Environment}
    (moved : Moved environment system inner next)
    (matching : Transaction.SagaCommands.RunningMatches system.transaction)
    (counts : TransactionCounts system) : TransactionCounts next := by
  have emitted : ∀ command, Emitted system.saga command → Emitted next.saga command :=
    fun _ => moved_emitted moved
  have kept : next.transaction = system.transaction → TransactionCounts next := by
    intro same
    constructor
    · rw [same]
      exact fun command holds => emitted command (counts.held command holds)
    · rw [same]
      exact fun published member => emitted _ (counts.answered published member)
    · rw [same]
      exact counts.rows
  cases moved with
  | idle saga transaction | called call isCall saga transaction
  | banking own origin saga transaction => exact kept transaction
  | transaction own origin saga transaction =>
    constructor
    · rw [transaction]
      intro command holds
      rcases Transaction.SagaCommands.step_holds holds with before | isDelivery
      · exact emitted command (counts.held command before)
      · rcases origin with ⟨_, notDelivery⟩ | ⟨entry, member, delivered⟩
        · rw [isDelivery] at notDelivery
          contradiction
        · rw [isDelivery] at delivered
          cases delivered
          exact emitted _ ⟨entry, member, rfl⟩
    · rw [transaction]
      intro published member
      rcases Transaction.SagaCommands.step_replies member with
        earlier | ⟨running, data, isRunning, rfl, _⟩
      · exact emitted _ (counts.answered published earlier)
      · exact emitted _ (counts.held _ (running_holds isRunning))
    · rw [transaction]
      exact step_keeps_counts environment.reads environment.copies own matching counts.rows

/-- What becomes of banking-service: nothing, or one step of its consumer. -/
theorem moved_banking (moved : Moved environment.toEnvironment traced.system inner next) :
    next.banking = traced.system.banking ∨ ∃ own,
      next.banking = Banking.SagaCommands.step environment.parseUuid traced.system.banking own ∧
        (∀ outcome, own = .fetch outcome → inner = .banking (.fetch outcome)) ∧
        ∀ body, own = .deliver body → Emitted traced.system.saga body := by
  cases moved with
  | idle saga transaction banking | called call isCall saga transaction banking
  | transaction own origin saga transaction banking => exact Or.inl banking
  | banking own origin saga transaction banking =>
    refine Or.inr ⟨own, banking, ?_, ?_⟩
    · intro _ isFetch
      rcases origin with ⟨isInner, _⟩ | ⟨entry, _, delivered⟩
      · rw [isInner, isFetch]
      · rw [delivered] at isFetch
        contradiction
    · intro _ isDelivery
      rcases origin with ⟨_, notDelivery⟩ | ⟨entry, member, delivered⟩
      · rw [isDelivery] at notDelivery
        contradiction
      · rw [delivered] at isDelivery
        cases isDelivery
        exact ⟨entry, member, rfl⟩

/-- Only the ghost of a running fetch changes, and only while it fetches. -/
theorem next_parsing_held {data : ReplyData}
    (isRunning : traced.system.banking.running = some running) (work : running.work = .fetched data) :
    nextParsing environment traced label = traced.parsing := by
  unfold nextParsing
  split
  · have idle : isFetching traced.system = false := by
      unfold isFetching
      rw [isRunning]
      simp [work]
    rw [idle]
    rfl
  · rfl

theorem next_parsing_fetched {outcome : Banking.SagaCommands.FetchOutcome}
    (isInner : serviceLabel environment label = some (.banking (.fetch outcome)))
    (isRunning : traced.system.banking.running = some running) (work : running.work = .fetching)
    (succeeded : (fetchReply outcome).success = true) :
    ∃ result, (fetchReply outcome).resultData = some result ∧
      FetchResult (nextParsing environment traced label).length result := by
  cases label with
  | service =>
    unfold serviceLabel at isInner
    dsimp only at isInner
    split at isInner
    · contradiction
    · next notFetched =>
      cases isInner
      cases outcome with
      | expired => contradiction
      | fetched => exact absurd rfl notFetched
  | fetch pages =>
    unfold serviceLabel at isInner
    dsimp only at isInner
    split at isInner
    · next returned =>
      cases isInner
      obtain ⟨transactions, _, _, _, got, rfl, counted⟩ :=
        fetch_transactions_counts returned
      have fetching : isFetching traced.system = true := by
        unfold isFetching
        rw [isRunning]
        simp [work]
      have parsed : nextParsing environment traced (.fetch pages) = transactions := by
        unfold nextParsing parsedTransactions
        dsimp only
        rw [if_pos fetching, got]
      rw [parsed]
      refine ⟨_, rfl, rfl, ?_⟩
      rw [← counted]
      push_cast
      rfl
    · contradiction

theorem finished_answers {data : ReplyData} (counts : BankingCounts sagaId traced)
    (isRunning : traced.system.banking.running = some running)
    (answer : Banking.SagaCommands.finishedReply running.work = some data ∨
      ∃ error, data = Banking.SagaCommands.exhaustedReply error) (succeeded : data.success = true) :
    Answers traced.system.saga
      (Banking.SagaCommands.publishedReply running.message.body data) traced.parsing.length := by
  have matching := counts.matching running isRunning
  refine ⟨running.message.body, counts.held _ (running_holds isRunning), rfl, rfl, ?_⟩
  rcases answer with done | ⟨error, rfl⟩
  · unfold Banking.SagaCommands.finishedReply at done
    unfold WorkMatches at matching
    split at done
    · next fetched work =>
      cases done
      rw [work] at matching
      exact Or.inl ⟨matching, counts.fetched running data isRunning work succeeded⟩
    · next success work =>
      rw [work] at matching
      exact Or.inr matching
    · contradiction
  · contradiction

/-- Banking-service sends no reply or one, which answers its running delivery. -/
theorem next_replies (moved : Moved environment.toEnvironment traced.system inner next)
    (counts : BankingCounts sagaId traced) :
    (next.banking.replies = traced.system.banking.replies ∧
        nextParsed traced next = traced.parsed) ∨
      ∃ reply, next.banking.replies = traced.system.banking.replies ++ [reply] ∧
        nextParsed traced next = traced.parsed ++ [traced.parsing] ∧
        (reply.success = true → Answers traced.system.saga reply traced.parsing.length) := by
  unfold nextParsed
  have unchanged : next.banking.replies = traced.system.banking.replies →
      (if traced.system.banking.replies.length < next.banking.replies.length then
        traced.parsed ++ [traced.parsing] else traced.parsed) = traced.parsed := by
    intro same
    rw [same, if_neg (Nat.lt_irrefl _)]
  rcases moved_banking moved with same | ⟨own, isStep, _, _⟩
  · have sameReplies := congrArg (fun consumer => consumer.replies) same
    exact Or.inl ⟨sameReplies, unchanged sameReplies⟩
  · rcases Banking.FetchReplies.step_replies environment.parseUuid traced.system.banking own with
      same | ⟨running, data, isRunning, answer, added⟩
    · rw [← isStep] at same
      exact Or.inl ⟨same, unchanged same⟩
    · rw [← isStep] at added
      refine Or.inr ⟨_, added, ?_, finished_answers counts isRunning answer⟩
      rw [added, length_append, length_singleton, if_pos (Nat.lt_add_one _)]

theorem step_keeps_replies (moved : Moved environment.toEnvironment traced.system inner next)
    (counts : BankingCounts sagaId traced) :
    (nextParsed traced next).length = next.banking.replies.length ∧
      ∀ (index : Nat) (reply : SagaReply) (transactions : List BankTransaction),
        next.banking.replies[index]? = some reply →
          (nextParsed traced next)[index]? = some transactions → reply.success = true →
            Answers next.saga reply transactions.length := by
  rcases next_replies moved counts with ⟨same, parsed⟩ | ⟨reply, added, parsed, answers⟩
  · rw [same, parsed]
    refine ⟨counts.length, ?_⟩
    intro index reply transactions isReply isParsed succeeded
    exact answers_emitted moved
      (counts.replies index reply transactions isReply isParsed succeeded)
  · rw [added, parsed]
    refine ⟨by simp [counts.length], ?_⟩
    intro index other transactions isReply isParsed succeeded
    apply answers_emitted moved
    rcases Nat.lt_or_ge index traced.parsed.length with earlier | new
    · rw [List.getElem?_append_left earlier] at isParsed
      rw [counts.length] at earlier
      rw [List.getElem?_append_left earlier] at isReply
      exact counts.replies index other transactions isReply isParsed succeeded
    · rw [List.getElem?_append_right new] at isParsed
      rw [counts.length] at new
      rw [List.getElem?_append_right new] at isReply
      rw [mem_singleton.mp (mem_of_getElem? isParsed)]
      rw [mem_singleton.mp (mem_of_getElem? isReply)] at succeeded ⊢
      exact answers succeeded

theorem step_keeps_events (moved : Moved environment.toEnvironment traced.system inner next)
    (invariant : SystemInvariant traced.system) (counts : BankingCounts sagaId traced)
    {row : OutboxEvent} (member : row ∈ next.banking.db.outbox)
    (isKey : row.inboxKey = some (stepKey sagaId markCompleteStep.name)) :
    ∃ command, Emitted next.saga command ∧ command.sagaId = sagaId ∧
      command.eventType = markCompleteStep.commandEventType ∧
      CarriesCounters row.event command.fields := by
  have earlier : row ∈ traced.system.banking.db.outbox →
      ∃ command, Emitted next.saga command ∧ command.sagaId = sagaId ∧
        command.eventType = markCompleteStep.commandEventType ∧
        CarriesCounters row.event command.fields := by
    intro stored
    obtain ⟨command, emitted, rest⟩ := counts.events row stored isKey
    exact ⟨command, moved_emitted moved emitted, rest⟩
  rcases moved_banking moved with same | ⟨own, isStep, _, _⟩
  · rw [same] at member
    exact earlier member
  · rw [isStep] at member
    rcases @Banking.SagaCommands.step_outbox environment.parseUuid traced.system.banking own with
      same | ⟨now, running, connectionId, userId, conn, added, _, isRunning, work, _, addedKey,
        isEvent, isAdded⟩
    · rw [same] at member
      exact earlier member
    · rw [isAdded] at member
      rcases mem_snoc.mp member with stored | new
      · exact earlier stored
      · cases new
        have isMark := invariant.marking running _ isRunning work
        obtain ⟨_, _, commandOf⟩ := invariant.bankingCommands _ (running_holds isRunning)
        rw [addedKey] at isKey
        refine ⟨running.message.body, moved_emitted moved (counts.held _ (running_holds isRunning)),
          mark_key (commandOf.marks isMark) isKey, isMark, ?_⟩
        rw [isEvent]
        exact ⟨rfl, rfl, rfl, rfl⟩

theorem step_keeps_banking (moved : Moved environment.toEnvironment traced.system inner next)
    (isInner : serviceLabel environment label = some inner)
    (invariant : SystemInvariant traced.system) (counts : BankingCounts sagaId traced) :
    BankingCounts sagaId
      { system := next
        parsing := nextParsing environment traced label
        parsed := nextParsed traced next
        accepted := nextAccepted sagaId traced label } := by
  obtain ⟨length, replies⟩ := step_keeps_replies moved counts
  refine ⟨?_, ?_, ?_, length, replies, fun row => step_keeps_events moved invariant counts⟩
  · intro command holds
    apply moved_emitted moved
    rcases moved_banking moved with same | ⟨own, isStep, _, delivers⟩
    · rw [same] at holds
      exact counts.held command holds
    · rw [isStep] at holds
      rcases Banking.SagaCommands.step_holds holds with before | isDelivery
      · exact counts.held command before
      · exact delivers command isDelivery
  · rcases moved_banking moved with same | ⟨own, isStep, _, _⟩
    · dsimp only
      rw [same]
      exact counts.matching
    · dsimp only
      rw [isStep]
      exact Banking.FetchReplies.step_keeps_matches own counts.matching
  · intro running data isRunning work succeeded
    have kept : traced.system.banking.running = some running →
        ∃ result, data.resultData = some result ∧
          FetchResult (nextParsing environment traced label).length result := by
      intro wasRunning
      rw [next_parsing_held wasRunning work]
      exact counts.fetched running data wasRunning work succeeded
    rcases moved_banking moved with same | ⟨own, isStep, fetches, _⟩
    · rw [same] at isRunning
      exact kept isRunning
    · rw [isStep] at isRunning
      rcases Banking.FetchReplies.step_fetched isRunning work with
        wasRunning | ⟨outcome, before, isFetch, wasRunning, fetching, rfl⟩
      · exact kept wasRunning
      · rw [fetches outcome isFetch] at isInner
        exact next_parsing_fetched isInner wasRunning fetching succeeded

theorem step_keeps_report (environment : SyncEnvironment) (sagaId : String)
    (traced : TracedSystem) (label : Label) (keeps : KeepsReport sagaId traced label)
    (invariant : ReportInvariant sagaId traced) :
    ReportInvariant sagaId (step environment sagaId traced label) := by
  unfold step
  cases isInner : serviceLabel environment label with
  | none => exact invariant
  | some inner =>
    dsimp only
    have services := step_keeps_system environment.toEnvironment traced.system inner
      invariant.services
    have moved := step_moved environment.toEnvironment traced.system inner
    generalize BankSyncRuns.step environment.toEnvironment traced.system inner = next at *
    have banking := step_keeps_banking moved isInner invariant.services invariant.banking
    have rows := step_keeps_transaction moved invariant.services.matching
      invariant.transaction
    refine ⟨services, banking, rows, ?_⟩
    dsimp only
    cases moved with
    | idle saga transaction =>
      rw [saga, transaction]
      exact still_saga invariant isInner
    | called call isCall saga transaction =>
      rw [saga, transaction]
      exact called_keeps_saga invariant keeps isInner isCall
    | banking own origin saga transaction =>
      rw [saga, transaction]
      exact still_saga invariant isInner
    | transaction own origin saga transaction =>
      rw [saga, transaction]
      apply transaction_keeps_saga environment _ (still_saga invariant isInner)
      intro commits
      apply keeps.1
      rcases origin with ⟨isOwn, _⟩ | ⟨entry, _, delivered⟩
      · rw [isOwn] at isInner
        cases label_of_transaction isInner
        exact commits
      · rw [delivered] at commits
        contradiction

theorem initial_report (table : TransactionTable) (connections : List BankConnection)
    (sagaId : String) : ReportInvariant sagaId (initial table connections) := by
  have services := initial_system table connections
  refine ⟨services, ⟨?_, ?_, ?_, rfl, ?_, ?_⟩, ⟨?_, ?_, ?_⟩, ⟨?_, ?_⟩⟩
  · intro command holds
    obtain ⟨_, _, _⟩ := services.bankingCommands command holds
    contradiction
  · intro _ _
    contradiction
  · intro _ _ _
    contradiction
  · intro _ _ _ _
    contradiction
  · intro _ _
    contradiction
  · intro command holds
    obtain ⟨_, _, _⟩ := services.transactionCommands command holds
    contradiction
  · intro _ _
    contradiction
  · refine ⟨?_, nodup_nil, ?_, ?_, ?_⟩
    · intro _ _
      contradiction
    · intro _ _ _ _ _
      contradiction
    · intro _ _
      contradiction
    · intro _ _
      contradiction
  · intro _ _
    contradiction
  · intro _ _
    contradiction

theorem step_keeps_counts (environment : SyncEnvironment) (sagaId : String) (traced : TracedSystem)
    (label : Label) (counted : SystemInvariant traced.system ∧ BankingCounts sagaId traced) :
    SystemInvariant (step environment sagaId traced label).system ∧
      BankingCounts sagaId (step environment sagaId traced label) := by
  unfold step
  cases isInner : serviceLabel environment label with
  | none => exact counted
  | some inner =>
    exact ⟨step_keeps_system environment.toEnvironment traced.system inner counted.1,
      step_keeps_banking (step_moved environment.toEnvironment traced.system inner) isInner
        counted.1 counted.2⟩

theorem report_of_invariant (invariant : ReportInvariant sagaId traced) :
    CompletionReported traced sagaId := by
  intro row member isKey
  obtain ⟨_, emitted, ofSaga, isMark, carries⟩ := invariant.banking.events row member isKey
  obtain ⟨saga, found, counts⟩ := emitted_counts invariant.saga emitted ofSaga
  obtain ⟨_, merged, repeats⟩ := counts.marks isMark
  obtain ⟨_, isCount, imported⟩ := (invariant.saga.context saga found).imported merged
  obtain ⟨transactions, isAccepted, rfl⟩ := Option.map_eq_some_iff.mp isCount
  have newImported : row.event.newImported =
      (insertedRows traced.system.transaction sagaId).length := by
    rw [carries.newImported, repeats.newImported, imported.imported]
    rfl
  have totalFetched : row.event.totalFetched = transactions.length := by
    rw [carries.totalFetched, repeats.totalFetched, imported.total]
    rfl
  refine ⟨transactions, isAccepted, newImported, totalFetched, ?_, ?_⟩
  · rw [newImported, totalFetched, carries.duplicatesSkipped, repeats.duplicatesSkipped,
      carries.errors, repeats.errors]
    exact imported.conserved
  · intro some
    unfold isNotified shouldNotifyBankSync
    split
    · rfl
    · simp [newImported, some]

/-- In every run whose steps keep the report, a completion event that is committed tells
what the fetch parsed and what the deliveries of the import inserted. -/
theorem completed_sync_reports (environment : SyncEnvironment) (table : TransactionTable)
    (connections : List BankConnection) (sagaId : String) (labels : List Label)
    (keeps : AllSteps (step environment sagaId) (KeepsReport sagaId) (initial table connections)
      labels) :
    CompletionReported (runFrom (step environment sagaId) (initial table connections) labels)
      sagaId := by
  apply report_of_invariant
  exact allowed_run_keeps (step environment sagaId) (step_keeps_report environment sagaId)
    (initial_report table connections sagaId) labels keeps

def syncEnvironment : SyncEnvironment where
  toEnvironment := sampleEnvironment
  fromisoformat := fun text => if text = "2024-01-05" then Date.ofFields 2024 1 5 else none
  maxTxPages := 1

def scheduledConnection : BankConnection where
  id := "c"
  accountId := 1
  syncSagaId := some "s"
  syncStartedAt := some 0
  syncTrigger := some SyncTrigger.scheduled.value

def purchasePage : Page where
  transactions :=
    [{ transactionAmount := some (some { amount := some (some "1.00") })
       creditDebitIndicator := some "DBIT"
       creditorName := some "Netto"
       bookingDate := some "2024-01-05" }]

def chunkCommitted : List Label :=
  List.map .service
      [.startSaga 0 sampleStart (some "s") "g", .publish 0, .banking (.take 0)] ++
    [.fetch [purchasePage]] ++
    List.map .service
      [.banking (.finish true), .reply .banking 0 1 true, .publish 1, .transaction (.take 0),
        .transaction .commitChunk]

/-- The import replies and the completion is committed. -/
def completed : List Label :=
  List.map .service
    (importReplied ++ [.banking (.take 0), .banking (.advance 3), .banking (.advance 3),
      .banking (.advance 3)])

def sampleSync (labels : List Label) : TracedSystem :=
  runFrom (step syncEnvironment "s") (initial emptyTable [scheduledConnection]) labels

/-- The handler dies after its commit and the command comes again. -/
def redelivered : List Label :=
  List.map .service [.transaction .crash, .transaction (.take 0), .transaction .commitChunk]

def announcedEvents (traced : TracedSystem) : List BankSyncCompletedEvent :=
  traced.system.banking.db.outbox.map OutboxEvent.event

/-- The import is delivered once: its row is reported and the user is told. -/
theorem undisturbed_sync_reports :
    (announcedEvents (sampleSync (chunkCommitted ++ completed))).map isNotified = [true] ∧
      CompletionReported (sampleSync (chunkCommitted ++ completed)) "s" := by
  constructor
  · decide +kernel
  · apply completed_sync_reports syncEnvironment emptyTable [scheduledConnection] "s"
      (chunkCommitted ++ completed)
    decide +kernel

/-- To the second delivery the row of the first is a duplicate: the sync announces no
import, and the scheduled run is suppressed as quiet. -/
theorem redelivered_sync_unreported : ¬ ∀ (environment : SyncEnvironment) (table : TransactionTable)
        (connections : List BankConnection) (sagaId : String) (labels : List Label),
      CompletionReported (runFrom (step environment sagaId) (initial table connections) labels)
        sagaId := by
  intro reported
  have reports := reported syncEnvironment emptyTable [scheduledConnection] "s"
    (chunkCommitted ++ redelivered ++ completed)
  have announced :
  (sampleSync (chunkCommitted ++ redelivered ++ completed)).system.banking.db.outbox.any
      (fun row => row.inboxKey = some (stepKey "s" markCompleteStep.name) &&
        !isNotified row.event) = true := by decide +kernel
  have inserted : (insertedRows (sampleSync (chunkCommitted ++ redelivered ++
      completed)).system.transaction "s").length = 1 := by decide +kernel
  obtain ⟨row, member, isQuiet⟩ := any_eq_true.mp announced
  rw [Bool.and_eq_true, decide_eq_true_eq, Bool.not_eq_true'] at isQuiet
  obtain ⟨_, _, report⟩ := reports row member isQuiet.1
  have isNotified := report.notified (by
    change 0 < (insertedRows (sampleSync (chunkCommitted ++ redelivered ++
      completed)).system.transaction "s").length
    omega)
  rw [isQuiet.2] at isNotified
  contradiction

end FinanceTracker.System.ReportedSync
