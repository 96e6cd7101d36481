import FinanceTracker.System.BankSyncRuns

/-!
# A completed sync is not undone

mark_sync_complete commits its event before its reply is on the way. Until the
reply is accepted the saga is STARTED, and the orchestrator may still give it up:
its sweep finds it stale, or a retried delivery ends in a failure reply. A
delivery that commits late may also announce a saga that has already been undone.
-/

namespace FinanceTracker.System.CompletionEvent

open Library Runs KeyedRows Shared.CommandConsumer Shared.SagaMessages Saga.Domain Saga.Orchestrator
  Saga.Transitions Saga.Invariant Saga.Decisions Saga.BankSync Saga.BankSyncCommands
open Banking.MarkSyncComplete (BankingDb BankConnection inboxKeyOrNone isDuplicate
  stepKey)
open Banking.SagaCommands (markBody)
open Transaction.ImportedRows (TransactionTable)
open BankSyncRuns

/-- The event of the saga's mark_sync_complete command is committed. -/
def announced (db : BankingDb) (sagaId : String) : Bool :=
  db.outbox.any fun row => row.inboxKey = some (stepKey sagaId markCompleteStep.name)

def isOngoingOrCompleted (saga : SagaInstance BankSyncContext) : Bool :=
  saga.status = .started || saga.status = .completed

/-- The saga goes on to its end or has ended COMPLETED. -/
def OngoingOrCompleted (db : BankSyncDb) (sagaId : String) : Prop :=
  ∃ saga, getById db sagaId = some saga ∧ isOngoingOrCompleted saga = true

def CompletionStands (system : BankSyncSystem) (sagaId : String) : Prop :=
  announced system.banking.db sagaId = true → OngoingOrCompleted system.saga sagaId ∧
      ∀ entry ∈ system.saga.outbox, (commandBody entry).sagaId = sagaId →
        (commandBody entry).eventType ≠ rollbackEventType

/-- The step commits the event of the saga's command. -/
def commitsCompletion (system : BankSyncSystem) (sagaId : String) : Label → Bool
  | .banking (.advance _) =>
    system.banking.running.any fun running =>
      match running.work with
      | .marking (.loaded _ _ _) =>
        running.message.body.sagaId = sagaId &&
          !isDuplicate system.banking.db (inboxKeyOrNone (markBody running.message.body))
      | _ => false
  | _ => false

/-- The event is committed only while the saga is STARTED or COMPLETED, and once
it is committed the orchestrator does not give the saga up. -/
def KeepsCompletion (sagaId : String) (system : BankSyncSystem) (label : Label) : Prop :=
  (commitsCompletion system sagaId label = true →
    (getById system.saga sagaId).any isOngoingOrCompleted = true) ∧
  (announced system.banking.db sagaId = true → givesUp system sagaId label = false)

instance (sagaId : String) (system : BankSyncSystem) (label : Label) :
    Decidable (KeepsCompletion sagaId system label) :=
  inferInstanceAs (Decidable (_ ∧ _))

variable {db : BankSyncDb} {sagaId : String}

theorem ongoing_of_any (found : (getById db sagaId).any isOngoingOrCompleted = true) :
    OngoingOrCompleted db sagaId := by
  obtain ⟨saga, stored, ongoing⟩ := (Option.any_eq_true _ _).mp found
  exact ⟨saga, stored, ongoing⟩

/-- What a call keeps of an announced saga: it stays on its way, and if the call
unwinds STARTED sagas it has not touched this one yet. -/
def Untouched (db : BankSyncDb) (call : Call BankSyncContext ResultData) (sagaId : String)
    (current : BankSyncDb) : Prop :=
  ∃ saga, getById current sagaId = some saga ∧ isOngoingOrCompleted saga = true ∧
    (unwinds call saga = true → getById db sagaId = some saga)

variable {call : Call BankSyncContext ResultData} {system : BankSyncSystem}

theorem advanced_untouched {current : BankSyncDb} {saga : SagaInstance BankSyncContext}
    {work : SagaWork BankSyncContext CommandFields} (found : getById current saga.id = some saga)
    (sameId : work.1.id = saga.id) (advancing : Advancing bankSyncDefinition saga work)
    (never : ∀ other, unwinds call other = false) :
    Untouched db call saga.id (storeWork current work) := by
  refine ⟨writeColumns saga work.1, ?_, ?_, ?_⟩
  · rw [get_stored found sameId]
    exact if_pos rfl
  · change isOngoingOrCompleted { work.1 with startedAt := saga.startedAt } = true
    unfold isOngoingOrCompleted
    cases advancing with
    | advanced kept before after =>
      simp [after]
    | completed kept before after => simp [after]
  · intro unwound
    rw [never] at unwound
    contradiction

theorem call_keeps_ongoing (fromEvent : StartsFromEvent call) (invariant : BankSyncInvariant db)
    (ongoing : OngoingOrCompleted db sagaId)
    (kept : ∀ saga, getById db sagaId = some saga → saga.status = .started →
      unwinds call saga = false) :
    OngoingOrCompleted (runCall sagaRegistry db call) sagaId := by
  obtain ⟨saga, found, ongoing⟩ := ongoing
  have untouched : BankSyncInvariant (runCall sagaRegistry db call) ∧
      Untouched db call sagaId (runCall sagaRegistry db call) := by
    apply @run_call_rule _ _ _ sagaRegistry
      (fun current => BankSyncInvariant current ∧ Untouched db call sagaId current) db call
    · exact ⟨invariant, saga, found, ongoing, fun _ => found⟩
    · intro _ _ _ _ _ _ isStart inserted
      obtain ⟨_, rfl⟩ := fromEvent _ _ _ _ _ isStart
      refine ⟨(insert_keeps_bank_sync invariant inserted).1, saga, ?_, ongoing, fun _ => found⟩
      cases inserted with
      | @inserted definition created command registered absent fresh given published =>
        obtain ⟨member, isId⟩ := lookup_mem found
        have other : sagaId ≠ created.id := by
          intro same
          exact absent saga member (isId.trans same)
        rw [get_inserted absent, if_neg other]
        exact found
    · intro _ stored _ holds storedFound decides
      obtain ⟨currentInvariant, other, otherFound, otherOngoing, same⟩ := holds
      refine ⟨(store_keeps_bank_sync currentInvariant storedFound decides).1, ?_⟩
      obtain ⟨_, _, sameId, transition⟩ := decides_bank_sync currentInvariant storedFound decides
      by_cases here : sagaId = stored.id
      · subst here
        rw [storedFound] at otherFound
        cases otherFound
        rcases transition with ⟨advancing, never⟩ | ⟨unwinding, cause⟩
        · exact advanced_untouched storedFound sameId advancing never
        · -- the saga is active, so it is STARTED and the call gives it up
          have started : stored.status = .started := by
            rcases transition_needs_active (Or.inr unwinding) with started | compensating
            · exact started
            · unfold isOngoingOrCompleted at otherOngoing
              rw [compensating] at otherOngoing
              contradiction
          have unwound := cause.started started
          rw [kept stored (same unwound) started] at unwound
          contradiction
      · refine ⟨other, ?_, otherOngoing, same⟩
        rw [get_stored storedFound sameId, if_neg here]
        exact otherFound
  obtain ⟨_, after, afterFound, afterOngoing, _⟩ := untouched
  exact ⟨after, afterFound, afterOngoing⟩

theorem step_key_inj {first second stepName : String}
    (same : stepKey first stepName = stepKey second stepName) : first = second := by
  unfold stepKey at same
  rw [String.append_assoc, String.append_assoc] at same
  exact (String.append_left_inj _).mp same

theorem mark_key {body : SagaCommand} (isStep : body.stepName = markCompleteStep.name)
    (isKey : inboxKeyOrNone (markBody body) = some (stepKey sagaId markCompleteStep.name)) :
    body.sagaId = sagaId := by
  unfold inboxKeyOrNone at isKey
  dsimp only [markBody, Option.getD_some] at isKey
  split at isKey
  · contradiction
  · rw [isStep] at isKey
    exact step_key_inj (Option.some.inj isKey)

/-- The announcement is new only when the step commits the saga's event. -/
theorem announced_cases {environment : Environment} (invariant : SystemInvariant system)
    {inner : Banking.SagaCommands.Label}
    (after : announced (Banking.SagaCommands.step environment.parseUuid system.banking inner).db
      sagaId = true) :
    announced system.banking.db sagaId = true ∨
      commitsCompletion system sagaId (.banking inner) = true := by
  rcases @Banking.SagaCommands.step_outbox environment.parseUuid system.banking inner with
    same | ⟨now, running, connectionId, userId, conn, row, rfl, isRunning, work, fresh, isKey, _,
      added⟩
  · unfold announced at after ⊢
    rw [same] at after
    exact Or.inl after
  · unfold announced at after ⊢
    rw [added, List.any_append, Bool.or_eq_true] at after
    rcases after with before | new
    · exact Or.inl before
    · apply Or.inr
      rw [List.any_cons, List.any_nil, Bool.or_false, decide_eq_true_eq, isKey] at new
      have isMark := invariant.marking running _ isRunning work
      obtain ⟨_, _, commandOf⟩ := invariant.bankingCommands _ (running_holds isRunning)
      have sameSaga := mark_key (commandOf.marks isMark) new
      unfold commitsCompletion
      rw [isRunning]
      simp [work, sameSaga, fresh]

def SystemStands (sagaId : String) (system : BankSyncSystem) : Prop :=
  SystemInvariant system ∧
    (announced system.banking.db sagaId = true → OngoingOrCompleted system.saga sagaId)

theorem step_keeps_stands (environment : Environment) (sagaId : String)
    (system : BankSyncSystem) (label : Label) (keeps : KeepsCompletion sagaId system label)
    (stands : SystemStands sagaId system) :
    SystemStands sagaId (step environment system label) := by
  obtain ⟨invariant, ongoing⟩ := stands
  refine ⟨step_keeps_system environment system label invariant, ?_⟩
  have moved := step_moved environment system label
  generalize step environment system label = next at moved ⊢
  cases moved with
  | idle saga transaction banking | transaction inner origin saga transaction banking =>
    rw [saga, banking]
    exact ongoing
  | called call isCall saga transaction banking =>
    rw [saga, banking]
    intro isAnnounced
    apply call_keeps_ongoing (label_call_from_event isCall) invariant.sagas (ongoing isAnnounced)
    intro _ found started
    have notGivenUp := keeps.2 isAnnounced
    unfold givesUp at notGivenUp
    rw [isCall, found] at notGivenUp
    simpa [started] using notGivenUp
  | banking inner origin saga transaction banking =>
    rw [saga, banking]
    intro isAnnounced
    rcases announced_cases invariant isAnnounced with before | commits
    · exact ongoing before
    · rcases origin with ⟨rfl, _⟩ | ⟨entry, _, rfl⟩
      · exact ongoing_of_any (keeps.1 commits)
      · contradiction

theorem stands_completion (stands : SystemStands sagaId system) :
    CompletionStands system sagaId := by
  intro isAnnounced
  have ongoing := stands.2 isAnnounced
  refine ⟨ongoing, ?_⟩
  intro entry member isSaga isRollback
  obtain ⟨_, found, isOngoing⟩ := ongoing
  obtain ⟨_, ownerFound, commandOf⟩ := stands.1.sagas.commands entry member
  rw [isSaga, found] at ownerFound
  cases ownerFound
  obtain ⟨givenUp, _⟩ := commandOf.rollsBack isRollback
  unfold isOngoingOrCompleted at isOngoing
  rcases givenUp with status | status
  · rw [status] at isOngoing
    contradiction
  · rw [status] at isOngoing
    contradiction

/-- In every run whose steps keep the completion, an announced sync is never
undone: after each prefix of the run the announced saga is STARTED or COMPLETED
and none of its commands is a rollback. -/
theorem announced_completion_stands (environment : Environment) (table : TransactionTable)
    (connections : List BankConnection) (sagaId : String) (labels : List Label)
    (keeps : AllSteps (step environment) (KeepsCompletion sagaId) (initial table connections)
      labels) :
    CompletionStands (runFrom (step environment) (initial table connections) labels) sagaId := by
  apply stands_completion
  apply allowed_run_keeps (step environment) (step_keeps_stands environment sagaId) _ labels keeps
  refine ⟨initial_system table connections, ?_⟩
  intro _
  contradiction

/-- mark_sync_complete runs up to its commit. -/
def completionCommitted : List Label :=
  chunkCommitted ++ importReplied ++
    [.banking (.take 0), .banking (.advance 3), .banking (.advance 3), .banking (.advance 3)]

/-- The reply is accepted and the sync is COMPLETED. -/
def completionReplied : List Label :=
  completionCommitted ++ [.banking (.advance 3), .banking (.finish true), .reply .banking 1 4 true]

theorem replied_completion_stands :
    announced (sampleRun completionReplied).banking.db "s" = true ∧
      CompletionStands (sampleRun completionReplied) "s" := by
  constructor
  · decide +kernel
  · apply announced_completion_stands sampleEnvironment emptyTable [sampleConnection] "s"
      completionReplied
    decide +kernel

/-- The sweep finds the saga stale between the commit and the reply: the sync is
announced and its import is rolled back. -/
theorem swept_completion_undone : ¬ ∀ (environment : Environment) (table : TransactionTable)
        (connections : List BankConnection) (sagaId : String) (labels : List Label),
      CompletionStands (runFrom (step environment) (initial table connections) labels)
        sagaId := by
  intro stands
  have sweptStands := stands sampleEnvironment emptyTable [sampleConnection] "s"
    (completionCommitted ++ [.checkTimeouts 2000000 1])
  have isAnnounced : announced (sampleRun (completionCommitted ++
      [.checkTimeouts 2000000 1])).banking.db "s" = true := by decide +kernel
  obtain ⟨⟨saga, found, ongoing⟩, _⟩ := sweptStands isAnnounced
  have compensating : (getById (sampleRun (completionCommitted ++
      [.checkTimeouts 2000000 1])).saga "s").all (fun saga => !isOngoingOrCompleted saga) =
        true := by decide +kernel
  unfold sampleRun at compensating
  rw [found, Option.all_some, ongoing] at compensating
  contradiction

end FinanceTracker.System.CompletionEvent
