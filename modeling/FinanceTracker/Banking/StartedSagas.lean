import FinanceTracker.Banking.SyncClaims

/-!
# The saga that a call hands out

An id that a call read from a claim has a start event. Its own id has one only when
its claim was won: a call that loses its second attempt and then reads no claim
hands out an id that nobody started.
-/

namespace FinanceTracker.Banking.StartedSagas

open Library KeyedRows Runs MarkSyncComplete StartSync SyncRuns SyncClaims

def findsWinner (system : SyncSystem) : Label → Bool
  | .advance sagaId _ =>
    match findCall system sagaId with
    | none => true
    | some call =>
      call.progress ≠ .retryLost ||
        (givenClaim (currentClaim system.tables.db call.request.connectionId)).isSome
  | _ => true

abbrev FindsWinner (system : SyncSystem) (label : Label) : Prop :=
  findsWinner system label = true

section Steps

variable {ttl : Instant} {system : SyncSystem}

theorem call_step_saw {status : Option String} {tables : SyncTables} {call : StartCall}
    {outcome : SyncTables × StartCall} (stepped : CallStep ttl status tables call outcome)
    (finds : call.progress ≠ .retryLost ∨
      (givenClaim (currentClaim tables.db call.request.connectionId)).isSome = true) :
    outcome.2.sawWinner = call.sawWinner := by
  cases stepped with
  | finished | claimed | deferred => rfl
  | read progress sawWinner active going before ids flag =>
    rcases flag with same | ⟨_, lost, gone⟩
    · exact same
    · rcases finds with other | found
      · exact absurd lost other
      · rw [gone] at found
        contradiction

theorem abandon_saw (call : StartCall) : (abandonCall call).sawWinner = call.sawWinner := by
  unfold abandonCall
  cases call.progress with
  | claiming | conflict | retrying | retryLost | contested existingId | stealing existingId
  | stealLost existingId | deferring winnerId | returned sagaId alreadyRunning | aborted => rfl

theorem saw_keeps (parseUuid : String → Option String)
    (saw : ∀ call ∈ system.calls, call.sawWinner = true) {label : Label}
    (finds : FindsWinner system label) :
    ∀ call ∈ (step parseUuid ttl system label).calls, call.sawWinner = true := by
  have stepped := step_cases parseUuid ttl system label
  generalize step parseUuid ttl system label = next at stepped ⊢
  cases stepped with
  | unchanged | commanded | handled | dropped | ended => exact saw
  | requested request answers call fresh ready known =>
    refine forall_snoc saw ?_
    exact known
  | advanced sagaId status call outcome found stepped =>
    unfold FindsWinner findsWinner at finds
    dsimp only at finds
    rw [found] at finds
    apply set_call_forall
    · intro row member _
      exact saw row member
    · rw [call_step_saw stepped]
      · exact saw call (lookup_mem found).1
      · simpa using finds
  | abandoned sagaId call found =>
    apply set_call_forall
    · intro row member _
      exact saw row member
    · rw [abandon_saw]
      exact saw call (lookup_mem found).1

theorem sync_run_saw (parseUuid : String → Option String) (unclaimed : Unclaimed)
    (labels : List Label)
    (finds : AllSteps (step parseUuid ttl) FindsWinner (start unclaimed) labels) :
    ∀ call ∈ (syncRun parseUuid ttl unclaimed labels).calls, call.sawWinner = true := by
  have keeps : ∀ (current : SyncSystem) (label : Label), FindsWinner current label →
      (∀ call ∈ current.calls, call.sawWinner = true) →
        ∀ call ∈ (step parseUuid ttl current label).calls, call.sawWinner = true :=
    fun _ _ allowed saw => saw_keeps parseUuid saw allowed
  apply allowed_run_keeps (step parseUuid ttl) keeps _ labels finds
  intro _ _
  contradiction

theorem returned_started_iff {call : StartCall} (inv : SyncInv system)
    (member : call ∈ system.calls) {sagaId : String} {alreadyRunning : Bool}
    (returned : call.progress = .returned sagaId alreadyRunning) :
    Started system.tables.startEvents sagaId ↔ call.sawWinner = true := by
  have sound := inv.calls call member
  constructor
  · intro started
    by_contra fell
    rcases sound.fallback (Bool.eq_false_iff.mpr fell) with deferring | own | aborted
    · rw [returned] at deferring
      contradiction
    · rw [returned] at own
      cases own
      have early := sound.unstarted started
      rw [returned] at early
      cases early
    · rw [returned] at aborted
      contradiction
  · intro saw
    apply sound.handed sagaId
    · rw [returned]
      rfl
    · exact saw

end Steps

/-- A returned saga has its start event exactly when its call never had to do without
a winner, as in runs where every call finds one. -/
theorem returned_sagas_started_iff (parseUuid : String → Option String) (ttl : Instant)
    (unclaimed : Unclaimed) (labels : List Label) :
    (∀ call ∈ (syncRun parseUuid ttl unclaimed labels).calls, ∀ sagaId alreadyRunning,
      call.progress = .returned sagaId alreadyRunning →
        (Started (syncRun parseUuid ttl unclaimed labels).tables.startEvents sagaId ↔
          call.sawWinner = true)) ∧
    (AllSteps (step parseUuid ttl) FindsWinner (start unclaimed) labels →
      ∀ call ∈ (syncRun parseUuid ttl unclaimed labels).calls, ∀ sagaId alreadyRunning,
        call.progress = .returned sagaId alreadyRunning →
          Started (syncRun parseUuid ttl unclaimed labels).tables.startEvents sagaId) := by
  have inv : SyncInv (syncRun parseUuid ttl unclaimed labels) :=
    sync_run_inv parseUuid unclaimed labels
  constructor
  · intro _ member _ _ returned
    exact returned_started_iff inv member returned
  · intro finds call member _ _ returned
    apply (returned_started_iff inv member returned).mpr
    exact sync_run_saw parseUuid unclaimed labels finds call member

def completionOf (sagaId : String) : MarkSyncCommand where
  connectionId := some "connection"
  userId := some 7
  sagaId := some sagaId
  stepName := some "mark_sync_complete"

/-- The completion of a saga, as the delivery with the index, in full. -/
def completedAt (index : Nat) (sagaId : String) (now : Instant) : List Label :=
  [.command (completionOf sagaId), .handle index now, .handle index now, .handle index now]

/-- The second call loses both attempts, to the first and to the third. -/
def lostTwice : List Label :=
  [requestAt .scheduled "first" 1000, .advance "first" none, requestAt .manual "second" 2000,
    .advance "second" none] ++ completedAt 0 "first" 3000 ++
  [.advance "second" none, requestAt .scheduled "third" 4000, .advance "third" none,
    .advance "second" none]

/-- It reads the claim of the third call. -/
def winnerFound : List Label := lostTwice ++ [.advance "second" none, .advance "second" none]

/-- It reads the claim after the third saga has completed. -/
def winnerGone : List Label :=
  lostTwice ++ completedAt 1 "third" 5000 ++ [.advance "second" none, .advance "second" none]

def secondCall (winnerId : String) (sawWinner : Bool) : StartCall where
  request := { connectionId := "connection", userId := 7 }
  sagaId := "second"
  now := 2000
  accountId := 5
  accountName := "Budget"
  bankAccountUid := "uid"
  progress := .returned winnerId true
  sawWinner := sawWinner

theorem winner_found_is_started :
    Started (syncRun some 600000000 oneConnection winnerFound).tables.startEvents "third" := by
  apply (returned_sagas_started_iff some 600000000 oneConnection winnerFound).2
    (by decide +kernel) (secondCall "third" true) (by decide +kernel) "third" true
  rfl

/-- The second call returns its own id, of which there is no start event. -/
theorem winner_gone_is_not_started :
    ¬ ∀ parseUuid ttl unclaimed labels, ∀ call ∈ (syncRun parseUuid ttl unclaimed labels).calls,
      ∀ sagaId alreadyRunning, call.progress = .returned sagaId alreadyRunning →
        Started (syncRun parseUuid ttl unclaimed labels).tables.startEvents sagaId := by
  intro always
  obtain ⟨_, member, same⟩ := always some 600000000 oneConnection winnerGone
    (secondCall "second" false) (by decide +kernel) "second" true rfl
  have ids : (syncRun some 600000000 oneConnection winnerGone).tables.startEvents.map
      BankSyncSagaStartEvent.correlationId = ["first", "third"] := by
    decide +kernel
  have known := List.mem_map_of_mem (f := BankSyncSagaStartEvent.correlationId) member
  rw [ids, same] at known
  revert known
  decide

end FinanceTracker.Banking.StartedSagas
