import FinanceTracker.Saga.Invariant

/-!
# A call is a sequence of decisions

A call of the orchestrator loads stored sagas one after the other, decides on
each and stores the work of the decision. A property of the database that each
decision keeps is kept by the call. Here a decision keeps the call it belongs
to, so that what unwinds a saga can be told apart.
-/

namespace FinanceTracker.Saga.Decisions

open Library KeyedRows Runs Domain Orchestrator Transitions Invariant

variable {Context Payload Result : Type}

def Decides (registry : SagaRegistry Context Payload Result) (call : Call Context Result)
    (saga : SagaInstance Context) (work : SagaWork Context Payload) : Prop :=
  match call with
  | .startSaga _ _ _ _ _ => False
  | .handleReply now sagaId stepName success resultData errorMessage =>
    saga.id = sagaId ∧
      decideReply registry now saga stepName success resultData errorMessage = .ok work
  | .handleCompensationReply now sagaId stepName success errorMessage =>
    saga.id = sagaId ∧
      decideCompensationReply registry now saga stepName success errorMessage = .ok work
  | .checkTimeouts now maxAge =>
    decideTimeout registry now maxAge (now - maxAge * 1000000) saga = .ok (some work)

theorem check_candidates_rule {registry : SagaRegistry Context Payload Result} {now : Instant}
    {maxAge : Int} {property : SagaDb Context Payload → Prop}
    (stores : ∀ current saga work, property current → getById current saga.id = some saga →
      Decides registry (.checkTimeouts now maxAge) saga work → property (storeWork current work))
    (sagaIds : List String) {progress next : SagaDb Context Payload × List (SagaInstance Context)}
    (initial : property progress.1)
    (returned : sagaIds.foldlM
      (checkCandidate registry now maxAge (now - maxAge * 1000000)) progress = .ok next) :
    property next.1 := by
  induction sagaIds generalizing progress with
  | nil =>
    cases returned
    exact initial
  | cons sagaId sagaIds ih =>
    rw [List.foldlM_cons] at returned
    obtain ⟨_, checked, returned⟩ := bind_eq_ok.mp returned
    apply ih _ returned
    unfold checkCandidate at checked
    split at checked
    · cases checked
      exact initial
    · next saga found =>
      obtain ⟨decision, decided, checked⟩ := bind_eq_ok.mp checked
      cases decision with
      | none =>
        cases checked
        exact initial
      | some work =>
        cases checked
        apply stores progress.1 saga work initial _ decided
        rw [(lookup_mem found).2]
        exact found

theorem run_call_rule {registry : SagaRegistry Context Payload Result}
    {property : SagaDb Context Payload → Prop} {db : SagaDb Context Payload}
    (call : Call Context Result) (initial : property db)
    (inserts : ∀ now sagaType context correlationId generatedId next,
      call = .startSaga now sagaType context correlationId generatedId →
        Inserted registry context db next → property next)
    (stores : ∀ current saga work, property current → getById current saga.id = some saga →
      Decides registry call saga work → property (storeWork current work)) :
    property (runCall registry db call) := by
  cases call with
  | startSaga now sagaType context correlationId generatedId =>
    change property (stateAfter db _)
    rcases state_after_cases db
      (startSaga registry db now sagaType context correlationId generatedId) with
      same | ⟨saga, returned⟩
    · rw [same]
      exact initial
    · exact inserts _ _ _ _ _ _ rfl (start_saga_inserts returned)
  | handleReply now sagaId stepName success resultData errorMessage =>
    change property (stateAfter db _)
    unfold handleReply
    cases loaded : loadForUpdate db sagaId with
    | error => exact initial
    | ok saga =>
      have found := load_for_update_ok loaded
      have sameId := (lookup_mem found).2
      cases decided : decideReply registry now saga stepName success resultData
          errorMessage with
      | error =>
        simp only [decided, bind, Except.bind]
        exact initial
      | ok work =>
        simp only [decided, bind, Except.bind]
        apply stores db saga work initial _ ⟨sameId, decided⟩
        rw [sameId]
        exact found
  | handleCompensationReply now sagaId stepName success errorMessage =>
    change property (stateAfter db _)
    unfold handleCompensationReply
    cases loaded : loadForUpdate db sagaId with
    | error => exact initial
    | ok saga =>
      have found := load_for_update_ok loaded
      have sameId := (lookup_mem found).2
      cases decided : decideCompensationReply registry now saga stepName success
          errorMessage with
      | error =>
        simp only [decided, bind, Except.bind]
        exact initial
      | ok work =>
        simp only [decided, bind, Except.bind]
        apply stores db saga work initial _ ⟨sameId, decided⟩
        rw [sameId]
        exact found
  | checkTimeouts now maxAge =>
    change property (stateAfter db _)
    rcases state_after_cases db (checkTimeouts registry db now maxAge) with
      same | ⟨handled, returned⟩
    · rw [same]
      exact initial
    · exact check_candidates_rule stores (findStaleIds db (now - maxAge * 1000000)) initial
        returned

/-- The guards of a call that unwinds a STARTED saga: a failure reply to its
current step, or a sweep that finds it stale. -/
def unwinds (call : Call Context Result) (saga : SagaInstance Context) : Bool :=
  match call with
  | .handleReply _ sagaId stepName success _ _ =>
    !success && decide (saga.id = sagaId) &&
      saga.currentStepObj.any fun step => step.name = stepName
  | .checkTimeouts now maxAge => isStale saga (now - maxAge * 1000000)
  | _ => false

/-- Why a call unwinds a saga. Only a successful compensation reply marks the
step of the cursor as compensated. -/
structure UnwoundBy (call : Call Context Result) (saga : SagaInstance Context)
    (work : SagaWork Context Payload) : Prop where
  started : saga.status = .started → unwinds call saga = true
  compensated : saga.status = .compensating →
    work.1.stepStatus saga.currentStep = some .compensated → ∃ now stepName errorMessage,
        call = .handleCompensationReply now saga.id stepName true errorMessage

variable {now : Instant} {saga : SagaInstance Context} {work : SagaWork Context Payload}
  {registry : SagaRegistry Context Payload Result}

theorem stale_compensation_status {definition : SagaDefinition Context Payload Result}
    {maxAge : Int} (ready : CursorReady saga)
    (returned : handleStaleCompensation definition now maxAge saga = .ok work) :
    work.1.stepStatus saga.currentStep = some .failed ∨
      work.1.stepStatus saga.currentStep = saga.stepStatus saga.currentStep := by
  have failed : (failStaleCompensation now saga).stepStatus saga.currentStep = some .failed := by
    have marked := modify_step_status_of_present saga ready.inside
      (fun step =>
        show (markFailed (some "compensation timed out") step).status = .failed from rfl)
    exact (marked saga.currentStep).trans (if_pos rfl)
  unfold handleStaleCompensation at returned
  obtain ⟨pending, _, returned⟩ := bind_eq_ok.mp returned
  cases pending with
  | none =>
    cases returned
    exact Or.inl failed
  | some =>
    dsimp only at returned
    split at returned
    · cases returned
      exact Or.inl failed
    · cases returned
      exact Or.inr rfl

/-- A sweep never counts a compensation as done. -/
theorem timeout_never_compensates {maxAge : Int} {cutoff : Instant} (ready : CursorReady saga)
    (status : saga.status = .compensating)
    (current : saga.stepStatus saga.currentStep = some .succeeded)
    (decided : decideTimeout registry now maxAge cutoff saga = .ok (some work)) :
    work.1.stepStatus saga.currentStep ≠ some .compensated := by
  unfold decideTimeout at decided
  split at decided
  · obtain ⟨_, decided⟩ := rest_ok decided
    dsimp only at decided
    obtain ⟨⟨next, _⟩, handled, decided⟩ := bind_eq_ok.mp decided
    cases decided
    change next.stepStatus saga.currentStep ≠ some .compensated
    rcases stale_compensation_status ready handled with failed | same
    · rw [failed]
      decide
    · dsimp only at same
      rw [same, current]
      decide
  · cases decided

theorem decided_failure_status {stepName : String} {errorMessage : Option String}
    (ready : CursorReady saga)
    (decided : decideCompensationReply registry now saga stepName false errorMessage = .ok work) :
    work.1.stepStatus saga.currentStep = some .failed := by
  unfold decideCompensationReply at decided
  dsimp only at decided
  split at decided
  · cases decided
  · obtain ⟨_, decided⟩ := rest_ok decided
    obtain ⟨_, decided⟩ := rest_ok decided
    simp only [Bool.false_eq_true, if_false] at decided
    cases decided
    have marked := modify_step_status_of_present saga ready.inside
      (fun step => show (markFailed errorMessage step).status = .failed from rfl)
    exact (marked saga.currentStep).trans (if_pos rfl)

/-- A decision advances the saga, and then the call unwinds none, or it unwinds the
saga and says why. -/
theorem decides_transition {db : SagaDb Context Payload} {call : Call Context Result}
    (invariant : DbInvariant registry db) (found : getById db saga.id = some saga)
    (decides : Decides registry call saga work) :
    ∃ definition, getDefinition registry saga.sagaType = .ok definition ∧
      SagaInvariant definition saga ∧
      (Advancing definition saga work ∧ (∀ other, unwinds call other = false) ∨
        Unwinding definition saga work ∧ UnwoundBy call saga work) := by
  have ready := stored_ready invariant found
  obtain ⟨known, knownRegistered, holds⟩ := invariant.sagas saga (lookup_mem found).1
  cases call with
  | startSaga => exact decides.elim
  | handleReply now sagaId stepName success =>
    obtain ⟨sameId, decided⟩ := decides
    obtain ⟨_, registered, started, ⟨_, isCurrent, name⟩, accepted, rejected⟩ :=
      decide_reply_cases ready decided
    rw [knownRegistered] at registered
    cases registered
    cases success with
    | true => exact ⟨known, knownRegistered, holds, Or.inl ⟨accepted rfl, fun _ => rfl⟩⟩
    | false =>
      refine ⟨known, knownRegistered, holds, Or.inr ⟨rejected rfl, ?_, ?_⟩⟩
      · intro _
        unfold unwinds
        simp [sameId, isCurrent, name]
      · intro compensating
        rw [started] at compensating
        contradiction
  | handleCompensationReply now sagaId stepName success errorMessage =>
    obtain ⟨sameId, decided⟩ := decides
    obtain ⟨_, registered, compensating, _, unwinding⟩ :=
      decide_compensation_reply_cases ready decided
    rw [knownRegistered] at registered
    cases registered
    refine ⟨known, knownRegistered, holds, Or.inr ⟨unwinding, ?_, ?_⟩⟩
    · intro started
      rw [compensating] at started
      contradiction
    · intro _ marked
      subst sameId
      cases success with
      | true => exact ⟨now, stepName, errorMessage, rfl⟩
      | false =>
        have active : saga.isActive = true := (is_active_iff saga).mpr (Or.inr compensating)
        rw [decided_failure_status (ready active) decided] at marked
        contradiction
  | checkTimeouts =>
    obtain ⟨_, registered, active, stale, unwinding⟩ :=
      decide_timeout_cases ready decides
    rw [knownRegistered] at registered
    cases registered
    refine ⟨known, knownRegistered, holds, Or.inr ⟨unwinding, ?_, ?_⟩⟩
    · intro _
      exact stale
    · intro compensating marked
      obtain ⟨_, shape⟩ := holds.compensating compensating
      exact absurd marked
        (timeout_never_compensates (ready active) compensating shape.current decides)

end FinanceTracker.Saga.Decisions
