import FinanceTracker.Saga.BankSync
import FinanceTracker.Saga.Invariant

/-!
# One sweep over many sagas

`SagaTimeoutWorker`: an endless loop of sweeps over the stale sagas, each sweep
one transaction. The loop catches nothing, so what a sweep raises rolls the
sweep back and ends the loop. Each saga is decided on by itself; what the sagas
share is the transaction and the loop.
-/

namespace FinanceTracker.Saga.TimeoutSweep

open Library KeyedRows Runs Domain Orchestrator List

variable {Context Payload Result : Type}

structure Worker (Context Payload : Type) where
  db : SagaDb Context Payload
  running : Bool := true
  deriving DecidableEq

/-- One turn of the loop of `run_forever`. -/
def checkOnce (registry : SagaRegistry Context Payload Result) (maxAge : Int)
    (worker : Worker Context Payload) (now : Instant) : Worker Context Payload :=
  if worker.running then
    match checkTimeouts registry worker.db now maxAge with
    | .ok (db, _) => { worker with db := db }
    | .error _ => { worker with running := false }
  else worker

def runForever (registry : SagaRegistry Context Payload Result) (maxAge : Int)
    (worker : Worker Context Payload) (turns : List Instant) : Worker Context Payload :=
  runFrom (checkOnce registry maxAge) worker turns

/-- Whether the first compensation command among the steps is found, or their
absence established, without an exception. -/
def commandsBuild (definition : SagaDefinition Context Payload Result) (context : Context) :
    List Nat → Bool
  | [] => true
  | index :: indices =>
    match definition.steps[index]? with
    | none => false
    | some stepDef =>
      if stepDef.compensateEventType = none then commandsBuild definition context indices
      else
        match definition.buildCompensateCommand index context with
        | .error _ => false
        | .ok none => commandsBuild definition context indices
        | .ok (some _) => true

/-- The steps a rewind from the cursor comes to, the latest first. -/
def rewoundSteps (saga : SagaInstance Context) (cursor : Nat) : List Nat :=
  (List.range cursor).reverse.filter fun index => saga.stepStatus index = some .succeeded

/-- The type is registered and the commands the sweep needs can be built. -/
def handleable (registry : SagaRegistry Context Payload Result) (saga : SagaInstance Context) :
    Bool :=
  match getDefinition registry saga.sagaType with
  | .error _ => false
  | .ok definition =>
    if saga.status = .compensating then
      saga.currentStepObj.isNone || commandsBuild definition saga.context [saga.currentStep]
    else
      match hasCompensatableWork definition saga.context saga.steps with
      | .error _ => false
      | .ok false => true
      | .ok true =>
        saga.currentStepObj.isSome &&
          commandsBuild definition saga.context (rewoundSteps saga saga.currentStep)

def staleAt (cutoff : Instant) (saga : SagaInstance Context) : Bool :=
  saga.isActive && saga.updatedAt.any fun updatedAt => updatedAt ≤ cutoff

variable {saga : SagaInstance Context} {sagaId : String} {Value : Type}
  {definition : SagaDefinition Context Payload Result} {work : SagaWork Context Payload}

theorem stale_at_is_stale {cutoff : Instant} (stale : staleAt cutoff saga = true) :
    saga.isActive = true ∧ isStale saga cutoff = true := by
  unfold staleAt at stale
  rw [Bool.and_eq_true] at stale
  refine ⟨stale.1, ?_⟩
  unfold isStale
  cases updated : saga.updatedAt with
  | none => rfl
  | some =>
    have old := stale.2
    rw [updated] at old
    exact old

theorem mem_find_stale_ids {db : SagaDb Context Payload} {cutoff : Instant} :
    sagaId ∈ findStaleIds db cutoff ↔
      ∃ saga ∈ db.sagas, staleAt cutoff saga = true ∧ saga.id = sagaId := by
  unfold findStaleIds
  simp only [mem_map, mem_filter, and_assoc]
  rfl

theorem find_stale_ids_nodup {db : SagaDb Context Payload} {cutoff : Instant}
    (distinct : DistinctKeys SagaInstance.id db.sagas) : (findStaleIds db cutoff).Nodup :=
  distinct.sublist (filter_sublist.map _)

def Returns {Value : Type} (call : Except SagaError Value) : Prop :=
  ∃ value, call = .ok value

theorem not_returns_error (failure : SagaError) :
    ¬ Returns (.error failure : Except SagaError Value) := by
  rintro ⟨value, returned⟩
  cases returned

theorem returns_ok (value : Value) :
    Returns (.ok value : Except SagaError Value) := ⟨value, rfl⟩

theorem returns_bind {Other : Type} {first : Except SagaError Value}
    {rest : Value → Except SagaError Other} (total : ∀ value, Returns (rest value)) :
    Returns (first >>= rest) ↔ Returns first := by
  cases first with
  | error failure => exact iff_of_false (not_returns_error failure) (not_returns_error failure)
  | ok value => exact iff_of_true (total value) (returns_ok value)

theorem commands_build_one {context : Context} {index : Nat} {stepDef : StepDefinition}
    (defined : definition.steps[index]? = some stepDef) :
    commandsBuild definition context [index] = true ↔ (stepDef.compensateEventType = none ∨
        Returns (definition.buildCompensateCommand index context)) := by
  unfold commandsBuild
  rw [defined]
  dsimp only
  by_cases silent : stepDef.compensateEventType = none
  · simp [silent, commandsBuild]
  · cases built : definition.buildCompensateCommand index context with
    | error => simp [silent, not_returns_error]
    | ok payload => cases payload <;> simp [silent, returns_ok, commandsBuild]

theorem pending_compensation_returns : Returns (pendingCompensation definition saga) ↔
      (saga.currentStepObj.isNone ||
        commandsBuild definition saga.context [saga.currentStep]) = true := by
  unfold pendingCompensation
  cases saga.currentStepObj with
  | none => simp [returns_ok]
  | some =>
    simp only [Option.isNone_some, Bool.false_or]
    cases defined : definition.steps[saga.currentStep]? with
    | none =>
      unfold commandsBuild
      simp [defined, not_returns_error]
    | some stepDef =>
      rw [commands_build_one defined]
      cases compensates : stepDef.compensateEventType with
      | none => simp [compensates, returns_ok]
      | some =>
        simp only [compensates, reduceCtorEq, false_or]
        apply returns_bind
        intro payload
        cases payload with
        | none => exact returns_ok _
        | some => exact returns_ok _

theorem stale_compensation_returns {now : Instant} {maxAge : Int} :
    Returns (handleStaleCompensation definition now maxAge saga) ↔
      (saga.currentStepObj.isNone ||
        commandsBuild definition saga.context [saga.currentStep]) = true := by
  rw [← pending_compensation_returns]
  apply returns_bind
  intro pending
  cases pending with
  | none => exact returns_ok _
  | some =>
    dsimp only
    split
    · exact returns_ok _
    · exact returns_ok _

theorem rewound_steps_succ (saga : SagaInstance Context) (cursor : Nat) :
    rewoundSteps saga (cursor + 1) =
      if saga.stepStatus cursor = some .succeeded then cursor :: rewoundSteps saga cursor
      else rewoundSteps saga cursor := by
  unfold rewoundSteps
  rw [range_succ, reverse_append, reverse_singleton, singleton_append, filter_cons]
  simp

theorem rewound_steps_congr {other : SagaInstance Context} {cursor : Nat}
    (same : ∀ index < cursor, saga.stepStatus index = other.stepStatus index) :
    rewoundSteps saga cursor = rewoundSteps other cursor := by
  apply filter_congr
  intro index member
  rw [mem_reverse, mem_range] at member
  rw [same index member]

/-- Induction on the cursor; marking a step leaves the steps below it. -/
theorem compensate_from_returns (definition : SagaDefinition Context Payload Result)
    (now : Instant) (cursor : Nat) (saga : SagaInstance Context)
    (inside : cursor ≤ saga.steps.length) :
    Returns (compensateFrom definition now cursor saga) ↔
      commandsBuild definition saga.context (rewoundSteps saga cursor) = true := by
  induction cursor generalizing saga with
  | zero => exact iff_of_true (returns_ok _) rfl
  | succ cursor ih =>
    have passed (change : SagaStep → SagaStep) : Returns (compensateFrom definition now cursor
          ({ saga with currentStep := cursor }.modifyStep cursor change)) ↔
        commandsBuild definition saga.context (rewoundSteps saga cursor) = true := by
      rw [ih _ (by simpa [SagaInstance.modifyStep] using Nat.le_of_succ_le inside)]
      rw [rewound_steps_congr]
      · rfl
      · intro _ below
        rw [modify_step_status, if_neg (Nat.ne_of_gt below)]
        rfl
    obtain ⟨step, present⟩ : ∃ step, saga.steps[cursor]? = some step :=
      ⟨_, List.getElem?_eq_getElem inside⟩
    have status : saga.stepStatus cursor = some step.status := by
      unfold SagaInstance.stepStatus
      rw [present]
      rfl
    rw [rewound_steps_succ, status]
    unfold compensateFrom
    dsimp only
    rw [present]
    dsimp only
    by_cases succeeded : step.status = .succeeded
    · rw [if_neg (not_not.mpr succeeded), if_pos (by rw [succeeded])]
      unfold commandsBuild
      cases defined : definition.steps[cursor]? with
      | none => simp [not_returns_error]
      | some stepDef =>
        dsimp only
        cases compensates : stepDef.compensateEventType with
        | none => simpa using passed (markCompensated now)
        | some =>
          dsimp only
          cases built : definition.buildCompensateCommand cursor saga.context with
          | error => simp [error_bind, not_returns_error]
          | ok payload =>
            cases payload with
            | none => simpa [ok_bind] using passed (markCompensated now)
            | some => simp [ok_bind, returns_ok, pure, Except.pure]
    · rw [if_pos succeeded, if_neg (by simpa using succeeded)]
      exact ih { saga with currentStep := cursor } (Nat.le_of_succ_le inside)

theorem begin_compensation_returns {now : Instant} {errorMessage : Option String} :
    Returns (beginCompensation definition now saga errorMessage) ↔ (saga.currentStepObj.isSome &&
        commandsBuild definition saga.context (rewoundSteps saga saga.currentStep)) = true := by
  unfold beginCompensation
  cases found : saga.currentStepObj with
  | none => simp [not_returns_error]
  | some =>
    simp only [Option.isSome_some, Bool.true_and]
    have inside : saga.currentStep < saga.steps.length :=
      (List.getElem?_eq_some_iff.mp found).1
    unfold compensatePrevious
    rw [compensate_from_returns]
    · rw [rewound_steps_congr]
      · rfl
      · intro index (below : index < saga.currentStep)
        refine (modify_step_status saga saga.currentStep index _).trans ?_
        rw [if_neg (Nat.ne_of_gt below)]
    · simpa [SagaInstance.modifyStep] using Nat.le_of_lt inside

theorem decide_timeout_returns {registry : SagaRegistry Context Payload Result} {now : Instant}
    {maxAge : Int} {cutoff : Instant} (stale : staleAt cutoff saga = true) :
    Returns (decideTimeout registry now maxAge cutoff saga) ↔ handleable registry saga = true := by
  obtain ⟨active, old⟩ := stale_at_is_stale stale
  unfold decideTimeout handleable
  rw [active, old, Bool.and_self, if_pos rfl]
  cases registered : getDefinition registry saga.sagaType with
  | error => simp [error_bind, not_returns_error]
  | ok definition =>
    rw [ok_bind]
    dsimp only
    by_cases compensating : saga.status = .compensating
    · rw [if_pos compensating, if_pos compensating, ← stale_compensation_returns]
      exact returns_bind fun work => returns_ok _
    · rw [if_neg compensating, if_neg compensating]
      refine (returns_bind fun work => returns_ok _).trans ?_
      unfold handleStaleExecution
      cases work : hasCompensatableWork definition saga.context saga.steps with
      | error => simp [error_bind, not_returns_error]
      | ok found =>
        rw [ok_bind]
        cases found with
        | false => simp [returns_ok, pure, Except.pure]
        | true => simpa using begin_compensation_returns

def rowsFor (sagaId : String) (added : List (OutboxEntry Payload)) : List (OutboxEntry Payload) :=
  added.filter fun entry => entry.aggregateId = sagaId

/-- Work on the saga with this id, which adds rows of this saga only. -/
structure OwnWork (sagaId : String) (work : SagaWork Context Payload) : Prop where
  id : work.1.id = sagaId
  rows : ∀ entry ∈ work.2, entry.aggregateId = sagaId

theorem own_work_silent {next : SagaInstance Context} (same : next.id = sagaId) :
    OwnWork sagaId ((next, []) : SagaWork Context Payload) :=
  ⟨same, fun _ member => absurd member not_mem_nil⟩

theorem own_work_command {next : SagaInstance Context} (same : next.id = sagaId)
    (own : saga.id = sagaId) (step : SagaStep) (compensateEventType : String) (payload : Payload) :
    OwnWork sagaId
      (next, [outboxCompensationCommand saga step compensateEventType payload]) := by
  refine ⟨same, ?_⟩
  intro _ member
  rw [mem_singleton.mp member]
  exact own

theorem compensate_from_own (definition : SagaDefinition Context Payload Result) (now : Instant)
    (cursor : Nat) (saga : SagaInstance Context) (work : SagaWork Context Payload)
    (returned : compensateFrom definition now cursor saga = .ok work) :
    OwnWork saga.id work ∧ work.1.errorDetail = saga.errorDetail ∧
      (work.1.status = saga.status ∨ work.1.status = .failed) := by
  induction cursor generalizing saga with
  | zero =>
    cases returned
    exact ⟨own_work_silent rfl, rfl, Or.inr rfl⟩
  | succ cursor ih =>
    unfold compensateFrom at returned
    dsimp only at returned
    split at returned
    · cases returned
    · next step present =>
      split at returned
      · exact ih { saga with currentStep := cursor } returned
      · split at returned
        · cases returned
        · next stepDef defined =>
          split at returned
          · exact ih ({ saga with currentStep := cursor }.modifyStep cursor _) returned
          · obtain ⟨payload, _, returned⟩ := bind_eq_ok.mp returned
            cases payload with
            | none =>
              exact ih ({ saga with currentStep := cursor }.modifyStep cursor _) returned
            | some payload =>
              cases returned
              exact ⟨own_work_command (by rfl) (by rfl) step _ payload, rfl, Or.inl rfl⟩

theorem stale_compensation_own {now : Instant} {maxAge : Int}
    (returned : handleStaleCompensation definition now maxAge saga = .ok work) :
    OwnWork saga.id work := by
  unfold handleStaleCompensation at returned
  obtain ⟨pending, _, returned⟩ := bind_eq_ok.mp returned
  cases pending with
  | none =>
    cases returned
    exact own_work_silent rfl
  | some =>
    dsimp only at returned
    split at returned
    · cases returned
      exact own_work_silent rfl
    · cases returned
      exact own_work_command (by rfl) (by rfl) _ _ _

theorem stale_execution_own {now : Instant} {maxAge : Int}
    (returned : handleStaleExecution definition now maxAge saga = .ok work) :
    OwnWork saga.id work := by
  unfold handleStaleExecution at returned
  obtain ⟨found, _, returned⟩ := bind_eq_ok.mp returned
  cases found with
  | true =>
    simp only [if_true] at returned
    unfold beginCompensation at returned
    split at returned
    · cases returned
    · obtain ⟨own, _⟩ := compensate_from_own definition now _ _ work returned
      exact ⟨own.id, own.rows⟩
  | false =>
    cases returned
    exact own_work_silent rfl

theorem decide_timeout_own {registry : SagaRegistry Context Payload Result} {now : Instant}
    {maxAge : Int} {cutoff : Instant}
    (decided : decideTimeout registry now maxAge cutoff saga = .ok (some work)) :
    OwnWork saga.id work := by
  unfold decideTimeout at decided
  split at decided
  · obtain ⟨_, decided⟩ := rest_ok decided
    dsimp only at decided
    split at decided
    · obtain ⟨_, returned, decided⟩ := bind_eq_ok.mp decided
      cases decided
      have own := stale_compensation_own returned
      exact ⟨own.id, own.rows⟩
    · obtain ⟨_, returned, decided⟩ := bind_eq_ok.mp decided
      cases decided
      have own := stale_execution_own returned
      exact ⟨own.id, own.rows⟩
  · cases decided

section Candidates

variable (registry : SagaRegistry Context Payload Result) (now : Instant) (maxAge : Int)
  (cutoff : Instant)

def settledRow (saga : SagaInstance Context) :
    Option (SagaWork Context Payload) → SagaInstance Context
  | none => saga
  | some work => writeColumns saga work.1

def issued : Option (SagaWork Context Payload) → List (OutboxEntry Payload)
  | none => []
  | some work => work.2

/-- The candidates have become what the decisions on them by themselves say, the
others are as before, and the rows added for each saga are its own. -/
structure SweptTo (before after : SagaDb Context Payload) (sagaIds : List String)
    (added : List (OutboxEntry Payload)) : Prop where
  outbox : after.outbox = before.outbox ++ added
  others : ∀ sagaId, sagaId ∉ sagaIds →
    getById after sagaId = getById before sagaId ∧ rowsFor sagaId added = []
  each : ∀ sagaId ∈ sagaIds, ∀ saga, getById before sagaId = some saga →
    ∃ decision, decideTimeout registry now maxAge cutoff saga = .ok decision ∧
      getById after sagaId = some (settledRow saga decision) ∧
      rowsFor sagaId added = issued decision

variable {sagaId : String} {progress : SagaDb Context Payload × List (SagaInstance Context)}

theorem store_work_lookup (db : SagaDb Context Payload) {work : SagaWork Context Payload}
    (same : work.1.id = sagaId) (other : String) :
    getById (storeWork db work) other =
      if other = sagaId then (getById db other).map fun stored => writeColumns stored work.1
      else getById db other := by
  rw [← same]
  exact lookup_replace fun stored _ _ => rfl

theorem rows_for_own {saga : SagaInstance Context} {work : SagaWork Context Payload}
    (own : OwnWork saga.id work) (other : String) :
    rowsFor other work.2 = if other = saga.id then work.2 else [] := by
  unfold rowsFor
  split
  · next same =>
    rw [filter_eq_self]
    intro entry member
    simp [own.rows entry member, same]
  · next different =>
    rw [filter_eq_nil_iff]
    intro entry member
    simp [own.rows entry member, Ne.symm different]

theorem check_candidate_returns {saga : SagaInstance Context}
    (found : getById progress.1 sagaId = some saga) :
    Returns (checkCandidate registry now maxAge cutoff progress sagaId) ↔
      Returns (decideTimeout registry now maxAge cutoff saga) := by
  unfold checkCandidate
  rw [found]
  apply returns_bind
  intro decision
  cases decision with
  | none | some => exact returns_ok _

theorem check_candidate_swept {next : SagaDb Context Payload × List (SagaInstance Context)}
    (returned : checkCandidate registry now maxAge cutoff progress sagaId = .ok next) :
    ∃ added, SweptTo registry now maxAge cutoff progress.1 next.1 [sagaId] added := by
  unfold checkCandidate at returned
  cases found : getById progress.1 sagaId with
  | none =>
    rw [found] at returned
    cases returned
    refine ⟨[], (append_nil _).symm, fun other _ => ⟨rfl, rfl⟩, ?_⟩
    intro _ member _ stored
    rw [mem_singleton.mp member, found] at stored
    cases stored
  | some saga =>
    have sameId : saga.id = sagaId := (lookup_mem found).2
    subst sameId
    rw [found] at returned
    obtain ⟨decision, decided, returned⟩ := bind_eq_ok.mp returned
    cases decision with
    | none =>
      cases returned
      refine ⟨[], (append_nil _).symm, fun other _ => ⟨rfl, rfl⟩, ?_⟩
      intro _ member _ foundHere
      rw [mem_singleton.mp member, found] at foundHere
      cases foundHere
      refine ⟨none, decided, ?_, rfl⟩
      rw [mem_singleton.mp member]
      exact found
    | some work =>
      have own := decide_timeout_own decided
      cases returned
      refine ⟨work.2, rfl, ?_, ?_⟩
      · intro other outside
        have different : other ≠ saga.id := fun same => outside (mem_singleton.mpr same)
        rw [store_work_lookup _ own.id, rows_for_own own, if_neg different, if_neg different]
        exact ⟨rfl, rfl⟩
      · intro _ member _ foundHere
        have same := mem_singleton.mp member
        subst same
        rw [found] at foundHere
        cases foundHere
        refine ⟨some work, decided, ?_, ?_⟩
        · rw [store_work_lookup _ own.id, if_pos rfl, found]
          rfl
        · rw [rows_for_own own, if_pos rfl]
          rfl

/-- One candidate before the rest, none of which is that candidate. -/
theorem swept_to_cons {before middle after : SagaDb Context Payload} {sagaIds : List String}
    {first rest : List (OutboxEntry Payload)} (fresh : sagaId ∉ sagaIds)
    (head : SweptTo registry now maxAge cutoff before middle [sagaId] first)
    (tail : SweptTo registry now maxAge cutoff middle after sagaIds rest) :
    SweptTo registry now maxAge cutoff before after (sagaId :: sagaIds) (first ++ rest) := by
  have split (other : String) : rowsFor other (first ++ rest) =
      rowsFor other first ++ rowsFor other rest := filter_append first rest
  refine ⟨?_, ?_, ?_⟩
  · rw [tail.outbox, head.outbox, append_assoc]
  · intro other outside
    obtain ⟨notHead, notTail⟩ := not_or.mp (mt mem_cons.mpr outside)
    obtain ⟨sameFirst, noneFirst⟩ := head.others other (mt mem_singleton.mp notHead)
    obtain ⟨sameRest, noneRest⟩ := tail.others other notTail
    rw [sameRest, split, noneFirst, noneRest]
    exact ⟨sameFirst, rfl⟩
  · intro other member saga found
    rcases mem_cons.mp member with rfl | inTail
    · obtain ⟨decision, decided, row, rows⟩ := head.each other mem_cons_self saga found
      obtain ⟨sameRest, noneRest⟩ := tail.others other fresh
      refine ⟨decision, decided, sameRest.trans row, ?_⟩
      rw [split, noneRest, append_nil]
      exact rows
    · have different : other ≠ sagaId := fun same => fresh (same ▸ inTail)
      obtain ⟨sameFirst, noneFirst⟩ := head.others other (mt mem_singleton.mp different)
      rw [← sameFirst] at found
      obtain ⟨decision, decided, row, rows⟩ := tail.each other inTail saga found
      refine ⟨decision, decided, row, ?_⟩
      rw [split, noneFirst]
      exact rows

theorem check_candidates_swept (sagaIds : List String) (distinct : sagaIds.Nodup)
    {next : SagaDb Context Payload × List (SagaInstance Context)}
    (returned : sagaIds.foldlM (checkCandidate registry now maxAge cutoff) progress = .ok next) :
    ∃ added, SweptTo registry now maxAge cutoff progress.1 next.1 sagaIds added := by
  induction sagaIds generalizing progress with
  | nil =>
    cases returned
    exact ⟨[], (append_nil _).symm, fun other _ => ⟨rfl, rfl⟩,
      fun other member => absurd member not_mem_nil⟩
  | cons sagaId sagaIds ih =>
    obtain ⟨fresh, restDistinct⟩ := nodup_cons.mp distinct
    rw [foldlM_cons] at returned
    obtain ⟨_, checked, returned⟩ := bind_eq_ok.mp returned
    obtain ⟨first, head⟩ := check_candidate_swept registry now maxAge cutoff checked
    obtain ⟨rest, tail⟩ := ih restDistinct returned
    exact ⟨first ++ rest, swept_to_cons registry now maxAge cutoff fresh head tail⟩

theorem check_candidates_return (sagaIds : List String) (distinct : sagaIds.Nodup)
    (stored : ∀ sagaId ∈ sagaIds, (getById progress.1 sagaId).isSome) :
    Returns (sagaIds.foldlM (checkCandidate registry now maxAge cutoff) progress) ↔
      ∀ sagaId ∈ sagaIds, ∀ saga, getById progress.1 sagaId = some saga →
        Returns (decideTimeout registry now maxAge cutoff saga) := by
  induction sagaIds generalizing progress with
  | nil => exact iff_of_true (returns_ok _) fun other member => absurd member not_mem_nil
  | cons sagaId sagaIds ih =>
    obtain ⟨fresh, restDistinct⟩ := nodup_cons.mp distinct
    obtain ⟨saga, found⟩ := Option.isSome_iff_exists.mp (stored sagaId mem_cons_self)
    have head := check_candidate_returns registry now maxAge cutoff found
    rw [foldlM_cons, forall_mem_cons]
    have here : (∀ row, getById progress.1 sagaId = some row →
        Returns (decideTimeout registry now maxAge cutoff row)) ↔
        Returns (checkCandidate registry now maxAge cutoff progress sagaId) := by
      rw [head]
      constructor
      · intro each
        exact each saga found
      · intro decided _ foundRow
        rw [found] at foundRow
        cases foundRow
        exact decided
    rw [here]
    cases checked : checkCandidate registry now maxAge cutoff progress sagaId with
    | error failure =>
      exact iff_of_false (not_returns_error failure)
        fun both => not_returns_error failure both.1
    | ok middle =>
      obtain ⟨_, swept⟩ := check_candidate_swept registry now maxAge cutoff checked
      have same : ∀ other ∈ sagaIds, getById middle.1 other = getById progress.1 other := by
        intro other member
        exact (swept.others other (mt mem_singleton.mp
          fun equal => fresh (equal ▸ member))).1
      rw [ok_bind, ih restDistinct]
      · constructor
        · intro each
          refine ⟨returns_ok middle, ?_⟩
          intro other member row foundRow
          exact each other member row ((same other member).trans foundRow)
        · intro both other member row foundRow
          exact both.2 other member row ((same other member).symm.trans foundRow)
      · intro other member
        rw [same other member]
        exact stored other (mem_cons_of_mem _ member)

end Candidates

variable {db : SagaDb Context Payload} {saga : SagaInstance Context}
  {definition : SagaDefinition Context Payload Result}

theorem get_by_id_of_mem (distinct : DistinctKeys SagaInstance.id db.sagas)
    (member : saga ∈ db.sagas) : getById db saga.id = some saga :=
  (lookup_iff distinct).mpr ⟨member, rfl⟩

theorem check_timeouts_return (registry : SagaRegistry Context Payload Result)
    (db : SagaDb Context Payload) (now : Instant) (maxAge : Int)
    (distinct : DistinctKeys SagaInstance.id db.sagas) :
    Returns (checkTimeouts registry db now maxAge) ↔
      ∀ saga ∈ db.sagas, staleAt (now - maxAge * 1000000) saga = true →
        handleable registry saga = true := by
  unfold checkTimeouts
  dsimp only
  rw [check_candidates_return registry now maxAge _ _ (find_stale_ids_nodup distinct)]
  · constructor
    · intro each saga member stale
      rw [← decide_timeout_returns stale]
      exact each saga.id (mem_find_stale_ids.mpr ⟨saga, member, stale, rfl⟩) saga
        (get_by_id_of_mem distinct member)
    · intro each _ candidate saga found
      obtain ⟨_, member, stale, rfl⟩ := mem_find_stale_ids.mp candidate
      rw [get_by_id_of_mem distinct member] at found
      cases found
      exact (decide_timeout_returns stale).mpr (each saga member stale)
  · intro _ candidate
    obtain ⟨_, member, _, rfl⟩ := mem_find_stale_ids.mp candidate
    rw [get_by_id_of_mem distinct member]
    rfl

/-- The rows a turn commits for one saga. -/
def committedFor (before after : SagaDb Context Payload) (sagaId : String) :
    List (OutboxEntry Payload) :=
  rowsFor sagaId (after.outbox.drop before.outbox.length)

def onlySaga (db : SagaDb Context Payload) (saga : SagaInstance Context) :
    SagaDb Context Payload :=
  { db with sagas := [saga] }

/-- A turn of the running worker ends each stale saga it can handle as if no other saga
were stored, and the worker goes on. -/
structure Isolates (registry : SagaRegistry Context Payload Result) (maxAge : Int)
    (db : SagaDb Context Payload) (now : Instant) : Prop where
  asAlone : ∀ saga ∈ db.sagas, staleAt (now - maxAge * 1000000) saga = true →
    handleable registry saga = true →
      getById (checkOnce registry maxAge { db := db } now).db saga.id =
          getById (checkOnce registry maxAge { db := onlySaga db saga } now).db saga.id ∧
        committedFor db (checkOnce registry maxAge { db := db } now).db saga.id =
          committedFor db (checkOnce registry maxAge { db := onlySaga db saga } now).db saga.id
  goesOn : (checkOnce registry maxAge { db := db } now).running = true

theorem turn_settles {registry : SagaRegistry Context Payload Result} {maxAge : Int} {now : Instant}
    (distinct : DistinctKeys SagaInstance.id db.sagas) (member : saga ∈ db.sagas)
    (stale : staleAt (now - maxAge * 1000000) saga = true)
    (returns : Returns (checkTimeouts registry db now maxAge)) :
    ∃ decision, decideTimeout registry now maxAge (now - maxAge * 1000000) saga = .ok decision ∧
      getById (checkOnce registry maxAge { db := db } now).db saga.id =
        some (settledRow saga decision) ∧
      committedFor db (checkOnce registry maxAge { db := db } now).db saga.id =
        issued decision := by
  obtain ⟨after, returned⟩ := returns
  have turned : (checkOnce registry maxAge { db := db } now).db = after.1 := by
    unfold checkOnce
    rw [if_pos rfl, returned]
  obtain ⟨_, swept⟩ := check_candidates_swept registry now maxAge _ _
    (find_stale_ids_nodup distinct) returned
  obtain ⟨decision, decided, row, rows⟩ := swept.each saga.id
    (mem_find_stale_ids.mpr ⟨saga, member, stale, rfl⟩) saga (get_by_id_of_mem distinct member)
  refine ⟨decision, decided, ?_, ?_⟩
  · rw [turned]
    exact row
  · unfold committedFor
    rw [turned, swept.outbox, drop_left]
    exact rows

theorem check_once_running {registry : SagaRegistry Context Payload Result} {maxAge : Int}
    {now : Instant} :
    (checkOnce registry maxAge { db := db } now).running = true ↔
      Returns (checkTimeouts registry db now maxAge) := by
  unfold checkOnce
  rw [if_pos rfl]
  cases checkTimeouts registry db now maxAge with
  | error failure => exact iff_of_false Bool.false_ne_true (not_returns_error failure)
  | ok after => exact iff_of_true rfl (returns_ok after)

/-- The sweep isolates the sagas exactly when it can handle every stale one. -/
theorem isolates_iff (registry : SagaRegistry Context Payload Result) (maxAge : Int)
    (db : SagaDb Context Payload) (now : Instant)
    (distinct : DistinctKeys SagaInstance.id db.sagas) :
    Isolates registry maxAge db now ↔
      ∀ saga ∈ db.sagas, staleAt (now - maxAge * 1000000) saga = true →
        handleable registry saga = true := by
  rw [← check_timeouts_return registry db now maxAge distinct]
  constructor
  · intro isolates
    exact check_once_running.mp isolates.goesOn
  · intro returns
    refine ⟨?_, check_once_running.mpr returns⟩
    intro saga member stale canHandle
    have alone : Returns (checkTimeouts registry (onlySaga db saga) now maxAge) := by
      rw [check_timeouts_return]
      · intro _ only _
        rw [mem_singleton.mp only]
        exact canHandle
      · exact nodup_singleton saga.id
    obtain ⟨_, decided, row, rows⟩ := turn_settles distinct member stale returns
    obtain ⟨_, same, aloneRow, aloneRows⟩ := turn_settles
      (show DistinctKeys SagaInstance.id (onlySaga db saga).sagas from nodup_singleton _)
      (mem_singleton.mpr rfl) stale alone
    rw [decided] at same
    cases same
    refine ⟨row.trans aloneRow.symm, ?_⟩
    exact rows.trans aloneRows.symm

section Unregistered

open Shared.SagaMessages BankSync

def idleSaga (sagaId sagaType : String) : SagaInstance BankSyncContext :=
  { newSaga bankSyncDefinition 0 sagaType {} sagaId with updatedAt := some 0 }

def twoStale : SagaDb BankSyncContext CommandFields :=
  { sagas := [idleSaga "a" "csv_import", idleSaga "b" "bank_sync"], outbox := [] }

/-- By itself the second saga times out; next to the first one it stays STARTED. -/
theorem unregistered_blocks_the_sweep : ¬ Isolates sagaRegistry 900 twoStale 900000000 := by
  intro isolates
  have same := (isolates.asAlone (idleSaga "b" "bank_sync") (by decide) (by decide)
    (by decide)).1
  revert same
  decide

theorem isolates_iff_two_stale : DistinctKeys SagaInstance.id twoStale.sagas ∧
      (Isolates sagaRegistry 900 twoStale 900000000 ↔
        ∀ saga ∈ twoStale.sagas, staleAt 0 saga = true → handleable sagaRegistry saga = true) := by
  have distinct : DistinctKeys SagaInstance.id twoStale.sagas := by
    unfold DistinctKeys
    decide
  exact ⟨distinct, isolates_iff sagaRegistry 900 twoStale 900000000 distinct⟩

end Unregistered

end FinanceTracker.Saga.TimeoutSweep
