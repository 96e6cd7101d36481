import FinanceTracker.Library.IntText
import FinanceTracker.Saga.Decisions
import FinanceTracker.Saga.TimeoutSweep

/-!
# Re-emitting a stale compensation once

Whether a stale compensation was re-emitted before is read off `error_detail`,
which also holds what the participants reported and what was noted for other
steps. The history of a run keeps apart what the text mixes: at which steps
sweeps found sagas stale, and which failures were reported with the marker in
their text.
-/

namespace FinanceTracker.Saga.Reemission

open Library IntText KeyedRows Runs Domain Orchestrator Transitions Invariant Decisions TimeoutSweep
  List

variable {Context Payload Result : Type}

/-- The database with the stale detections of pending compensations by saga and step,
and the sagas whose failure was reported with the marker in its text. -/
structure History (Context Payload : Type) where
  db : SagaDb Context Payload
  detected : List (String × Nat)
  quoting : List String

def History.empty : History Context Payload :=
  { db := SagaDb.empty, detected := [], quoting := [] }

def isCompensating (saga : SagaInstance Context) : Bool :=
  saga.status = .compensating

def cutoffOf (now : Instant) (maxAge : Int) : Instant := now - maxAge * 1000000

def staleCompensations (db : SagaDb Context Payload) (cutoff : Instant) :
    List (SagaInstance Context) :=
  db.sagas.filter fun saga => isCompensating saga && staleAt cutoff saga

def detections (registry : SagaRegistry Context Payload Result) (db : SagaDb Context Payload) :
    Call Context Result → List (String × Nat)
  | .checkTimeouts now maxAge =>
    match checkTimeouts registry db now maxAge with
    | .ok _ =>
      (staleCompensations db (cutoffOf now maxAge)).map fun saga =>
        (saga.id, saga.currentStep)
    | .error _ => []
  | _ => []

def quotes (registry : SagaRegistry Context Payload Result) (db : SagaDb Context Payload) :
    Call Context Result → List String
  | .handleReply now sagaId stepName success resultData errorMessage =>
    match handleReply registry db now sagaId stepName success resultData errorMessage with
    | .ok _ => if !success && containsMarker errorMessage then [sagaId] else []
    | .error _ => []
  | _ => []

def observe (registry : SagaRegistry Context Payload Result) (history : History Context Payload)
    (call : Call Context Result) : History Context Payload where
  db := runCall registry history.db call
  detected := history.detected ++ detections registry history.db call
  quoting := history.quoting ++ quotes registry history.db call

/-- The marker was noted for the saga, by a re-emission or by a participant. -/
def Noted (history : History Context Payload) (sagaId : String) : Prop :=
  sagaId ∈ history.quoting ∨ ∃ detection ∈ history.detected, detection.1 = sagaId

instance (history : History Context Payload) (sagaId : String) :
    Decidable (Noted history sagaId) :=
  inferInstanceAs (Decidable (_ ∨ _))

def pendingCommand (registry : SagaRegistry Context Payload Result)
    (saga : SagaInstance Context) : Option (OutboxEntry Payload) :=
  match getDefinition registry saga.sagaType with
  | .error _ => none
  | .ok definition =>
    match pendingCompensation definition saga with
    | .ok (some (step, compensateEventType, payload)) =>
      some (outboxCompensationCommand saga step compensateEventType payload)
    | _ => none

def statusAfter (registry : SagaRegistry Context Payload Result) (db : SagaDb Context Payload)
    (call : Call Context Result) (sagaId : String) : Option SagaStatus :=
  (getById (runCall registry db call) sagaId).map SagaInstance.status

/-- A sweep re-emits each pending compensation it finds stale for the first time, and
fails a compensating saga only at a later time or without a command. -/
def ReemitsOnce (registry : SagaRegistry Context Payload Result)
    (history : History Context Payload) : Call Context Result → Prop
  | .checkTimeouts now maxAge =>
    ∀ saga ∈ staleCompensations history.db (cutoffOf now maxAge),
      (∀ command ∈ pendingCommand registry saga, (saga.id, saga.currentStep) ∉ history.detected →
          statusAfter registry history.db (.checkTimeouts now maxAge) saga.id = some .compensating ∧
            committedFor history.db (runCall registry history.db (.checkTimeouts now maxAge))
              saga.id = [command]) ∧
      (statusAfter registry history.db (.checkTimeouts now maxAge) saga.id = some .failed →
        (saga.id, saga.currentStep) ∈ history.detected ∨ pendingCommand registry saga = none)
  | _ => True

/-- When a sweep finds a pending compensation stale for the first time, nothing has noted
the marker for its saga, and the sweep can handle every stale saga. -/
def Unmarked (registry : SagaRegistry Context Payload Result)
    (history : History Context Payload) : Call Context Result → Prop
  | .checkTimeouts now maxAge =>
    ∀ saga ∈ staleCompensations history.db (cutoffOf now maxAge),
      (pendingCommand registry saga).isSome → (saga.id, saga.currentStep) ∉ history.detected →
          ¬ Noted history saga.id ∧
            ∀ other ∈ history.db.sagas, staleAt (cutoffOf now maxAge) other = true →
              handleable registry other = true
  | _ => True

instance [DecidableEq Payload] (registry : SagaRegistry Context Payload Result)
    (history : History Context Payload) (call : Call Context Result) :
    Decidable (ReemitsOnce registry history call) :=
  match call with
  | .checkTimeouts now maxAge =>
    inferInstanceAs (Decidable
      (∀ saga ∈ staleCompensations history.db (cutoffOf now maxAge), _ ∧ _))
  | .startSaga _ _ _ _ _ => isTrue trivial
  | .handleReply _ _ _ _ _ _ => isTrue trivial
  | .handleCompensationReply _ _ _ _ _ => isTrue trivial

instance (registry : SagaRegistry Context Payload Result) (history : History Context Payload)
    (call : Call Context Result) : Decidable (Unmarked registry history call) :=
  match call with
  | .checkTimeouts now maxAge =>
    inferInstanceAs (Decidable
      (∀ saga ∈ staleCompensations history.db (cutoffOf now maxAge), _ → _ → _ ∧ _))
  | .startSaga _ _ _ _ _ => isTrue trivial
  | .handleReply _ _ _ _ _ _ => isTrue trivial
  | .handleCompensationReply _ _ _ _ _ => isTrue trivial

theorem no_marker_of_count {text : String} (few : text.toList.count 'm' < 4) :
    containsMarker (some text) = false := by
  unfold containsMarker
  rw [Option.any_some, decide_eq_false_iff_not]
  intro inside
  have more := inside.sublist.count_le 'm'
  have four : compensationReemitMarker.toList.count 'm' = 4 := by decide
  omega

theorem digits_no_letter (value : Nat) : (Nat.repr value).toList.count 'm' = 0 := by
  rw [count_eq_zero]
  intro member
  have digit := digits_ascii value 'm' (by simpa [Nat.repr] using member)
  revert digit
  decide

theorem number_no_letter (value : Int) : (toString value).toList.count 'm' = 0 := by
  cases value with
  | ofNat value => exact digits_no_letter value
  | negSucc value =>
    change ("-" ++ Nat.repr (value + 1)).toList.count 'm' = 0
    rw [String.toList_append, count_append, digits_no_letter]
    decide

theorem timed_out_no_marker (maxAge : Int) :
    containsMarker (some ("timed out after " ++ secondsText maxAge ++ "; compensating")) =
      false := by
  apply no_marker_of_count
  unfold secondsText
  simp only [String.toList_append, count_append, number_no_letter]
  decide

variable {definition : SagaDefinition Context Payload Result} {now : Instant}
  {saga : SagaInstance Context} {errorMessage : Option String} {work : SagaWork Context Payload}
  {resultData : Option Result} {noted : Prop} {registry : SagaRegistry Context Payload Result}
  {stepName : String} {success : Bool} {maxAge : Int} {history : History Context Payload}
  {call : Call Context Result} {db next : SagaDb Context Payload}
  {handled : List (SagaInstance Context)}

theorem begin_compensation_shape
    (returned : beginCompensation definition now saga errorMessage = .ok work) :
    work.1.id = saga.id ∧ work.1.errorDetail = errorMessage ∧
      (work.1.status = .compensating ∨ work.1.status = .failed) := by
  unfold beginCompensation at returned
  split at returned
  · cases returned
  · obtain ⟨own, shape⟩ := compensate_from_own definition now _ _ work returned
    exact ⟨own.id, shape⟩

theorem advance_shape (returned : advance definition now saga resultData = .ok work) :
    work.1.id = saga.id ∧ (work.1.status = saga.status ∨ work.1.status = .completed) := by
  unfold advance at returned
  obtain ⟨_, returned⟩ := rest_ok returned
  dsimp only at returned
  split at returned
  · cases returned
    exact ⟨rfl, Or.inr rfl⟩
  · obtain ⟨_, returned⟩ := rest_ok returned
    cases returned
    exact ⟨rfl, Or.inl rfl⟩

theorem decide_reply_shape
    (decided : decideReply registry now saga stepName success resultData errorMessage = .ok work) :
    saga.status = .started ∧ work.1.id = saga.id ∧
      if success then work.1.status = .started ∨ work.1.status = .completed
      else work.1.errorDetail = errorMessage ∧
        (work.1.status = .compensating ∨ work.1.status = .failed) := by
  unfold decideReply at decided
  dsimp only at decided
  split at decided
  · cases decided
  · next notDone =>
    have started : saga.status = .started := not_not.mp notDone
    obtain ⟨_, decided⟩ := rest_ok decided
    obtain ⟨_, decided⟩ := rest_ok decided
    cases success with
    | true =>
      obtain ⟨sameId, status⟩ := advance_shape decided
      exact ⟨started, sameId, status.imp_left fun same => same.trans started⟩
    | false =>
      have shape := begin_compensation_shape decided
      exact ⟨started, shape⟩

theorem decide_compensation_reply_shape
    (decided : decideCompensationReply registry now saga stepName success errorMessage = .ok work) :
    saga.status = .compensating ∧ work.1.id = saga.id ∧
      (work.1.errorDetail = saga.errorDetail ∧ work.1.status = .compensating ∨
        work.1.status = .failed) := by
  unfold decideCompensationReply at decided
  dsimp only at decided
  split at decided
  · cases decided
  · next notDone =>
    have compensating : saga.status = .compensating := not_not.mp notDone
    obtain ⟨definition, _, decided⟩ := bind_eq_ok.mp decided
    obtain ⟨_, decided⟩ := rest_ok decided
    cases success with
    | true =>
      obtain ⟨own, text, status⟩ := compensate_from_own definition now _ _ work decided
      exact ⟨compensating, own.id,
        status.imp_left fun same => ⟨text, same.trans compensating⟩⟩
    | false =>
      cases decided
      exact ⟨compensating, rfl, Or.inr rfl⟩

/-- What the text says of the marker: nothing of it while the saga is STARTED, and while it
is COMPENSATING exactly that the marker was noted. -/
structure TextTells (noted : Prop) (saga : SagaInstance Context) : Prop where
  started : saga.status = .started → ¬ noted
  compensating : saga.status = .compensating → (containsMarker saga.errorDetail = true ↔ noted)

theorem text_tells_congr {other : Prop} (same : noted ↔ other) (tells : TextTells noted saga) :
    TextTells other saga := by
  rw [← propext same]
  exact tells

theorem finished_tells (notStarted : saga.status ≠ .started)
    (notCompensating : saga.status ≠ .compensating) :
    TextTells noted saga :=
  ⟨fun started => absurd started notStarted,
    fun compensating => absurd compensating notCompensating⟩

theorem decide_reply_tells (tells : TextTells noted saga)
    (decided : decideReply registry now saga stepName success resultData errorMessage = .ok work) :
    TextTells (noted ∨ (!success && containsMarker errorMessage) = true) work.1 := by
  obtain ⟨started, _, shape⟩ := decide_reply_shape decided
  have before := tells.started started
  cases success with
  | true =>
    rcases shape with same | completed
    · refine ⟨fun _ => by simpa using before, ?_⟩
      intro compensating
      rw [same] at compensating
      cases compensating
    · exact finished_tells (by simp [completed]) (by simp [completed])
  | false =>
    obtain ⟨text, compensating | failed⟩ := shape
    · refine ⟨?_, ?_⟩
      · intro startedAfter
        rw [compensating] at startedAfter
        cases startedAfter
      · intro _
        rw [text]
        simp [before]
    · exact finished_tells (by simp [failed]) (by simp [failed])

theorem decide_compensation_reply_tells (tells : TextTells noted saga)
    (decided : decideCompensationReply registry now saga stepName success errorMessage = .ok work) :
    TextTells noted work.1 := by
  obtain ⟨compensating, _, ⟨text, same⟩ | failed⟩ := decide_compensation_reply_shape decided
  · refine ⟨?_, ?_⟩
    · intro startedAfter
      rw [same] at startedAfter
      cases startedAfter
    · intro _
      rw [text]
      exact tells.compensating compensating
  · exact finished_tells (by simp [failed]) (by simp [failed])

/-- A stale compensation is re-emitted when there is a command and no marker, and fails
otherwise. -/
inductive StaleOutcome (registry : SagaRegistry Context Payload Result)
    (saga : SagaInstance Context) (work : SagaWork Context Payload) : Prop where
  | reemitted (command : OutboxEntry Payload)
      (pending : pendingCommand registry saga = some command)
      (unmarked : containsMarker saga.errorDetail = false)
      (status : work.1.status = .compensating)
      (marked : containsMarker work.1.errorDetail = true)
      (added : work.2 = [command])
  | failed (reason : pendingCommand registry saga = none ∨
        containsMarker saga.errorDetail = true)
      (status : work.1.status = .failed)

theorem stale_compensation_outcome
    (registered : getDefinition registry saga.sagaType = .ok definition)
    (compensating : saga.status = .compensating)
    (returned : handleStaleCompensation definition now maxAge saga = .ok work) :
    StaleOutcome registry saga work := by
  unfold handleStaleCompensation at returned
  obtain ⟨pending, searched, returned⟩ := bind_eq_ok.mp returned
  cases pending with
  | none =>
    cases returned
    refine .failed (Or.inl ?_) rfl
    unfold pendingCommand
    rw [registered]
    dsimp only
    rw [searched]
  | some pending =>
    obtain ⟨_, _, _⟩ := pending
    dsimp only at returned
    split at returned
    · next marked =>
      cases returned
      exact .failed (Or.inr marked) rfl
    · next unmarked =>
      cases returned
      refine .reemitted _ ?_ (Bool.eq_false_iff.mpr unmarked) compensating ?_ rfl
      · unfold pendingCommand
        rw [registered]
        dsimp only
        rw [searched]
      · dsimp only
        rw [String.append_assoc]
        exact contains_marker_join saga.errorDetail _

theorem stale_decision {cutoff : Instant} {decision : Option (SagaWork Context Payload)}
    (stale : staleAt cutoff saga = true)
    (decided : decideTimeout registry now maxAge cutoff saga = .ok decision) :
    ∃ work, decision = some work ∧ (saga.status = .started → work.1.status ≠ .started ∧
        (work.1.status = .compensating → containsMarker work.1.errorDetail = false)) ∧
      (saga.status = .compensating → StaleOutcome registry saga work) := by
  obtain ⟨active, old⟩ := stale_at_is_stale stale
  unfold decideTimeout at decided
  rw [active, old, Bool.and_self, if_pos rfl] at decided
  obtain ⟨_, registered, decided⟩ := bind_eq_ok.mp decided
  dsimp only at decided
  split at decided
  · next compensating =>
    obtain ⟨_, returned, decided⟩ := bind_eq_ok.mp decided
    cases decided
    refine ⟨_, rfl, ?_, ?_⟩
    · intro started
      rw [compensating] at started
      cases started
    · intro _
      cases stale_compensation_outcome registered compensating returned with
      | reemitted command pending unmarked status marked added =>
        exact .reemitted command pending unmarked status marked added
      | failed reason status => exact .failed reason status
  · next notCompensating =>
    obtain ⟨_, returned, decided⟩ := bind_eq_ok.mp decided
    cases decided
    refine ⟨_, rfl, ?_, fun compensating => absurd compensating notCompensating⟩
    intro _
    dsimp only
    unfold handleStaleExecution at returned
    obtain ⟨found, _, returned⟩ := bind_eq_ok.mp returned
    cases found with
    | true =>
      obtain ⟨_, text, status⟩ := begin_compensation_shape returned
      rw [text]
      refine ⟨?_, fun _ => timed_out_no_marker maxAge⟩
      rcases status with compensating | failed
      · simp [compensating]
      · simp [failed]
    | false =>
      cases returned
      exact ⟨by simp, by simp⟩

structure Remembered (history : History Context Payload) : Prop where
  distinct : DistinctKeys SagaInstance.id history.db.sagas
  known : ∀ sagaId, Noted history sagaId → (getById history.db sagaId).isSome
  tells : ∀ sagaId saga, getById history.db sagaId = some saga →
    TextTells (Noted history sagaId) saga

theorem empty_remembered : Remembered (History.empty : History Context Payload) := by
  refine ⟨nodup_nil, ?_, ?_⟩
  · intro _ noted
    rcases noted with quoting | ⟨detection, member, _⟩
    · exact absurd quoting not_mem_nil
    · exact absurd member not_mem_nil
  · intro _ _ found
    cases found

theorem observe_noted {sagaId : String} : Noted (observe registry history call) sagaId ↔
      Noted history sagaId ∨ sagaId ∈ quotes registry history.db call ∨
        ∃ detection ∈ detections registry history.db call, detection.1 = sagaId := by
  unfold Noted observe
  simp only [mem_append, or_and_right, exists_or]
  constructor
  · rintro ((old | quoted) | (detected | found))
    · exact Or.inl (Or.inl old)
    · exact Or.inr (Or.inl quoted)
    · exact Or.inl (Or.inr detected)
    · exact Or.inr (Or.inr found)
  · rintro ((old | detected) | (quoted | found))
    · exact Or.inl (Or.inl old)
    · exact Or.inr (Or.inl detected)
    · exact Or.inl (Or.inr quoted)
    · exact Or.inr (Or.inr found)

theorem store_work_get (own : work.1.id = saga.id) (found : getById db saga.id = some saga)
    (other : String) :
    getById (storeWork db work) other =
      if other = saga.id then some (writeColumns saga work.1) else getById db other := by
  rw [store_work_lookup db own]
  split
  · next same =>
    subst same
    rw [found]
    rfl
  · rfl

theorem write_columns_tells {stored : SagaInstance Context} (tells : TextTells noted saga) :
    TextTells noted (writeColumns stored saga) :=
  ⟨tells.started, tells.compensating⟩

theorem reply_remembered (remembered : Remembered history) (own : work.1.id = saga.id)
    (found : getById history.db saga.id = some saga)
    (stored : runCall registry history.db call = storeWork history.db work)
    (undetected : detections registry history.db call = [])
    (quoted : ∀ sagaId ∈ quotes registry history.db call, sagaId = saga.id)
    (tells : TextTells (Noted history saga.id ∨ saga.id ∈ quotes registry history.db call) work.1) :
    Remembered (observe registry history call) := by
  have noted (sagaId : String) : Noted (observe registry history call) sagaId ↔
      Noted history sagaId ∨ sagaId ∈ quotes registry history.db call := by
    rw [observe_noted, undetected]
    simp
  have db : (observe registry history call).db = storeWork history.db work := stored
  refine ⟨?_, ?_, ?_⟩
  · rw [db]
    exact store_work_distinct work remembered.distinct
  · intro sagaId isNoted
    rw [db, store_work_get own found]
    split
    · rfl
    · next other =>
      rcases (noted sagaId).mp isNoted with old | new
      · exact remembered.known sagaId old
      · exact absurd (quoted sagaId new) other
  · intro sagaId row foundRow
    rw [db, store_work_get own found] at foundRow
    split at foundRow
    · next same =>
      subst same
      cases foundRow
      exact write_columns_tells (text_tells_congr (noted saga.id).symm tells)
    · next other =>
      apply text_tells_congr _ (remembered.tells sagaId row foundRow)
      rw [noted]
      constructor
      · exact Or.inl
      · rintro (old | new)
        · exact old
        · exact absurd (quoted sagaId new) other

theorem raised_remembered (remembered : Remembered history)
    (same : runCall registry history.db call = history.db)
    (undetected : detections registry history.db call = [])
    (unquoted : quotes registry history.db call = []) :
    Remembered (observe registry history call) := by
  have equal : observe registry history call = history := by
    unfold observe
    rw [same, undetected, unquoted, append_nil, append_nil]
  rw [equal]
  exact remembered

theorem handle_reply_remembered (registry : SagaRegistry Context Payload Result)
    (remembered : Remembered history) (now : Instant) (sagaId stepName : String) (success : Bool)
    (resultData : Option Result) (errorMessage : Option String) :
    Remembered (observe registry history
      (.handleReply now sagaId stepName success resultData errorMessage)) := by
  cases outcome : handleReply registry history.db now sagaId stepName success resultData
      errorMessage with
  | error =>
    apply raised_remembered remembered
    · simp only [runCall, outcome, stateAfter]
    · rfl
    · simp only [quotes, outcome]
  | ok =>
    have returned := outcome
    obtain ⟨saga, _, rfl, found, decided, stored⟩ := reply_ok returned
    cases stored
    have quoted : quotes registry history.db
        (.handleReply now saga.id stepName success resultData errorMessage) =
          if !success && containsMarker errorMessage then [saga.id] else [] := by
      simp only [quotes, outcome]
    apply reply_remembered remembered (decide_reply_shape decided).2.1 found
    · simp only [runCall, outcome, stateAfter]
    · rfl
    · intro _ member
      rw [quoted] at member
      split at member
      · exact mem_singleton.mp member
      · exact absurd member not_mem_nil
    · apply text_tells_congr _ (decide_reply_tells (remembered.tells _ _ found) decided)
      rw [quoted]
      split
      · next quoting => simp [quoting]
      · next silent => simp [silent]

theorem handle_compensation_reply_remembered (registry : SagaRegistry Context Payload Result)
    (remembered : Remembered history) (now : Instant) (sagaId stepName : String) (success : Bool)
    (errorMessage : Option String) :
    Remembered (observe registry history
      (.handleCompensationReply now sagaId stepName success errorMessage)) := by
  cases outcome : handleCompensationReply registry history.db now sagaId stepName success
      errorMessage with
  | error =>
    apply raised_remembered remembered
    · simp only [runCall, outcome, stateAfter]
    · rfl
    · rfl
  | ok =>
    have returned := outcome
    obtain ⟨_, _, rfl, found, decided, stored⟩ := reply_ok returned
    cases stored
    apply reply_remembered remembered (decide_compensation_reply_shape decided).2.1 found
    · simp only [runCall, outcome, stateAfter]
    · rfl
    · intro _ member
      exact absurd member not_mem_nil
    · apply text_tells_congr _
        (decide_compensation_reply_tells (remembered.tells _ _ found) decided)
      constructor
      · exact Or.inl
      · rintro (old | quoted)
        · exact old
        · exact absurd quoted not_mem_nil

theorem start_saga_remembered (registry : SagaRegistry Context Payload Result)
    (remembered : Remembered history) (now : Instant) (sagaType : String) (context : Context)
    (correlationId : Option String) (generatedId : String) :
    Remembered (observe registry history
      (.startSaga now sagaType context correlationId generatedId)) := by
  cases outcome : startSaga registry history.db now sagaType context correlationId
      generatedId with
  | error =>
    apply raised_remembered remembered
    · simp only [runCall, outcome, stateAfter]
    · rfl
    · rfl
  | ok result =>
    obtain ⟨next, _⟩ := result
    have db : (observe registry history
        (.startSaga now sagaType context correlationId generatedId)).db = next := by
      simp only [observe, runCall, outcome, stateAfter]
    have noted (sagaId : String) : Noted (observe registry history
        (.startSaga now sagaType context correlationId generatedId)) sagaId ↔
          Noted history sagaId := by
      rw [observe_noted]
      simp [quotes, detections]
    generalize observe registry history
      (.startSaga now sagaType context correlationId generatedId) = after at db noted ⊢
    have inserts := start_saga_inserts outcome
    cases inserts with
    | @inserted definition saga command registered absent fresh given published =>
      have lookups (sagaId : String) : getById after.db sagaId =
          if sagaId = saga.id then some saga else getById history.db sagaId := by
        rw [db]
        exact lookup_append absent
      have unknown : ¬ Noted history saga.id := by
        intro isNoted
        obtain ⟨stored, found⟩ := Option.isSome_iff_exists.mp
          (remembered.known saga.id isNoted)
        exact absent stored (lookup_mem found).1 (lookup_mem found).2
      refine ⟨?_, ?_, ?_⟩
      · rw [db]
        exact append_distinct remembered.distinct absent
      · intro sagaId isNoted
        rw [lookups]
        split
        · rfl
        · exact remembered.known sagaId ((noted sagaId).mp isNoted)
      · intro sagaId row found
        rw [lookups] at found
        apply text_tells_congr (noted sagaId).symm
        split at found
        · next same =>
          cases found
          rw [same]
          refine ⟨fun _ => unknown, ?_⟩
          intro compensating
          rw [fresh.status] at compensating
          cases compensating
        · exact remembered.tells sagaId row found

theorem mem_stale_compensations {cutoff : Instant} : saga ∈ staleCompensations db cutoff ↔
      saga ∈ db.sagas ∧ saga.status = .compensating ∧ staleAt cutoff saga = true := by
  unfold staleCompensations isCompensating
  simp only [mem_filter, Bool.and_eq_true, decide_eq_true_eq]

theorem sweep_rows (distinct : DistinctKeys SagaInstance.id db.sagas)
    (returned : checkTimeouts registry db now maxAge = .ok (next, handled)) :
    (∀ saga ∈ db.sagas, staleAt (cutoffOf now maxAge) saga = true →
      ∃ work, decideTimeout registry now maxAge (cutoffOf now maxAge) saga = .ok (some work) ∧
        getById next saga.id = some (writeColumns saga work.1) ∧
        committedFor db next saga.id = work.2) ∧
      ∀ sagaId, sagaId ∉ findStaleIds db (cutoffOf now maxAge) →
        getById next sagaId = getById db sagaId := by
  obtain ⟨_, swept⟩ := check_candidates_swept registry now maxAge _ _
    (find_stale_ids_nodup distinct) returned
  refine ⟨?_, fun sagaId outside => (swept.others sagaId outside).1⟩
  intro saga member stale
  obtain ⟨_, decided, row, rows⟩ := swept.each saga.id
    (mem_find_stale_ids.mpr ⟨saga, member, stale, rfl⟩) saga (get_by_id_of_mem distinct member)
  obtain ⟨work, rfl, _⟩ := stale_decision stale decided
  refine ⟨work, decided, row, ?_⟩
  unfold committedFor
  rw [swept.outbox, drop_left]
  exact rows

theorem sweep_distinct (distinct : DistinctKeys SagaInstance.id db.sagas)
    (returned : checkTimeouts registry db now maxAge = .ok (next, handled)) :
    DistinctKeys SagaInstance.id next.sagas :=
  @check_candidates_rule _ _ _ registry now maxAge
    (fun current => DistinctKeys SagaInstance.id current.sagas)
    (fun _ _ work kept _ _ => store_work_distinct work kept) _ _ _ distinct returned

theorem check_timeouts_remembered (registry : SagaRegistry Context Payload Result)
    (remembered : Remembered history) (now : Instant) (maxAge : Int) :
    Remembered (observe registry history (.checkTimeouts now maxAge)) := by
  cases outcome : checkTimeouts registry history.db now maxAge with
  | error =>
    apply raised_remembered remembered
    · simp only [runCall, outcome, stateAfter]
    · simp only [detections, outcome]
    · rfl
  | ok result =>
    obtain ⟨next, _⟩ := result
    obtain ⟨stales, others⟩ := sweep_rows remembered.distinct outcome
    have db : (observe registry history (.checkTimeouts now maxAge)).db = next := by
      simp only [observe, runCall, outcome, stateAfter]
    have noted (sagaId : String) :
        Noted (observe registry history (.checkTimeouts now maxAge)) sagaId ↔ Noted history sagaId ∨
            ∃ saga ∈ staleCompensations history.db (cutoffOf now maxAge), saga.id = sagaId := by
      rw [observe_noted]
      simp [quotes, detections, outcome]
    generalize observe registry history (.checkTimeouts now maxAge) = after at db noted ⊢
    have staleKnown (sagaId : String)
        (candidate : sagaId ∈ findStaleIds history.db (cutoffOf now maxAge)) :
        ∃ saga work, getById history.db sagaId = some saga ∧
          staleAt (cutoffOf now maxAge) saga = true ∧
          decideTimeout registry now maxAge (cutoffOf now maxAge) saga = .ok (some work) ∧
          getById next sagaId = some (writeColumns saga work.1) := by
      obtain ⟨saga, member, stale, rfl⟩ := mem_find_stale_ids.mp candidate
      obtain ⟨work, decided, row, _⟩ := stales saga member stale
      exact ⟨saga, work, get_by_id_of_mem remembered.distinct member, stale, decided, row⟩
    refine ⟨?_, ?_, ?_⟩
    · rw [db]
      exact sweep_distinct remembered.distinct outcome
    · intro sagaId isNoted
      rw [db]
      by_cases candidate : sagaId ∈ findStaleIds history.db (cutoffOf now maxAge)
      · obtain ⟨_, _, _, _, _, row⟩ := staleKnown sagaId candidate
        rw [row]
        rfl
      · rw [others sagaId candidate]
        rcases (noted sagaId).mp isNoted with old | ⟨saga, detected, rfl⟩
        · exact remembered.known sagaId old
        · obtain ⟨member, _, stale⟩ := mem_stale_compensations.mp detected
          exact absurd (mem_find_stale_ids.mpr ⟨saga, member, stale, rfl⟩) candidate
    · intro sagaId row found
      rw [db] at found
      apply text_tells_congr (noted sagaId).symm
      by_cases candidate : sagaId ∈ findStaleIds history.db (cutoffOf now maxAge)
      · obtain ⟨saga, _, foundBefore, stale, decided, rowAfter⟩ := staleKnown sagaId candidate
        rw [rowAfter] at found
        cases found
        apply write_columns_tells
        have before := remembered.tells sagaId saga foundBefore
        obtain ⟨_, same, execution, compensation⟩ := stale_decision stale decided
        cases same
        obtain ⟨member, sameId⟩ := lookup_mem foundBefore
        rcases (is_active_iff saga).mp (stale_at_is_stale stale).1 with started | compensating
        · obtain ⟨notStarted, unmarked⟩ := execution started
          refine ⟨fun startedAfter => absurd startedAfter notStarted, ?_⟩
          intro compensatingAfter
          rw [unmarked compensatingAfter]
          refine iff_of_false Bool.false_ne_true ?_
          rintro (old | ⟨other, detected, otherId⟩)
          · exact before.started started old
          · obtain ⟨otherMember, status, _⟩ := mem_stale_compensations.mp detected
            have same := (lookup_iff remembered.distinct).mpr ⟨otherMember, otherId⟩
            change getById history.db sagaId = some other at same
            rw [foundBefore] at same
            cases same
            rw [started] at status
            cases status
        · cases compensation compensating with
          | reemitted command pending unmarked status marked =>
            refine ⟨?_, ?_⟩
            · intro startedAfter
              rw [status] at startedAfter
              cases startedAfter
            · intro _
              refine iff_of_true marked (Or.inr ⟨saga, ?_, sameId⟩)
              exact mem_stale_compensations.mpr ⟨member, compensating, stale⟩
          | failed reason status =>
            exact finished_tells (by simp [status]) (by simp [status])
      · rw [others sagaId candidate] at found
        apply text_tells_congr _ (remembered.tells sagaId row found)
        constructor
        · exact Or.inl
        · rintro (old | ⟨saga, detected, rfl⟩)
          · exact old
          · obtain ⟨member, _, stale⟩ := mem_stale_compensations.mp detected
            exact absurd (mem_find_stale_ids.mpr ⟨saga, member, stale, rfl⟩) candidate

theorem observe_remembered (registry : SagaRegistry Context Payload Result)
    (history : History Context Payload) (call : Call Context Result)
    (remembered : Remembered history) : Remembered (observe registry history call) := by
  cases call with
  | startSaga now sagaType context correlationId generatedId =>
    exact start_saga_remembered registry remembered now sagaType context correlationId
      generatedId
  | handleReply now sagaId stepName success resultData errorMessage =>
    exact handle_reply_remembered registry remembered now sagaId stepName success resultData
      errorMessage
  | handleCompensationReply now sagaId stepName success errorMessage =>
    exact handle_compensation_reply_remembered registry remembered now sagaId stepName success
      errorMessage
  | checkTimeouts now maxAge => exact check_timeouts_remembered registry remembered now maxAge

theorem status_after_returned
    (returned : checkTimeouts registry db now maxAge = .ok (next, handled)) :
    runCall registry db (.checkTimeouts now maxAge) = next := by
  simp only [runCall, returned, stateAfter]

/-- What a detection comes to in a sweep that returns. -/
theorem detected_compensation (distinct : DistinctKeys SagaInstance.id db.sagas)
    (returned : checkTimeouts registry db now maxAge = .ok (next, handled))
    (detected : saga ∈ staleCompensations db (cutoffOf now maxAge)) :
    ∃ work, StaleOutcome registry saga work ∧
      statusAfter registry db (.checkTimeouts now maxAge) saga.id = some work.1.status ∧
      committedFor db (runCall registry db (.checkTimeouts now maxAge)) saga.id = work.2 := by
  obtain ⟨member, compensating, stale⟩ := mem_stale_compensations.mp detected
  obtain ⟨work, decided, row, rows⟩ := (sweep_rows distinct returned).1 saga member stale
  obtain ⟨_, same, _, outcome⟩ := stale_decision stale decided
  cases same
  refine ⟨work, outcome compensating, ?_, ?_⟩
  · unfold statusAfter
    rw [status_after_returned returned, row]
    rfl
  · rw [status_after_returned returned]
    exact rows

theorem raised_commits_nothing (raises : ¬ Returns (checkTimeouts registry db now maxAge)) :
    runCall registry db (.checkTimeouts now maxAge) = db := by
  cases outcome : checkTimeouts registry db now maxAge with
  | error => simp only [runCall, outcome, stateAfter]
  | ok result => exact absurd ⟨result, outcome⟩ raises

theorem sweep_reemits_iff (remembered : Remembered history) (now : Instant) (maxAge : Int) :
    ReemitsOnce registry history (.checkTimeouts now maxAge) ↔
      Unmarked registry history (.checkTimeouts now maxAge) := by
  have tells (saga : SagaInstance Context)
      (detected : saga ∈ staleCompensations history.db (cutoffOf now maxAge)) :
      containsMarker saga.errorDetail = true ↔ Noted history saga.id := by
    obtain ⟨member, compensating, _⟩ := mem_stale_compensations.mp detected
    exact (remembered.tells saga.id saga
      (get_by_id_of_mem remembered.distinct member)).compensating compensating
  constructor
  · intro reemits saga detected hasCommand first
    obtain ⟨command, pending⟩ := Option.isSome_iff_exists.mp hasCommand
    obtain ⟨status, rows⟩ := (reemits saga detected).1 command pending first
    have returns : Returns (checkTimeouts registry history.db now maxAge) := by
      by_contra raises
      rw [raised_commits_nothing raises] at rows
      unfold committedFor rowsFor at rows
      rw [drop_length] at rows
      cases rows
    refine ⟨?_, (check_timeouts_return registry history.db now maxAge
      remembered.distinct).mp returns⟩
    intro noted
    obtain ⟨⟨_, _⟩, returned⟩ := returns
    obtain ⟨_, outcome, statusWork, _⟩ := detected_compensation remembered.distinct returned detected
    have marked := (tells saga detected).mpr noted
    cases outcome with
    | reemitted command pending unmarked =>
      rw [marked] at unmarked
      cases unmarked
    | failed reason failed =>
      rw [statusWork, failed] at status
      cases status
  · intro unmarked saga detected
    have first (command : OutboxEntry Payload)
        (pending : pendingCommand registry saga = some command)
        (fresh : (saga.id, saga.currentStep) ∉ history.detected) :
        statusAfter registry history.db (.checkTimeouts now maxAge) saga.id = some .compensating ∧
          committedFor history.db (runCall registry history.db (.checkTimeouts now maxAge))
            saga.id = [command] := by
      obtain ⟨unnoted, canHandle⟩ := unmarked saga detected (by rw [pending]; rfl) fresh
      obtain ⟨⟨_, _⟩, returned⟩ := (check_timeouts_return registry history.db now maxAge
        remembered.distinct).mpr canHandle
      obtain ⟨_, outcome, status, rows⟩ :=
        detected_compensation remembered.distinct returned detected
      cases outcome with
      | reemitted other otherPending _ compensating _ added =>
        rw [pending] at otherPending
        cases otherPending
        rw [status, rows, compensating, added]
        exact ⟨rfl, rfl⟩
      | failed reason =>
        rcases reason with none | marked
        · rw [pending] at none
          cases none
        · exact absurd ((tells saga detected).mp marked) unnoted
    refine ⟨first, ?_⟩
    intro failed
    by_contra neither
    obtain ⟨fresh, hasCommand⟩ := not_or.mp neither
    obtain ⟨command, pending⟩ := Option.ne_none_iff_exists'.mp hasCommand
    rw [(first command pending fresh).1] at failed
    cases failed

/-- Every sweep of a run re-emits each stale compensation once, exactly when no sweep
finds a compensation stale for the first time with the marker already noted. -/
theorem reemits_once_iff (registry : SagaRegistry Context Payload Result)
    (calls : List (Call Context Result)) :
    AllSteps (observe registry) (ReemitsOnce registry) History.empty calls ↔
      AllSteps (observe registry) (Unmarked registry) History.empty calls := by
  have same (history : History Context Payload) (call : Call Context Result)
      (remembered : Remembered history) :
      ReemitsOnce registry history call ↔ Unmarked registry history call := by
    cases call with
    | checkTimeouts now maxAge => exact sweep_reemits_iff remembered now maxAge
    | startSaga | handleReply | handleCompensationReply => exact Iff.rfl
  constructor
  · exact all_steps_imp (observe registry) (observe_remembered registry)
      (fun history call remembered => (same history call remembered).mp) empty_remembered
  · exact all_steps_imp (observe registry) (observe_remembered registry)
      (fun history call remembered => (same history call remembered).mpr) empty_remembered

section Noted

open Shared.SagaMessages BankSync

def bookingDefinition : SagaDefinition Unit String Unit where
  sagaType := "booking"
  steps :=
    [ { name := "reserve", commandEventType := "reserve", compensateEventType := some "release" },
      { name := "charge", commandEventType := "charge", compensateEventType := some "refund" },
      { name := "confirm", commandEventType := "confirm" } ]
  buildCommand := fun _ _ => .ok ""
  buildCompensateCommand := fun _ _ => .ok (some "")
  onReply := fun _ context _ => .ok context

/-- The refund is re-emitted and succeeds; then the release is found stale. -/
def bookingRun : List (Call Unit Unit) :=
  [ .startSaga 0 "booking" () (some "a") "",
    .handleReply 0 "a" "reserve" true none none,
    .handleReply 0 "a" "charge" true none none,
    .handleReply 0 "a" "confirm" false none (some "sold out"),
    .checkTimeouts 900000000 900,
    .handleCompensationReply 900000000 "a" "charge" true none,
    .checkTimeouts 1800000000 900 ]

/-- The report of the last step quotes the marker; then the rollback is found stale. -/
def quotingRun : List (Call BankSyncContext ResultData) :=
  [ .startSaga 0 "bank_sync"
      (startContext { connectionId := "c", userId := 1, accountId := 1, accountName := "n",
                      bankAccountUid := "u" }) (some "a") "",
    .handleReply 0 "a" "fetch_transactions" true (some {}) none,
    .handleReply 0 "a" "import_transactions" true (some { importedIds := some [1] }) none,
    .handleReply 0 "a" "mark_sync_complete" false none
      (some "saga b: compensation command re-emitted"),
    .checkTimeouts 900000000 900 ]

theorem first_detection_fails : ¬ AllSteps (observe (SagaRegistry.register [] bookingDefinition))
        (ReemitsOnce (SagaRegistry.register [] bookingDefinition)) History.empty bookingRun ∧
      ¬ AllSteps (observe sagaRegistry) (ReemitsOnce sagaRegistry) History.empty quotingRun := by
  decide +kernel

end Noted

end FinanceTracker.Saga.Reemission
