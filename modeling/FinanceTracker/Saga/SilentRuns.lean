import FinanceTracker.Saga.Reemission

/-!
# Silence ends a saga

How far a saga is from its end when nobody answers any more: a sweep that finds it stale
takes it from STARTED to a compensation, from there to the re-emitted command and from
there to FAILED, or ends it earlier. Replies to other sagas, new sagas and sweeps that do
not find it stale leave it where it is.
-/

namespace FinanceTracker.Saga.SilentRuns

open Library KeyedRows Runs Domain Orchestrator Invariant TimeoutSweep Reemission

variable {Context Payload Result : Type}

/-- The sweeps that a saga can still take. -/
def distance (saga : SagaInstance Context) : Nat :=
  match saga.status with
  | .started => 3
  | .compensating => if containsMarker saga.errorDetail then 1 else 2
  | _ => 0

variable {saga : SagaInstance Context} {registry : SagaRegistry Context Payload Result}
  {db : SagaDb Context Payload} {sagaId : String}

theorem distance_zero_iff : distance saga = 0 ↔ saga.isActive = false := by
  unfold distance SagaInstance.isActive
  cases saga.status with
  | compensating =>
    simp only [reduceCtorEq, decide_false, decide_true, Bool.or_true, iff_false, Bool.true_eq_false]
    split
    · decide
    · decide
  | _ => simp

theorem distance_le (saga : SagaInstance Context) : distance saga ≤ 3 := by
  unfold distance
  split
  · exact Nat.le_refl 3
  · split
    · decide
    · decide
  · decide

/-- A sweep leaves every saga it finds stale terminal or closer to its end. -/
def BringsCloser (registry : SagaRegistry Context Payload Result) (db : SagaDb Context Payload) :
    Call Context Result → Prop
  | .checkTimeouts now maxAge =>
    ∀ saga ∈ db.sagas, staleAt (cutoffOf now maxAge) saga = true →
      ∃ after, getById (runCall registry db (.checkTimeouts now maxAge)) saga.id = some after ∧
        (after.isActive = false ∨ distance after < distance saga)
  | _ => True

/-- A sweep can handle every saga it finds stale. -/
def Handles (registry : SagaRegistry Context Payload Result) (db : SagaDb Context Payload) :
    Call Context Result → Prop
  | .checkTimeouts now maxAge =>
    ∀ saga ∈ db.sagas, staleAt (cutoffOf now maxAge) saga = true → handleable registry saga = true
  | _ => True

def repliesTo (sagaId : String) : Call Context Result → Bool
  | .handleReply _ replied _ _ _ _ => replied = sagaId
  | .handleCompensationReply _ replied _ _ _ => replied = sagaId
  | _ => false

def findsStale (db : SagaDb Context Payload) (sagaId : String) : Call Context Result → Bool
  | .checkTimeouts now maxAge => (getById db sagaId).any (staleAt (cutoffOf now maxAge))
  | _ => false

def staleSweeps (registry : SagaRegistry Context Payload Result) (sagaId : String) :
    SagaDb Context Payload → List (Call Context Result) → Nat
  | _, [] => 0
  | db, call :: calls =>
    (findsStale db sagaId call).toNat + staleSweeps registry sagaId (runCall registry db call) calls

/-- The loop of a sweep over the ids of its scan, on the rows as they are when they are
locked. -/
def lockCandidates (registry : SagaRegistry Context Payload Result) (now : Instant) (maxAge : Int)
    (scanned : List String) (db : SagaDb Context Payload) :
    Except SagaError (SagaDb Context Payload × List (SagaInstance Context)) :=
  scanned.foldlM (checkCandidate registry now maxAge (cutoffOf now maxAge)) (db, [])

/-- A sweep that scanned one database and locks the rows of another leaves a saga that is not
stale any more as it is, and adds no command for it. -/
def LeavesRefreshed (registry : SagaRegistry Context Payload Result)
    (scannedDb db : SagaDb Context Payload) : Prop :=
  ∀ (now : Instant) (maxAge : Int), ∀ saga ∈ db.sagas,
    (saga.isActive && isStale saga (cutoffOf now maxAge)) = false →
      let after := stateAfter db
        (lockCandidates registry now maxAge (findStaleIds scannedDb (cutoffOf now maxAge)) db)
      getById after saga.id = some saga ∧ committedFor db after saga.id = []

structure SilenceEnds (registry : SagaRegistry Context Payload Result)
    (calls : List (Call Context Result)) : Prop where
  closer : AllSteps (runCall registry) (BringsCloser registry) SagaDb.empty calls
  ends : ∀ before silent, calls = before ++ silent → ∀ saga ∈ (runCalls registry before).sagas,
    (∀ call ∈ silent, repliesTo saga.id call = false) →
      3 ≤ staleSweeps registry saga.id (runCalls registry before) silent →
        ∃ after, getById (runCalls registry calls) saga.id = some after ∧ after.isActive = false
  refreshed : ∀ before racing, calls = before ++ racing →
    LeavesRefreshed registry (runCalls registry before) (runCalls registry calls)

theorem stale_comes_closer {now : Instant} {maxAge : Int} {cutoff : Instant}
    {work : SagaWork Context Payload} (stale : staleAt cutoff saga = true)
    (decided : decideTimeout registry now maxAge cutoff saga = .ok (some work)) :
    distance (writeColumns saga work.1) < distance saga := by
  obtain ⟨_, same, fromStarted, fromCompensating⟩ := stale_decision stale decided
  cases same
  have written : distance (writeColumns saga work.1) = distance work.1 := rfl
  rw [written]
  rcases (is_active_iff saga).mp (stale_at_is_stale stale).1 with started | compensating
  · obtain ⟨notStarted, _⟩ := fromStarted started
    have before : distance saga = 3 := by
      unfold distance
      rw [started]
    rw [before]
    unfold distance
    cases after : work.1.status with
    | started => exact absurd after notStarted
    | compensating =>
      dsimp only
      split
      · decide
      · decide
    | _ => exact Nat.zero_lt_succ 2
  · have before : distance saga = if containsMarker saga.errorDetail then 1 else 2 := by
      unfold distance
      rw [compensating]
    cases fromCompensating compensating with
    | reemitted command pending unmarked status marked =>
      have after : distance work.1 = 1 := by
        unfold distance
        rw [status]
        exact if_pos marked
      rw [before, after, unmarked]
      decide
    | failed reason status =>
      have after : distance work.1 = 0 := by
        unfold distance
        rw [status]
      rw [before, after]
      split
      · decide
      · decide

/-- A sweep brings every stale saga closer exactly when it can handle them all; else it raises
and changes nothing. -/
theorem brings_closer_iff (distinct : DistinctKeys SagaInstance.id db.sagas)
    (call : Call Context Result) : BringsCloser registry db call ↔ Handles registry db call := by
  cases call with
  | checkTimeouts now maxAge =>
    constructor
    · intro closer
      by_contra unhandled
      have raises : ¬Returns (checkTimeouts registry db now maxAge) := by
        rw [check_timeouts_return registry db now maxAge distinct]
        exact unhandled
      have unchanged := raised_commits_nothing raises
      apply unhandled
      intro saga member stale
      obtain ⟨_, found, nearer⟩ := closer saga member stale
      rw [unchanged, get_by_id_of_mem distinct member] at found
      cases found
      rcases nearer with ended | less
      · rw [(stale_at_is_stale stale).1] at ended
        contradiction
      · exact absurd less (Nat.lt_irrefl _)
    · intro handles saga member stale
      obtain ⟨⟨_, _⟩, returned⟩ :=
        (check_timeouts_return registry db now maxAge distinct).mpr handles
      obtain ⟨work, decided, row, _⟩ := (sweep_rows distinct returned).1 saga member stale
      rw [status_after_returned returned]
      exact ⟨writeColumns saga work.1, row, Or.inr (stale_comes_closer stale decided)⟩
  | _ => exact Iff.rfl

theorem reply_elsewhere {work : SagaWork Context Payload} (own : work.1.id = saga.id)
    (other : saga.id ≠ sagaId) : getById (storeWork db work) sagaId = getById db sagaId := by
  rw [store_work_lookup db own, if_neg (Ne.symm other)]

theorem silent_call_leaves (distinct : DistinctKeys SagaInstance.id db.sagas)
    {call : Call Context Result} (silent : repliesTo sagaId call = false)
    (unseen : findsStale db sagaId call = false) (found : getById db sagaId = some saga) :
    getById (runCall registry db call) sagaId = some saga := by
  cases call with
  | startSaga now sagaType context correlationId generatedId =>
    simp only [runCall]
    cases outcome : startSaga registry db now sagaType context correlationId generatedId with
    | error => exact found
    | ok result =>
      obtain ⟨_, _⟩ := result
      cases start_saga_inserts outcome with
      | inserted _ absent _ _ _ =>
        refine (lookup_append absent).trans ?_
        rw [if_neg (fun same => absent saga (lookup_mem found).1 ((lookup_mem found).2.trans same))]
        exact found
  | handleReply now replied stepName success resultData errorMessage =>
    have elsewhere : replied ≠ sagaId := of_decide_eq_false silent
    simp only [runCall]
    cases outcome : handleReply registry db now replied stepName success resultData errorMessage with
    | error => exact found
    | ok =>
      have returned := outcome
      obtain ⟨_, _, isOther, _, decided, stored⟩ := reply_ok returned
      cases stored
      exact (reply_elsewhere (decide_reply_shape decided).2.1 (isOther.trans_ne elsewhere)).trans found
  | handleCompensationReply now replied stepName success errorMessage =>
    have elsewhere : replied ≠ sagaId := of_decide_eq_false silent
    simp only [runCall]
    cases outcome : handleCompensationReply registry db now replied stepName success errorMessage with
    | error => exact found
    | ok =>
      have returned := outcome
      obtain ⟨_, _, isOther, _, decided, stored⟩ := reply_ok returned
      cases stored
      exact (reply_elsewhere (decide_compensation_reply_shape decided).2.1
        (isOther.trans_ne elsewhere)).trans found
  | checkTimeouts now maxAge =>
    simp only [runCall]
    cases outcome : checkTimeouts registry db now maxAge with
    | error => exact found
    | ok =>
      refine ((sweep_rows distinct outcome).2 sagaId ?_).trans found
      intro candidate
      obtain ⟨_, member, stale, rfl⟩ := mem_find_stale_ids.mp candidate
      have isSaga := (get_by_id_of_mem distinct member).symm.trans found
      cases isSaga
      simp only [findsStale, found, Option.any_some, stale, Bool.true_eq_false] at unseen

/-- What silence makes of a saga: each sweep that finds it stale costs a part of its distance. -/
theorem silent_call_closer (distinct : DistinctKeys SagaInstance.id db.sagas)
    {call : Call Context Result} (silent : repliesTo sagaId call = false)
    (closer : BringsCloser registry db call) (found : getById db sagaId = some saga) :
    ∃ after, getById (runCall registry db call) sagaId = some after ∧
      distance after + (findsStale db sagaId call).toNat ≤ distance saga := by
  cases seen : findsStale db sagaId call with
  | false => exact ⟨saga, silent_call_leaves distinct silent seen found, Nat.le_refl _⟩
  | true =>
    cases call with
    | checkTimeouts now maxAge =>
      obtain ⟨member, sameId⟩ := lookup_mem found
      have stale : staleAt (cutoffOf now maxAge) saga = true := by
        simpa only [findsStale, found, Option.any_some] using seen
      obtain ⟨after, row, nearer⟩ := closer saga member stale
      rw [sameId] at row
      refine ⟨after, row, ?_⟩
      have started : 0 < distance saga := by
        rw [Nat.pos_iff_ne_zero, ne_eq, distance_zero_iff, (stale_at_is_stale stale).1]
        decide
      rcases nearer with ended | less
      · rw [distance_zero_iff.mpr ended]
        exact started
      · exact less
    | _ => cases seen

theorem silent_run_closer {silent : List (Call Context Result)}
    (noReply : ∀ call ∈ silent, repliesTo sagaId call = false) (invariant : DbInvariant registry db)
    (closer : AllSteps (runCall registry) (BringsCloser registry) db silent)
    (found : getById db sagaId = some saga) :
    ∃ after, getById (runFrom (runCall registry) db silent) sagaId = some after ∧
      distance after + staleSweeps registry sagaId db silent ≤ distance saga := by
  induction silent generalizing db saga with
  | nil => exact ⟨saga, found, Nat.le_refl _⟩
  | cons call silent ih =>
    obtain ⟨noReplyHere, noReplyLater⟩ := List.forall_mem_cons.mp noReply
    obtain ⟨_, foundMiddle, _⟩ :=
      silent_call_closer invariant.ids noReplyHere closer.1 found
    obtain ⟨after, foundAfter, _⟩ :=
      ih noReplyLater (run_call_keeps registry db call invariant) closer.2 foundMiddle
    refine ⟨after, foundAfter, ?_⟩
    unfold staleSweeps
    omega

/-- A row that is not stale under its lock is passed over; the other rows of the scan do not
touch it. -/
theorem leaves_refreshed (registry : SagaRegistry Context Payload Result)
    {scannedDb : SagaDb Context Payload}
    (scannedDistinct : DistinctKeys SagaInstance.id scannedDb.sagas)
    (distinct : DistinctKeys SagaInstance.id db.sagas) : LeavesRefreshed registry scannedDb db := by
  intro now maxAge saga member settled
  have found := get_by_id_of_mem distinct member
  have passed : decideTimeout registry now maxAge (cutoffOf now maxAge) saga = .ok none := by
    unfold decideTimeout
    rw [settled]
    rfl
  have noRows : committedFor db db saga.id = [] := by
    unfold committedFor rowsFor
    rw [List.drop_length]
    rfl
  intro after
  cases outcome : lockCandidates registry now maxAge
      (findStaleIds scannedDb (cutoffOf now maxAge)) db with
  | error =>
    have same : after = db := by
      simp only [after, outcome, stateAfter]
    rw [same]
    exact ⟨found, noRows⟩
  | ok result =>
    have same : after = result.1 := by
      simp only [after, outcome, stateAfter]
    rw [same]
    obtain ⟨added, swept⟩ := check_candidates_swept registry now maxAge _ _
      (find_stale_ids_nodup scannedDistinct) outcome
    have rows : committedFor db result.1 saga.id = rowsFor saga.id added := by
      unfold committedFor
      rw [swept.outbox, List.drop_left]
    rw [rows]
    by_cases candidate : saga.id ∈ findStaleIds scannedDb (cutoffOf now maxAge)
    · obtain ⟨_, decided, row, issuedRows⟩ := swept.each saga.id candidate saga found
      rw [passed] at decided
      cases decided
      exact ⟨row, issuedRows⟩
    · obtain ⟨row, none⟩ := swept.others saga.id candidate
      exact ⟨row.trans found, none⟩

/-- Silence ends the sagas of a run exactly when every sweep can handle what it finds stale. -/
theorem silence_ends_iff (registry : SagaRegistry Context Payload Result)
    (calls : List (Call Context Result)) :
    SilenceEnds registry calls ↔
      AllSteps (runCall registry) (Handles registry) SagaDb.empty calls := by
  have closerIff (db : SagaDb Context Payload) (call : Call Context Result)
      (invariant : DbInvariant registry db) :
      BringsCloser registry db call ↔ Handles registry db call :=
    brings_closer_iff invariant.ids call
  constructor
  · intro silence
    exact all_steps_imp (runCall registry) (run_call_keeps registry)
      (fun db call invariant => (closerIff db call invariant).mp) (empty_invariant registry)
      silence.closer
  · intro handles
    have closer : AllSteps (runCall registry) (BringsCloser registry) SagaDb.empty calls :=
      all_steps_imp (runCall registry) (run_call_keeps registry)
        (fun db call invariant => (closerIff db call invariant).mpr) (empty_invariant registry)
        handles
    refine ⟨closer, ?_, ?_⟩
    · rintro before silent rfl saga member noReply three
      have invariant := run_calls_invariant registry before
      have later := (all_steps_append (runCall registry)).mp closer
      obtain ⟨after, found, near⟩ := silent_run_closer noReply invariant later.2
        (get_by_id_of_mem invariant.ids member)
      refine ⟨after, ?_, distance_zero_iff.mp ?_⟩
      · unfold runCalls
        rw [run_from_append]
        exact found
      · have bound := distance_le saga
        change distance after + staleSweeps registry saga.id (runCalls registry before) silent ≤ _ at near
        omega
    · rintro before racing rfl
      exact leaves_refreshed registry (run_calls_invariant registry before).ids
        (run_calls_invariant registry (before ++ racing)).ids

section RaisingHook

/-- The compensation reads a key that the context does not have. -/
def ticketDefinition : SagaDefinition Unit String Unit where
  sagaType := "ticket"
  steps :=
    [ { name := "reserve", commandEventType := "reserve", compensateEventType := some "release" },
      { name := "charge", commandEventType := "charge" } ]
  buildCommand := fun _ _ => .ok ""
  buildCompensateCommand := fun _ _ => .error (.other "'reservation_id'")
  onReply := fun _ context _ => .ok context

def ticketRegistry : SagaRegistry Unit String Unit := SagaRegistry.register [] ticketDefinition

def reserved : List (Call Unit Unit) :=
  [.startSaga 0 "ticket" () (some "a") "", .handleReply 0 "a" "reserve" true none none]

def threeSweeps : List (Call Unit Unit) :=
  [.checkTimeouts 900000000 900, .checkTimeouts 1800000000 900, .checkTimeouts 2700000000 900]

def reservedTicket : SagaInstance Unit where
  id := "a"
  sagaType := "ticket"
  correlationId := "a"
  currentStep := 1
  context := ()
  steps :=
    [ { index := 0, name := "reserve", status := .succeeded, commandSentAt := some 0,
        replyReceivedAt := some 0 },
      { index := 1, name := "charge", status := .executing, commandSentAt := some 0 } ]
  startedAt := some 0
  updatedAt := some 0

/-- Three sweeps find the ticket stale, and it is STARTED as before. -/
theorem raising_hook_never_ends : ¬ SilenceEnds ticketRegistry (reserved ++ threeSweeps) := by
  intro silence
  obtain ⟨_, found, ended⟩ := silence.ends reserved threeSweeps rfl reservedTicket
    (by decide +kernel) (by decide +kernel) (by decide +kernel)
  have stays : getById (runCalls ticketRegistry (reserved ++ threeSweeps)) reservedTicket.id =
      some reservedTicket := by
    decide +kernel
  rw [stays] at found
  rw [← Option.some.inj found] at ended
  exact absurd ended (by decide)

end RaisingHook

end FinanceTracker.Saga.SilentRuns
