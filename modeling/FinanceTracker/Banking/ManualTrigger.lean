import FinanceTracker.Banking.StartedSagas

/-!
# A manual request on a running saga

A manual call leaves the trigger of the claim manual, so a completion that reads
the claim afterwards stamps its event manual. One that has read the claim before
the escalation commits what it has read.
-/

namespace FinanceTracker.Banking.ManualTrigger

open Library KeyedRows Runs MarkSyncComplete StartSync SyncRuns SyncClaims StartedSagas List

def ManualReturned (system : SyncSystem) (connectionId sagaId : String) : Prop :=
  ∃ call ∈ system.calls, call.request.trigger = .manual ∧ call.request.connectionId = connectionId ∧
    ∃ alreadyRunning, call.progress = .returned sagaId alreadyRunning

/-- The completions that have read the connection will stamp the sagas of manual
calls manual. -/
def Heard (system : SyncSystem) : Prop :=
  ∀ delivery ∈ system.deliveries, ∀ commandId userId conn sagaId,
    delivery.progress = .loaded commandId userId conn → delivery.body.sagaId = some sagaId →
      ManualReturned system conn.id sagaId →
        (completedEvent delivery.body commandId userId conn).trigger = .manual

def readScheduled (connectionId sagaId : String) (delivery : Delivery) : Bool :=
  match delivery.progress with
  | .loaded commandId userId conn =>
    conn.id = connectionId && delivery.body.sagaId = some sagaId &&
      (completedEvent delivery.body commandId userId conn).trigger ≠ .manual
  | _ => false

/-- When a manual call escalates a claim, no completion has read it as scheduled. -/
def escalatesInTime (system : SyncSystem) : Label → Bool
  | .advance callId _ =>
    match findCall system callId with
    | none => true
    | some call =>
      match call.progress with
      | .deferring winnerId =>
        call.request.trigger ≠ .manual ||
          !system.deliveries.any (readScheduled call.request.connectionId winnerId)
      | _ => true
  | _ => true

abbrev EscalatesInTime (system : SyncSystem) (label : Label) : Prop :=
  escalatesInTime system label = true

theorem parse_manual : parseSyncTrigger (some SyncTrigger.manual.value) = .manual := by decide

theorem stamps_manual {body : MarkSyncCommand} {commandId : String} {userId : Int}
    {conn : BankConnection}
    (own : ∀ sagaId, body.sagaId = some sagaId → conn.syncSagaId = some sagaId →
      parseSyncTrigger conn.syncTrigger = .manual) :
    (completedEvent body commandId userId conn).trigger = .manual := by
  unfold completedEvent
  dsimp only
  cases claim : ownClaim body conn with
  | true =>
    obtain ⟨sagaId, given, claimed⟩ := own_claim_loaded claim
    exact own sagaId given claimed
  | false => rfl

structure ManualInv (system : SyncSystem) : Prop where
  sync : SyncInv system
  rows : ∀ connectionId sagaId, ManualReturned system connectionId sagaId →
    ∀ conn, getConnection system.tables.db connectionId = some conn →
      conn.syncSagaId = some sagaId → parseSyncTrigger conn.syncTrigger = .manual
  heard : Heard system

section Steps

variable {ttl : Instant} {system : SyncSystem} {call : StartCall}
  {connectionId sagaId commandId : String} {next conn : BankConnection} {status : Option String}
  {delivery : Delivery} {userId : Int}

theorem call_eq_of_id (inv : SyncInv system) {other : StartCall} (member : call ∈ system.calls)
    (otherIn : other ∈ system.calls) (same : call.sagaId = other.sagaId) : call = other :=
  inj_on_of_nodup_map inv.ids member otherIn same

theorem returned_not_active (inv : SyncInv system)
    (manual : ManualReturned system connectionId sagaId) (member : call ∈ system.calls)
    (active : ¬ Finished call.progress) :
    call.sagaId ≠ sagaId := by
  intro same
  obtain ⟨earlier, earlierIn, _, _, _, returned⟩ := manual
  cases saw : earlier.sawWinner with
  | true =>
    have started := (returned_started_iff inv earlierIn returned).mpr saw
    rw [← same] at started
    rw [(inv.calls call member).unstarted started] at active
    exact active trivial
  | false =>
    rcases (inv.calls earlier earlierIn).fallback saw with deferring | own | aborted
    · rw [returned] at deferring
      contradiction
    · rw [returned] at own
      cases own
      rw [call_eq_of_id inv member earlierIn same, returned] at active
      exact active trivial
    · rw [returned] at aborted
      contradiction

variable (parseUuid : String → Option String)

theorem rows_step (inv : ManualInv system) (label : Label)
    (manual : ManualReturned system connectionId sagaId)
    (after : getConnection (step parseUuid ttl system label).tables.db connectionId = some next)
    (claimed : next.syncSagaId = some sagaId) :
    parseSyncTrigger next.syncTrigger = .manual := by
  obtain ⟨conn, found, change⟩ := row_change parseUuid label after
  cases change with
  | kept _ saga trigger =>
    rw [trigger]
    exact inv.rows connectionId sagaId manual conn found (saga.symm.trans claimed)
  | escalated => exact parse_manual
  | released _ cleared =>
    rw [cleared] at claimed
    contradiction
  | claimed call member active =>
    have other := returned_not_active inv.sync manual member active
    exact absurd (Option.some.inj claimed) other

theorem rows_claimed (inv : SyncInv system) (member : call ∈ system.calls)
    (active : ¬ Finished call.progress) (trigger : call.request.trigger = .manual)
    (changed : Changed ttl system connectionId next) (claimed : next.syncSagaId = some call.sagaId) :
    parseSyncTrigger next.syncTrigger = .manual := by
  have unstarted : ¬ Started system.tables.startEvents call.sagaId := by
    intro started
    rw [(inv.calls call member).unstarted started] at active
    exact active trivial
  obtain ⟨conn, found, change⟩ := changed
  have sound := inv.rows conn (get_connection_mem found)
  cases change with
  | kept _ saga =>
    exact absurd (sound.claimed call.sagaId (saga.symm.trans claimed)) unstarted
  | escalated => exact parse_manual
  | released _ cleared =>
    rw [cleared] at claimed
    contradiction
  | claimed other otherIn =>
    have same := call_eq_of_id inv otherIn member (Option.some.inj claimed)
    change parseSyncTrigger (some other.request.trigger.value) = .manual
    rw [same, trigger]
    exact parse_manual

theorem rows_escalated {db : BankingDb}
    (after : getConnection (escalateTriggerToManual db connectionId sagaId) connectionId =
      some next) (claimed : next.syncSagaId = some sagaId) :
    parseSyncTrigger next.syncTrigger = .manual := by
  unfold getConnection escalateTriggerToManual updateConnection at after
  rw [lookup_replace (fun row _ _ => escalated_row.2.2), if_pos rfl] at after
  obtain ⟨_, _, rfl⟩ := Option.map_eq_some_iff.mp after
  rw [escalated_row.1] at claimed
  rw [if_pos claimed]
  exact parse_manual

theorem manual_returned_call {outcome : SyncTables × StartCall} (member : call ∈ system.calls)
    (stepped : CallStep ttl status system.tables call outcome)
    (manual : ManualReturned (setCall system outcome.1 outcome.2) connectionId sagaId) :
    ManualReturned system connectionId sagaId ∨
      call.request.trigger = .manual ∧ call.request.connectionId = connectionId ∧
        (¬ Finished call.progress ∧ sagaId = call.sagaId ∨
          call.progress = .deferring sagaId ∧ outcome.1.db =
            escalateTriggerToManual system.tables.db connectionId sagaId) := by
  obtain ⟨row, rowIn, trigger, located, alreadyRunning, returned⟩ := manual
  rcases mem_replace.mp rowIn with ⟨old, _⟩ | ⟨_, _, _, rfl⟩
  · exact Or.inl ⟨row, old, trigger, located, alreadyRunning, returned⟩
  · cases stepped with
    | finished => exact Or.inl ⟨call, member, trigger, located, alreadyRunning, returned⟩
    | claimed active =>
      cases returned
      exact Or.inr ⟨trigger, located, Or.inl ⟨active, rfl⟩⟩
    | read progress sawWinner active going =>
      change progress = .returned sagaId alreadyRunning at returned
      rw [returned] at going
      exact absurd trivial going
    | deferred winnerId ready =>
      cases returned
      refine Or.inr ⟨trigger, located, Or.inr ⟨ready, ?_⟩⟩
      change call.request.trigger = .manual at trigger
      dsimp only at located ⊢
      rw [if_pos trigger, located]

theorem abandoned_returned {alreadyRunning : Bool}
    (returned : (abandonCall call).progress = .returned sagaId alreadyRunning) :
    abandonCall call = call := by
  unfold abandonCall at returned ⊢
  cases at_ : call.progress with
  | returned => rfl
  | claiming | conflict | retrying | retryLost | contested existingId | stealing existingId
  | stealLost existingId | deferring winnerId | aborted =>
    rw [at_] at returned
    contradiction

def JustReturned (ttl : Instant) (parseUuid : String → Option String) (system : SyncSystem)
    (label : Label) (connectionId sagaId : String) : Prop :=
  ∃ callId status call, label = .advance callId status ∧
    findCall system callId = some call ∧ call.request.trigger = .manual ∧
    call.request.connectionId = connectionId ∧
    (¬ Finished call.progress ∧ sagaId = call.sagaId ∨
      call.progress = .deferring sagaId ∧ (step parseUuid ttl system label).tables.db =
        escalateTriggerToManual system.tables.db connectionId sagaId)

theorem manual_returned_step (label : Label)
    (manual : ManualReturned (step parseUuid ttl system label) connectionId sagaId) :
    ManualReturned system connectionId sagaId ∨
      JustReturned ttl parseUuid system label connectionId sagaId := by
  unfold JustReturned
  have stepped := step_cases parseUuid ttl system label
  generalize step parseUuid ttl system label = next at stepped manual ⊢
  cases stepped with
  | unchanged | commanded | handled | dropped | ended => exact Or.inl manual
  | requested request answers call fresh ready =>
    obtain ⟨row, member, trigger, located, alreadyRunning, returned⟩ := manual
    rcases mem_snoc.mp member with old | rfl
    · exact Or.inl ⟨row, old, trigger, located, alreadyRunning, returned⟩
    · rw [ready] at returned
      contradiction
  | advanced callId status call outcome found stepped =>
    rcases manual_returned_call (lookup_mem found).1 stepped manual with old | just
    · exact Or.inl old
    · exact Or.inr ⟨callId, status, call, rfl, found, just⟩
  | abandoned callId call found =>
    obtain ⟨row, member, trigger, located, alreadyRunning, returned⟩ := manual
    apply Or.inl
    rcases mem_replace.mp member with ⟨old, _⟩ | ⟨_, _, _, rfl⟩
    · exact ⟨row, old, trigger, located, alreadyRunning, returned⟩
    · rw [abandoned_returned returned] at trigger located returned
      exact ⟨call, (lookup_mem found).1, trigger, located, alreadyRunning, returned⟩

/-- A completion has read its row before the step, or reads it in a step of its own. -/
theorem loaded_step (label : Label)
    (member : delivery ∈ (step parseUuid ttl system label).deliveries)
    (loaded : delivery.progress = .loaded commandId userId conn) :
    delivery ∈ system.deliveries ∨ (getConnection system.tables.db conn.id = some conn ∧
        ∀ callId status, label ≠ .advance callId status) := by
  have stepped := step_cases parseUuid ttl system label
  generalize step parseUuid ttl system label = next at stepped member
  cases stepped with
  | unchanged | requested | advanced | abandoned | ended => exact Or.inl member
  | commanded =>
    apply Or.inl
    rcases mem_snoc.mp member with old | rfl
    · exact old
    · contradiction
  | handled index now handled outcome handledIn stepped =>
    rcases mem_set_delivery member with old | moved
    · exact Or.inl old
    · rw [loaded] at moved
      cases stepped with
      | quiet progress unread => exact absurd moved.symm (unread commandId userId conn)
      | loaded otherId id otherUser row stored =>
        cases moved
        apply Or.inr
        constructor
        · unfold getConnection at stored ⊢
          rw [(lookup_mem stored).2]
          exact stored
        · simp
      | completed => contradiction
  | dropped =>
    rcases mem_set_delivery member with old | moved
    · exact Or.inl old
    · rw [loaded] at moved
      contradiction

theorem in_time_unread {callId : String} (inTime : EscalatesInTime system (.advance callId status))
    (found : findCall system callId = some call) (trigger : call.request.trigger = .manual)
    {winnerId : String} (ready : call.progress = .deferring winnerId) :
    ∀ delivery ∈ system.deliveries,
      readScheduled call.request.connectionId winnerId delivery = false := by
  unfold EscalatesInTime escalatesInTime at inTime
  dsimp only at inTime
  rw [found] at inTime
  dsimp only at inTime
  rw [ready, trigger] at inTime
  simpa using inTime

theorem unread_stamps_manual (loaded : delivery.progress = .loaded commandId userId conn)
    (given : delivery.body.sagaId = some sagaId)
    (unread : readScheduled conn.id sagaId delivery = false) :
    (completedEvent delivery.body commandId userId conn).trigger = .manual := by
  unfold readScheduled at unread
  rw [loaded] at unread
  simpa [given] using unread

theorem heard_step (inv : ManualInv system) (label : Label) (inTime : EscalatesInTime system label) : Heard (step parseUuid ttl system label) := by
  intro delivery member commandId userId conn sagaId loaded given manual
  have known := manual_returned_step parseUuid label manual
  rcases loaded_step parseUuid label member loaded with earlier | ⟨found, other⟩
  · rcases known with old | ⟨callId, status, call, rfl, found, trigger, located, won | joined⟩
    · exact inv.heard delivery earlier commandId userId conn sagaId loaded given old
    · apply stamps_manual
      intro _ own claimed
      rw [given, won.2] at own
      rw [← Option.some.inj own] at claimed
      have sound := inv.sync.loaded delivery earlier commandId userId conn loaded
      have started := sound.claimed call.sagaId claimed
      have returned := (inv.sync.calls call (lookup_mem found).1).unstarted started
      rw [returned] at won
      exact absurd trivial won.1
    · apply unread_stamps_manual loaded given
      rw [← located]
      exact in_time_unread inTime found trigger joined.1 delivery earlier
  · rcases known with old | ⟨callId, status, _, same, _⟩
    · apply stamps_manual
      intro _ own claimed
      rw [given] at own
      rw [← Option.some.inj own] at claimed
      exact inv.rows conn.id sagaId old conn found claimed
    · exact absurd same (other callId status)

theorem manual_step (inv : ManualInv system) (label : Label) (inTime : EscalatesInTime system label) : ManualInv (step parseUuid ttl system label) where
  sync := step_keeps parseUuid inv.sync label
  heard := heard_step parseUuid inv label inTime
  rows := by
    intro _ _ manual _ after claimed
    rcases manual_returned_step parseUuid label manual with
      old | ⟨callId, status, call, _, found, trigger, _, won | joined⟩
    · exact rows_step parseUuid inv label old after claimed
    · rw [won.2] at claimed
      exact rows_claimed inv.sync (lookup_mem found).1 won.1 trigger
        (row_change parseUuid label after) claimed
    · rw [joined.2] at after
      exact rows_escalated after claimed

theorem manual_start (unclaimed : Unclaimed) : ManualInv (start unclaimed) where
  sync := start_inv unclaimed
  rows := by
    rintro connectionId sagaId ⟨call, member, _⟩
    contradiction
  heard := by
    intro _ _
    contradiction

theorem sync_run_manual (unclaimed : Unclaimed) (labels : List Label)
    (inTime : AllSteps (step parseUuid ttl) EscalatesInTime (start unclaimed) labels) :
    ManualInv (syncRun parseUuid ttl unclaimed labels) := by
  unfold syncRun
  apply allowed_run_keeps (step parseUuid ttl) _ _ labels inTime
  · intro _ label allowed inv
    exact manual_step parseUuid inv label allowed
  · exact manual_start unclaimed

theorem read_scheduled_cases (read : readScheduled connectionId sagaId delivery = true) :
    ∃ commandId userId conn, delivery.progress = .loaded commandId userId conn ∧
      conn.id = connectionId ∧ delivery.body.sagaId = some sagaId ∧
      (completedEvent delivery.body commandId userId conn).trigger ≠ .manual := by
  unfold readScheduled at read
  cases at_ : delivery.progress with
  | loaded commandId userId conn =>
    rw [at_] at read
    dsimp only at read
    rw [Bool.and_eq_true, Bool.and_eq_true, decide_eq_true_eq, decide_eq_true_eq,
      decide_eq_true_eq] at read
    exact ⟨commandId, userId, conn, rfl, read.1.1, read.1.2, read.2⟩
  | started | checked commandId userId | committed | returned success | aborted =>
    rw [at_] at read
    contradiction

theorem returned_by_escalation {callId : String} (found : findCall system callId = some call)
    {winnerId : String} (ready : call.progress = .deferring winnerId)
    (trigger : call.request.trigger = .manual) :
    ManualReturned (step parseUuid ttl system (.advance callId status))
      call.request.connectionId winnerId := by
  have outcome : (runCall ttl status system.tables call).2 =
      { call with progress := .returned winnerId true } := by
    unfold runCall
    rw [ready]
  unfold step ManualReturned
  dsimp only
  rw [found]
  dsimp only
  rw [outcome]
  refine ⟨{ call with progress := .returned winnerId true }, ?_, trigger, rfl, true, rfl⟩
  exact mem_replace.mpr (Or.inr ⟨call, (lookup_mem found).1, rfl, rfl⟩)

theorem advance_deliveries (callId : String) (status : Option String) :
    (step parseUuid ttl system (.advance callId status)).deliveries = system.deliveries := by
  unfold step
  dsimp only
  cases findCall system callId with
  | none | some => rfl

theorem in_time_of_heard {label : Label} (heard : Heard (step parseUuid ttl system label)) :
    EscalatesInTime system label := by
  by_contra late
  unfold EscalatesInTime escalatesInTime at late
  cases label with
  | advance callId =>
    dsimp only at late
    cases found : findCall system callId with
    | none =>
      rw [found] at late
      exact late rfl
    | some call =>
      rw [found] at late
      dsimp only at late
      cases at_ : call.progress with
      | deferring winnerId =>
        rw [at_] at late
        simp only [Bool.or_eq_true, decide_eq_true_eq, Bool.not_eq_true', not_or,
          Bool.not_eq_false, any_eq_true, not_not] at late
        obtain ⟨trigger, delivery, member, read⟩ := late
        obtain ⟨commandId, userId, conn, loaded, located, given, other⟩ :=
          read_scheduled_cases read
        apply other
        apply heard delivery _ commandId userId conn winnerId loaded given
        · rw [located]
          exact returned_by_escalation parseUuid found at_ trigger
        · rw [advance_deliveries]
          exact member
      | claiming | conflict | retrying | retryLost | contested existingId
      | stealing existingId | stealLost existingId | returned sagaId alreadyRunning
      | aborted =>
        rw [at_] at late
        exact late rfl
  | request | abandon | command | handle | drop | sagaEnded => exact late rfl

theorem commit_adds_event (body : MarkSyncCommand) (commandId : String) (userId : Int)
    (now : Instant) (conn : BankConnection) (db : BankingDb) :
    (commitCompletion body commandId userId now conn db).outbox = db.outbox ∨
      ∃ entry, (commitCompletion body commandId userId now conn db).outbox =
        db.outbox ++ [entry] ∧ entry.event = completedEvent body commandId userId conn := by
  unfold commitCompletion
  dsimp only
  cases isDuplicate db (inboxKeyOrNone body) with
  | true => exact Or.inl rfl
  | false => exact Or.inr ⟨_, rfl, rfl⟩

/-- The next statement of a completion that has read its row is its commit. -/
theorem handle_commits {index : Nat} {now : Instant}
    (found : system.deliveries[index]? = some delivery)
    (loaded : delivery.progress = .loaded commandId userId conn) :
    (step parseUuid ttl system (.handle index now)).tables.db =
      commitCompletion delivery.body commandId userId now conn system.tables.db := by
  unfold step
  dsimp only
  rw [found]
  unfold runStatement
  dsimp only
  rw [loaded]
  rfl

end Steps

/-- In every state the completions under way will stamp the sagas of manual calls
manual, exactly when every escalation comes before they read the claim; then the
events that they commit are manual. -/
theorem manual_is_heard_iff (parseUuid : String → Option String) (ttl : Instant)
    (unclaimed : Unclaimed) (labels : List Label) :
    ((∀ before after, labels = before ++ after → Heard (syncRun parseUuid ttl unclaimed before)) ↔
      AllSteps (step parseUuid ttl) EscalatesInTime (start unclaimed) labels) ∧
    (AllSteps (step parseUuid ttl) EscalatesInTime (start unclaimed) labels →
      ∀ before index now after delivery commandId userId conn sagaId,
        labels = before ++ .handle index now :: after →
        (syncRun parseUuid ttl unclaimed before).deliveries[index]? = some delivery →
        delivery.progress = .loaded commandId userId conn →
        delivery.body.sagaId = some sagaId →
        ManualReturned (syncRun parseUuid ttl unclaimed before) conn.id sagaId →
          let outbox := (syncRun parseUuid ttl unclaimed before).tables.db.outbox
          let later :=
            (syncRun parseUuid ttl unclaimed (before ++ [.handle index now])).tables.db.outbox
          later = outbox ∨ ∃ entry, later = outbox ++ [entry] ∧ entry.event.trigger = .manual) := by
  constructor
  · constructor
    · intro heard
      induction labels using List.reverseRecOn with
      | nil => trivial
      | append_singleton labels label ih =>
        apply (all_steps_append (step parseUuid ttl)).mpr
        constructor
        · apply ih
          intro before after parts
          apply heard before (after ++ [label])
          rw [parts, append_assoc]
        · have last := heard (labels ++ [label]) [] (append_nil _).symm
          unfold syncRun at last
          rw [run_from_snoc] at last
          exact ⟨in_time_of_heard parseUuid last, trivial⟩
    · intro inTime before _ parts
      rw [parts, all_steps_append] at inTime
      exact (sync_run_manual parseUuid unclaimed before inTime.1).heard
  · intro inTime before index now _ delivery commandId userId conn sagaId parts found loaded
      given manual
    rw [parts, all_steps_append] at inTime
    have inv := sync_run_manual parseUuid unclaimed before inTime.1
    have stamped := inv.heard delivery (mem_of_getElem? found) commandId userId conn sagaId
      loaded given manual
    dsimp only
    have committed : (syncRun parseUuid ttl unclaimed (before ++ [.handle index now])).tables.db =
        commitCompletion delivery.body commandId userId now conn
          (syncRun parseUuid ttl unclaimed before).tables.db := by
      unfold syncRun at found ⊢
      rw [run_from_snoc]
      exact handle_commits parseUuid found loaded
    rw [committed]
    rcases commit_adds_event delivery.body commandId userId now conn
      (syncRun parseUuid ttl unclaimed before).tables.db with same | ⟨entry, added, event⟩
    · exact Or.inl same
    · refine Or.inr ⟨entry, added, ?_⟩
      rw [event]
      exact stamped

/-- A scheduled saga is claimed, and its completion has come before its read. -/
def scheduledRunning : List Label :=
  [requestAt .scheduled "first" 1000, .advance "first" none, .command (completionOf "first"),
    .handle 0 3000]

/-- A manual call finds the running saga and escalates its claim. -/
def manualJoins : List Label :=
  [requestAt .manual "second" 2000, .advance "second" none, .advance "second" none,
    .advance "second" none, .advance "second" none]

/-- The completion reads the claim after the escalation. -/
def joinedInTime : List Label := scheduledRunning ++ manualJoins ++ [.handle 0 3000]

/-- The completion reads the claim before the escalation. -/
def joinedLate : List Label := scheduledRunning ++ [.handle 0 3000] ++ manualJoins

def scheduledClaim : BankConnection :=
  claimFor "first" 1000 .scheduled householdConnection

def completionWith (conn : BankConnection) : Delivery where
  body := completionOf "first"
  progress := .loaded "connection" 7 conn

theorem joined_in_time_is_manual :
    let outbox := (syncRun some 600000000 oneConnection joinedInTime).tables.db.outbox
    let later := (syncRun some 600000000 oneConnection
      (joinedInTime ++ [.handle 0 4000])).tables.db.outbox
    later = outbox ∨ ∃ entry, later = outbox ++ [entry] ∧ entry.event.trigger = .manual := by
  apply (manual_is_heard_iff some 600000000 oneConnection (joinedInTime ++ [.handle 0 4000])).2
    (by decide +kernel) joinedInTime 0 4000 []
    (completionWith { scheduledClaim with syncTrigger := some "manual" }) "connection" 7
    { scheduledClaim with syncTrigger := some "manual" } "first"
  · rfl
  · decide +kernel
  · rfl
  · rfl
  · exact ⟨secondCall "first" true, by decide +kernel, rfl, rfl, true, rfl⟩

/-- The manual call has returned the saga, and its completion commits as scheduled. -/
theorem joined_late_is_scheduled :
    ¬ ∀ parseUuid ttl unclaimed before index now delivery commandId userId conn sagaId,
      (syncRun parseUuid ttl unclaimed before).deliveries[index]? = some delivery →
      delivery.progress = .loaded commandId userId conn →
      delivery.body.sagaId = some sagaId →
      ManualReturned (syncRun parseUuid ttl unclaimed before) conn.id sagaId →
        let outbox := (syncRun parseUuid ttl unclaimed before).tables.db.outbox
        let later :=
          (syncRun parseUuid ttl unclaimed (before ++ [.handle index now])).tables.db.outbox
        later = outbox ∨ ∃ entry, later = outbox ++ [entry] ∧ entry.event.trigger = .manual := by
  intro always
  have manual : ManualReturned (syncRun some 600000000 oneConnection joinedLate)
      scheduledClaim.id "first" :=
    ⟨secondCall "first" true, by decide +kernel, rfl, rfl, true, rfl⟩
  have stamped := always some 600000000 oneConnection joinedLate 0 4000
    (completionWith scheduledClaim) "connection" 7 scheduledClaim "first" (by decide +kernel)
    rfl rfl manual
  have earlier : (syncRun some 600000000 oneConnection joinedLate).tables.db.outbox = [] := by
    decide +kernel
  have triggers : (syncRun some 600000000 oneConnection
      (joinedLate ++ [.handle 0 4000])).tables.db.outbox.map (fun entry =>
        entry.event.trigger) = [.scheduled] := by
    decide +kernel
  dsimp only at stamped
  rw [earlier] at stamped
  rcases stamped with same | ⟨entry, added, trigger⟩
  · rw [same] at triggers
    contradiction
  · rw [added, nil_append, map_singleton, trigger] at triggers
    contradiction

end FinanceTracker.Banking.ManualTrigger
