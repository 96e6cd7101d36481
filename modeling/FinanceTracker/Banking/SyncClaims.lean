import FinanceTracker.Banking.SyncRuns

/-!
# At most one sync in flight

What a step can do to the claim of a connection: nothing, a claim by a call that was
allowed to, an escalation of the trigger, or a release. From it, a claim gives way
to another one only after its saga has ended or after the TTL, and every saga of a
claim has one start event.
-/

namespace FinanceTracker.Banking.SyncClaims

open Library KeyedRows Runs MarkSyncComplete StartSync SyncRuns List

/-- A terminal status is reported only of a saga that has ended. -/
def honestLookup (system : SyncSystem) : Label → Bool
  | .advance sagaId status =>
    match findCall system sagaId with
    | none => true
    | some call =>
      match call.progress with
      | .contested existingId => !status.any isTerminal || system.ended.contains existingId
      | _ => true
  | _ => true

abbrev HonestLookup (system : SyncSystem) (label : Label) : Prop :=
  honestLookup system label = true

theorem honest_lookup_ended {system : SyncSystem} {sagaId existingId : String}
    {status : Option String} (honest : HonestLookup system (.advance sagaId status))
    {call : StartCall} (found : findCall system sagaId = some call)
    (contested : call.progress = .contested existingId)
    (terminal : status.any isTerminal = true) : existingId ∈ system.ended := by
  unfold HonestLookup honestLookup at honest
  dsimp only at honest
  rw [found] at honest
  dsimp only at honest
  rw [contested, terminal] at honest
  exact contains_iff_mem.mp honest

def MayClaim (ttl : Instant) (call : StartCall) (conn : BankConnection) : Prop :=
  (∀ startedAt, conn.syncStartedAt = some startedAt → startedAt < call.now - ttl) ∨
    ∃ existingId, call.progress = .stealing existingId ∧ conn.syncSagaId = some existingId

inductive RowChange (ttl : Instant) (system : SyncSystem) (conn : BankConnection) :
    BankConnection → Prop where
  | kept (next : BankConnection) (saga : next.syncSagaId = conn.syncSagaId)
      (trigger : next.syncTrigger = conn.syncTrigger) : RowChange ttl system conn next
  | claimed (call : StartCall) (member : call ∈ system.calls)
      (active : ¬ Finished call.progress) (allowed : MayClaim ttl call conn) :
      RowChange ttl system conn (claimFor call.sagaId call.now call.request.trigger conn)
  | escalated :
      RowChange ttl system conn { conn with syncTrigger := some SyncTrigger.manual.value }
  | released (next : BankConnection) (cleared : next.syncSagaId = none) :
      RowChange ttl system conn next

def Changed (ttl : Instant) (system : SyncSystem) (connectionId : String)
    (next : BankConnection) : Prop :=
  ∃ conn, getConnection system.tables.db connectionId = some conn ∧ RowChange ttl system conn next

section Steps

variable {ttl : Instant} {system : SyncSystem} {connectionId : String} {next : BankConnection}

theorem row_unchanged (after : getConnection system.tables.db connectionId = some next) :
    Changed ttl system connectionId next :=
  ⟨next, after, RowChange.kept next rfl rfl⟩

theorem row_updated {db updated : BankingDb} {wanted : String}
    {change : BankConnection → BankConnection}
    (keeps : ∀ row ∈ db.connections, row.id = wanted → (change row).id = row.id)
    (written : updated.connections = replace BankConnection.id db.connections wanted change)
    (after : getConnection updated connectionId = some next) :
    ∃ conn, getConnection db connectionId = some conn ∧ (next = conn ∨ next = change conn) := by
  unfold getConnection at after ⊢
  rw [written, lookup_replace keeps] at after
  by_cases here : connectionId = wanted
  · rw [if_pos here] at after
    obtain ⟨conn, found, same⟩ := Option.map_eq_some_iff.mp after
    exact ⟨conn, found, Or.inr same.symm⟩
  · rw [if_neg here] at after
    exact ⟨next, after, Or.inl rfl⟩

theorem stamp_change (body : MarkSyncCommand) (now : Instant) (loaded conn : BankConnection) :
    RowChange ttl system conn (stampConnection body now loaded conn) := by
  cases own : ownClaim body loaded with
  | true =>
    apply RowChange.released
    simp [stampConnection, own]
  | false =>
    apply RowChange.kept
    · simp [stampConnection, own]
    · simp [stampConnection, own]

theorem call_row_change {call : StartCall} (member : call ∈ system.calls)
    {status : Option String} {outcome : SyncTables × StartCall}
    (stepped : CallStep ttl status system.tables call outcome)
    (after : getConnection outcome.1.db connectionId = some next) :
    Changed ttl system connectionId next := by
  cases stepped with
  | finished | read => exact row_unchanged after
  | claimed active may allowed =>
    have keeps : ∀ row ∈ system.tables.db.connections, row.id = call.request.connectionId →
        (if may row then claimFor call.sagaId call.now call.request.trigger row
          else row).id = row.id := by
      intro row _ _
      by_cases holds : may row
      · rw [if_pos holds]
        rfl
      · rw [if_neg holds]
    obtain ⟨conn, found, same | rfl⟩ := row_updated keeps rfl after
    · rw [same]
      exact ⟨conn, found, RowChange.kept _ rfl rfl⟩
    · refine ⟨conn, found, ?_⟩
      by_cases holds : may conn
      · rw [if_pos holds]
        exact RowChange.claimed call member active (allowed conn holds)
      · rw [if_neg holds]
        exact RowChange.kept _ rfl rfl
  | deferred winnerId =>
    by_cases manual : call.request.trigger = .manual
    · rw [if_pos manual] at after
      obtain ⟨conn, found, same | rfl⟩ :=
        row_updated (fun row _ _ => escalated_row.2.2) rfl after
      · rw [same]
        exact ⟨conn, found, RowChange.kept _ rfl rfl⟩
      · refine ⟨conn, found, ?_⟩
        by_cases holds : conn.syncSagaId = some winnerId
        · rw [if_pos holds]
          exact RowChange.escalated
        · rw [if_neg holds]
          exact RowChange.kept _ rfl rfl
    · rw [if_neg manual] at after
      exact row_unchanged after

theorem delivery_row_change {delivery : Delivery} {outcome : BankingDb × Progress}
    (stepped : DeliveryStep system.tables.db delivery outcome)
    (after : getConnection outcome.1 connectionId = some next) :
    Changed ttl system connectionId next := by
  cases stepped with
  | quiet | loaded => exact row_unchanged after
  | completed commandId userId loaded now =>
    rcases commit_connections delivery.body commandId userId now loaded system.tables.db with
      same | stamped
    · unfold getConnection at after
      rw [same] at after
      exact row_unchanged after
    · have keeps : ∀ row ∈ system.tables.db.connections, row.id = loaded.id →
          (stampConnection delivery.body now loaded row).id = row.id := fun _ _ _ => rfl
      obtain ⟨conn, found, same | rfl⟩ := row_updated keeps stamped after
      · rw [same]
        exact ⟨conn, found, RowChange.kept _ rfl rfl⟩
      · exact ⟨conn, found, stamp_change _ _ _ _⟩

theorem row_change (parseUuid : String → Option String) (label : Label)
    (after : getConnection (step parseUuid ttl system label).tables.db connectionId = some next) :
    Changed ttl system connectionId next := by
  have stepped := step_cases parseUuid ttl system label
  generalize step parseUuid ttl system label = later at stepped after
  cases stepped with
  | advanced sagaId status call outcome found stepped =>
    exact call_row_change (lookup_mem found).1 stepped after
  | handled index now delivery outcome member stepped => exact delivery_row_change stepped after
  | unchanged | requested | abandoned | commanded | dropped | ended => exact row_unchanged after

end Steps

structure ClaimInv (system : SyncSystem) : Prop where
  sync : SyncInv system
  stealing : ∀ call ∈ system.calls, ∀ existingId, call.progress = .stealing existingId →
    existingId ∈ system.ended

section Steals

variable {ttl : Instant} {system : SyncSystem}

theorem call_step_stealing {status : Option String} {tables : SyncTables} {call : StartCall}
    {outcome : SyncTables × StartCall} (stepped : CallStep ttl status tables call outcome)
    {existingId : String} (stealing : outcome.2.progress = .stealing existingId) :
    call.progress = .stealing existingId ∨
      (call.progress = .contested existingId ∧ status.any isTerminal = true) := by
  cases stepped with
  | finished => exact Or.inl stealing
  | claimed | deferred => contradiction
  | read progress sawWinner active going before ids flag steals =>
    exact Or.inr (steals existingId stealing)

theorem abandoned_not_stealing {call : StartCall} {existingId : String}
    (stealing : (abandonCall call).progress = .stealing existingId) : False := by
  unfold abandonCall at stealing
  cases at_ : call.progress with
  | returned =>
    rw [at_] at stealing
    dsimp only at stealing
    rw [at_] at stealing
    contradiction
  | claiming | conflict | retrying | retryLost | contested knownId | stealing knownId
  | stealLost knownId | deferring winnerId | aborted =>
    rw [at_] at stealing
    contradiction

theorem stealing_keeps (parseUuid : String → Option String) (inv : ClaimInv system)
    {label : Label} (honest : HonestLookup system label) :
    ∀ call ∈ (step parseUuid ttl system label).calls, ∀ existingId,
      call.progress = .stealing existingId →
        existingId ∈ (step parseUuid ttl system label).ended := by
  have stepped := step_cases parseUuid ttl system label
  generalize step parseUuid ttl system label = next at stepped ⊢
  cases stepped with
  | unchanged | commanded | handled | dropped => exact inv.stealing
  | requested request answers call fresh ready =>
    intro row member existingId stealing
    rcases mem_snoc.mp member with old | rfl
    · exact inv.stealing row old existingId stealing
    · rw [ready] at stealing
      contradiction
  | advanced sagaId status call outcome found stepped =>
    apply set_call_forall
    · intro row member _
      exact inv.stealing row member
    · intro existingId stealing
      rcases call_step_stealing stepped stealing with earlier | ⟨contested, terminal⟩
      · exact inv.stealing call (lookup_mem found).1 existingId earlier
      · have ended := honest_lookup_ended honest found contested terminal
        exact ended
  | abandoned =>
    apply set_call_forall
    · intro row member _
      exact inv.stealing row member
    · intro _ stealing
      exact (abandoned_not_stealing stealing).elim
  | ended =>
    intro call member existingId stealing
    exact mem_append_left _ (inv.stealing call member existingId stealing)

theorem sync_run_claims (parseUuid : String → Option String) (unclaimed : Unclaimed)
    (labels : List Label)
    (honest : AllSteps (step parseUuid ttl) HonestLookup (start unclaimed) labels) :
    ClaimInv (syncRun parseUuid ttl unclaimed labels) := by
  unfold syncRun
  apply allowed_run_keeps (step parseUuid ttl) _ _ labels honest
  · intro _ label allowed inv
    exact ⟨step_keeps parseUuid inv.sync label, stealing_keeps parseUuid inv allowed⟩
  · refine ⟨start_inv unclaimed, ?_⟩
    intro _ _
    contradiction

theorem replaced_claim (parseUuid : String → Option String) (inv : ClaimInv system)
    (label : Label) {connectionId : String} {conn next : BankConnection}
    (before : getConnection system.tables.db connectionId = some conn)
    (after : getConnection (step parseUuid ttl system label).tables.db connectionId = some next)
    {sagaId otherId : String} (held : conn.syncSagaId = some sagaId)
    (replaced : next.syncSagaId = some otherId) (other : otherId ≠ sagaId) :
    sagaId ∈ system.ended ∨ ∃ startedAt now, conn.syncStartedAt = some startedAt ∧
      next.syncStartedAt = some now ∧ startedAt < now - ttl := by
  obtain ⟨_, found, change⟩ := row_change parseUuid label after
  rw [before] at found
  cases found
  cases change with
  | kept _ saga =>
    rw [saga, held] at replaced
    exact absurd (Option.some.inj replaced).symm other
  | escalated =>
    change conn.syncSagaId = some otherId at replaced
    rw [held] at replaced
    exact absurd (Option.some.inj replaced).symm other
  | released _ cleared =>
    rw [cleared] at replaced
    contradiction
  | claimed call member active allowed =>
    rcases allowed with old | ⟨existingId, stealing, claimed⟩
    · apply Or.inr
      have whole := (inv.sync.rows conn (get_connection_mem before)).whole
      cases stamped : conn.syncStartedAt with
      | none =>
        rw [whole.mpr stamped] at held
        contradiction
      | some startedAt => exact ⟨startedAt, call.now, rfl, rfl, old startedAt stamped⟩
    · rw [held] at claimed
      rw [Option.some.inj claimed]
      exact Or.inl (inv.stealing call member existingId stealing)

end Steals

theorem started_once {events : List BankSyncSagaStartEvent}
    (once : (events.map BankSyncSagaStartEvent.correlationId).Nodup) {sagaId : String}
    (started : Started events sagaId) :
    (events.map BankSyncSagaStartEvent.correlationId).count sagaId = 1 := by
  obtain ⟨_, member, same⟩ := started
  apply count_eq_one_of_mem once
  rw [← same]
  exact mem_map_of_mem member

section Events

variable {ttl : Instant} {system : SyncSystem}

theorem call_step_events {status : Option String} {tables : SyncTables} {call : StartCall}
    {outcome : SyncTables × StartCall} (stepped : CallStep ttl status tables call outcome) :
    ∀ event ∈ tables.startEvents, event ∈ outcome.1.startEvents := by
  intro _ member
  cases stepped with
  | finished | read | deferred => exact member
  | claimed => exact mem_append_left _ member

theorem started_step (parseUuid : String → Option String) (label : Label) {sagaId : String}
    (started : Started system.tables.startEvents sagaId) :
    Started (step parseUuid ttl system label).tables.startEvents sagaId := by
  have stepped := step_cases parseUuid ttl system label
  generalize step parseUuid ttl system label = next at stepped ⊢
  cases stepped with
  | advanced callId status call outcome found stepped =>
    obtain ⟨event, member, same⟩ := started
    exact ⟨event, call_step_events stepped event member, same⟩
  | unchanged | requested | abandoned | commanded | handled | dropped | ended => exact started

theorem started_run (parseUuid : String → Option String) (labels : List Label) {sagaId : String}
    (started : Started system.tables.startEvents sagaId) :
    Started (runFrom (step parseUuid ttl) system labels).tables.startEvents sagaId := by
  have keeps : ∀ (current : SyncSystem) (label : Label), Started current.tables.startEvents sagaId →
        Started (step parseUuid ttl current label).tables.startEvents sagaId :=
    fun _ label => started_step parseUuid label
  exact run_keeps (step parseUuid ttl) keeps started labels

end Events

theorem sync_claims_are_exclusive (parseUuid : String → Option String) (ttl : Instant)
    (unclaimed : Unclaimed) (labels : List Label)
    (honest : AllSteps (step parseUuid ttl) HonestLookup (start unclaimed) labels) :
    (∀ before label after connectionId conn next sagaId otherId, labels = before ++ label :: after →
      getConnection (syncRun parseUuid ttl unclaimed before).tables.db connectionId = some conn →
      getConnection (syncRun parseUuid ttl unclaimed (before ++ [label])).tables.db
        connectionId = some next →
      conn.syncSagaId = some sagaId → next.syncSagaId = some otherId → otherId ≠ sagaId →
        sagaId ∈ (syncRun parseUuid ttl unclaimed before).ended ∨
          ∃ startedAt now, conn.syncStartedAt = some startedAt ∧
            next.syncStartedAt = some now ∧ startedAt < now - ttl) ∧
    (∀ before after connectionId sagaId, labels = before ++ after →
      currentClaim (syncRun parseUuid ttl unclaimed before).tables.db connectionId = some sagaId →
        ((syncRun parseUuid ttl unclaimed labels).tables.startEvents.map
          BankSyncSagaStartEvent.correlationId).count sagaId = 1) := by
  constructor
  · intro before label _ _ _ _ _ _ parts found changed held
      replaced other
    rw [parts, all_steps_append] at honest
    have inv := sync_run_claims parseUuid unclaimed before honest.1
    unfold syncRun at changed
    rw [run_from_snoc] at changed
    exact replaced_claim parseUuid inv label found changed held replaced other
  · intro before after _ _ parts claim
    have inv : SyncInv (syncRun parseUuid ttl unclaimed before) :=
      sync_run_inv parseUuid unclaimed before
    have started := current_claim_started inv claim
    apply started_once (sync_run_inv parseUuid unclaimed labels).once
    rw [parts]
    unfold syncRun
    rw [run_from_append]
    exact started_run parseUuid after started

def householdConnection : BankConnection where
  id := "connection"
  accountId := 5

def oneConnection : Unclaimed where
  connections := [householdConnection]
  distinct := List.nodup_singleton _
  free := by decide

def householdDetails : ConnectionDetails where
  userId := 7
  bankAccountUid := "uid"

def requestAt (trigger : SyncTrigger) (sagaId : String) (now : Instant) : Label :=
  .request { connectionId := "connection", userId := 7, trigger := trigger }
    { details := householdDetails
      checkedAt := now
      accountName := .ok "Budget"
      sagaId := sagaId
      now := now }

/-- The second call meets the claim of the first, whose saga has ended. -/
def beforeSteal : List Label :=
  [requestAt .scheduled "first" 1000, .advance "first" none, requestAt .manual "second" 2000,
    .advance "second" none, .advance "second" none, .sagaEnded "first",
    .advance "second" (some "failed")]

theorem stolen_claim_had_ended :
    "first" ∈ (syncRun some 600000000 oneConnection beforeSteal).ended ∨
      ∃ startedAt now : Instant, some 1000 = some startedAt ∧ some 2000 = some now ∧
        startedAt < now - 600000000 := by
  apply (sync_claims_are_exclusive some 600000000 oneConnection
    (beforeSteal ++ [.advance "second" none]) (by decide +kernel)).1 beforeSteal
    (.advance "second" none) [] "connection"
    (claimFor "first" 1000 .scheduled householdConnection)
    (claimFor "second" 2000 .manual householdConnection) "first" "second"
  · rfl
  · decide +kernel
  · decide +kernel
  · rfl
  · rfl
  · decide

end FinanceTracker.Banking.SyncClaims
