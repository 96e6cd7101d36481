import FinanceTracker.Goal.Service

/-!
# Concurrent month closes and updates of goals

Sessions of goal-service interleave at their statements under READ COMMITTED. A
delivery of a closed month looks for its key in the history and in the unallocated
surplus, selects the default goal, and then either commits an unallocated entry or
inserts its allocation, reads the amount of the goal again and commits the sum. An
update reads the goal, loads its row and commits the columns it has changed. The
other use cases write without what they have read before and are one step each. An
allocation that waits for the uncommitted one of the same key and goal stays where
it is; a session that raises or is lost ends without effect. The ghost lists
`opened` and `commits` record the created goals and the committed changes of amounts.
-/

namespace FinanceTracker.Goal.MonthCloseRuns

open Library Columns KeyedRows Runs Shared.BudgetEvents Service List

/-- How far a delivery has come, with what it has read and written. -/
inductive DeliveryPhase where
  | received
  | notAllocated
  | unrecorded
  | goalChosen (chosen : Option Goal)
  | inserted (goal : Goal) (amount : Nat)
  | amountRead (goal : Goal) (amount current : Nat)

/-- What a statement of a delivery does. -/
inductive Advance where
  | goesOn (phase : DeliveryPhase)
  | waits
  | ends (result : Except GoalError HandlingStatus)
  | commits (tables : GoalTables) (status : HandlingStatus)

def insertUnallocated (event : BudgetMonthClosedEvent) (reason : UnallocatedReason)
    (status : HandlingStatus) (tables : GoalTables) : Advance :=
  match addUnallocated event reason tables with
  | .error failure => .ends (.error failure)
  | .ok written =>
    if unallocatedExists tables (sourceKeyOf event) then .ends (.error .integrity)
    else .commits written status

def allocationStored (tables : GoalTables) (sourceKey : SourceKey) (goalId : Int) : Bool :=
  tables.allocations.any fun entry => entry.sourceKey = sourceKey && entry.goalId = goalId

/-- The insert into the history; `pending` are the uncommitted allocations. -/
def insertAllocation (event : BudgetMonthClosedEvent) (goal : Goal)
    (pending : List (SourceKey × Int)) (tables : GoalTables) : Advance :=
  match entryAmount event with
  | .error failure => .ends (.error failure)
  | .ok amount =>
    if allocationStored tables (sourceKeyOf event) goal.id then .ends (.error .integrity)
    else if (sourceKeyOf event, goal.id) ∈ pending then .waits
    else .goesOn (.inserted goal amount)

def withAllocation (now : Int) (event : BudgetMonthClosedEvent) (goal : Goal)
    (amount incremented : Nat) (tables : GoalTables) : GoalTables :=
  { tables with
    goals := replace Goal.id tables.goals goal.id fun row =>
      { row with currentAmount := incremented }
    allocations := tables.allocations ++
      [⟨sourceKeyOf event, goal.id, event.payload.accountId, amount⟩]
    outbox := tables.outbox ++ reachedEvents now goal event }

def commitAllocation (now : Int) (event : BudgetMonthClosedEvent) (goal : Goal)
    (amount current : Nat) (tables : GoalTables) : Advance :=
  match incrementedAmount current event.surplus with
  | .error failure => .ends (.error failure)
  | .ok incremented =>
    .commits (withAllocation now event goal amount incremented tables) (.allocated goal.id)

/-- One statement of a delivery. -/
def advance (now : Int) (pending : List (SourceKey × Int)) (tables : GoalTables)
    (event : BudgetMonthClosedEvent) : DeliveryPhase → Advance
  | .received =>
    if event.surplus = .zero then .ends (.ok .ignoredZeroSurplus)
    else if allocationExists tables (sourceKeyOf event) then .ends (.ok .duplicate)
    else .goesOn .notAllocated
  | .notAllocated =>
    if unallocatedExists tables (sourceKeyOf event) then .ends (.ok .duplicate)
    else .goesOn .unrecorded
  | .unrecorded =>
    if fitsInteger event.payload.accountId then
      .goesOn (.goalChosen (getDefaultSavingsGoal tables event.payload.accountId))
    else .ends (.error .database)
  | .goalChosen none => insertUnallocated event .noDefaultGoal .unallocatedNoDefaultGoal tables
  | .goalChosen (some goal) =>
    if isGoalComplete goal then
      insertUnallocated event .goalAlreadyComplete (.unallocatedGoalAlreadyComplete goal.id) tables
    else insertAllocation event goal pending tables
  | .inserted goal amount =>
    match lookup Goal.id tables.goals goal.id with
    | none => .ends (.error (.goalNotFound goal.id))
    | some row => .goesOn (.amountRead goal amount row.currentAmount)
  | .amountRead goal amount current => commitAllocation now event goal amount current tables

structure UpdateRequest where
  goalId : Int
  data : GoalBase
  userId : Int

inductive UpdatePhase where
  | requested
  | owned (ownerId : Int)
  | loaded (ownerId : Int) (row : Goal)

/-- `writeColumn` for an assigned double and a loaded decimal. -/
def writeAmount (loaded assigned stored : Nat) : Nat :=
  if toDouble assigned = fromCents loaded then stored else assigned

def updatedRow (data : GoalBase) (loaded stored : Goal) : Goal :=
  { stored with
    name := writeColumn loaded.name data.name stored.name
    targetAmount := writeAmount loaded.targetAmount data.targetAmount stored.targetAmount
    currentAmount := writeAmount loaded.currentAmount data.currentAmount stored.currentAmount
    targetDate := writeColumn loaded.targetDate data.targetDate stored.targetDate
    status := writeColumn loaded.status data.status stored.status }

def flushUpdate (now : Int) (request : UpdateRequest) (ownerId : Int) (loaded : Goal)
    (tables : GoalTables) : Except GoalError GoalTables :=
  if fitsColumns request.data then
    match lookup Goal.id tables.goals request.goalId with
    | none => .error .database
    | some stored =>
      let updated := updatedRow request.data loaded stored
      .ok { tables with
        goals := replace Goal.id tables.goals request.goalId fun _ => updated
        outbox := tables.outbox ++ [⟨now, .updated (payloadOf updated ownerId)⟩] }
  else .error .database

inductive Session where
  | delivery (event : BudgetMonthClosedEvent) (phase : DeliveryPhase)
  | update (request : UpdateRequest) (phase : UpdatePhase)
  | ended

/-- A committed change of the amount of a goal: what an update assigned, or the
amounts before and after an allocation. -/
inductive Commit where
  | updated (goalId : Int) (assigned : Nat)
  | allocated (goalId : Int) (event : BudgetMonthClosedEvent) (before after : Nat)

structure State where
  tables : GoalTables
  sessions : List Session := []
  opened : Int → Nat := fun _ => 0
  commits : List Commit := []

inductive Label where
  | createGoal (now : Int) (accountPort : AccountPort) (accountId : Int) (data : GoalBase)
      (userId : Int)
  | deleteGoal (now : Int) (accountPort : AccountPort) (goalId userId : Int)
  | setDefaultGoal (now : Int) (accountPort : AccountPort) (goalId userId : Int)
  | clearDefaultGoal (now : Int) (accountPort : AccountPort) (goalId userId : Int)
  | deliver (event : BudgetMonthClosedEvent)
  | requestUpdate (request : UpdateRequest)
  | proceed (index : ℕ) (now : Int) (accountPort : AccountPort)
  | lose (index : ℕ)

/-- The key and goal of an allocation that is inserted and not committed. -/
def Session.pending : Session → Option (SourceKey × Int)
  | .delivery event (.inserted goal _) => some (sourceKeyOf event, goal.id)
  | .delivery event (.amountRead goal _ _) => some (sourceKeyOf event, goal.id)
  | _ => none

def State.setSession (state : State) (index : ℕ) (session : Session) : State :=
  { state with sessions := state.sessions.set index session }

def State.record (state : State) (index : ℕ) (tables : GoalTables) (commits : List Commit) :
    State where
  tables := tables
  sessions := state.sessions.set index .ended
  opened := state.opened
  commits := state.commits ++ commits

/-- What a commit of a delivery changes about amounts. -/
def allocationCommits (event : BudgetMonthClosedEvent) (before after : GoalTables) :
    HandlingStatus → List Commit
  | .allocated goalId =>
    match lookup Goal.id before.goals goalId, lookup Goal.id after.goals goalId with
    | some old, some new => [.allocated goalId event old.currentAmount new.currentAmount]
    | _, _ => []
  | _ => []

def proceedDelivery (state : State) (index : ℕ) (now : Int) (event : BudgetMonthClosedEvent)
    (phase : DeliveryPhase) : State :=
  match advance now (state.sessions.filterMap Session.pending) state.tables event phase with
  | .goesOn next => state.setSession index (.delivery event next)
  | .waits => state
  | .ends _ => state.setSession index .ended
  | .commits tables status =>
    state.record index tables (allocationCommits event state.tables tables status)

def proceedUpdate (state : State) (index : ℕ) (now : Int) (accountPort : AccountPort)
    (request : UpdateRequest) : UpdatePhase → State
  | .requested =>
    match ownedGoal accountPort request.goalId request.userId state.tables with
    | .ok (some (_, ownerId)) => state.setSession index (.update request (.owned ownerId))
    | _ => state.setSession index .ended
  | .owned ownerId =>
    match getById state.tables request.goalId with
    | some row => state.setSession index (.update request (.loaded ownerId row))
    | none => state.setSession index .ended
  | .loaded ownerId row =>
    match flushUpdate now request ownerId row state.tables with
    | .ok tables =>
      state.record index tables [.updated request.goalId request.data.currentAmount]
    | .error _ => state.setSession index .ended

/-- One statement of a session. -/
def proceed (state : State) (index : ℕ) (now : Int) (accountPort : AccountPort) : State :=
  match state.sessions[index]? with
  | some (.delivery event phase) => proceedDelivery state index now event phase
  | some (.update request phase) => proceedUpdate state index now accountPort request phase
  | some .ended => state
  | none => state

def step (state : State) : Label → State
  | .createGoal now accountPort accountId data userId =>
    match createGoal accountPort now accountId data userId state.tables with
    | .ok (tables, goal) =>
      { state with
        tables := tables
        opened := Function.update state.opened goal.id goal.currentAmount }
    | .error _ => state
  | .deleteGoal now accountPort goalId userId =>
    { state with
      tables := stateAfter state.tables (deleteGoal accountPort now goalId userId state.tables) }
  | .setDefaultGoal now accountPort goalId userId =>
    { state with
      tables := stateAfter state.tables
        (setDefaultGoal accountPort now goalId userId state.tables) }
  | .clearDefaultGoal now accountPort goalId userId =>
    { state with
      tables := stateAfter state.tables
        (clearDefaultGoal accountPort now goalId userId state.tables) }
  | .deliver event => { state with sessions := state.sessions ++ [.delivery event .received] }
  | .requestUpdate request =>
    { state with sessions := state.sessions ++ [.update request .requested] }
  | .proceed index now accountPort => proceed state index now accountPort
  | .lose index => state.setSession index .ended

/-- The rest of a delivery whose statements see the given tables, one after the other. -/
def deliver (now : Int) (event : BudgetMonthClosedEvent) (seen : ℕ → GoalTables) :
    ℕ → ℕ → DeliveryPhase → Option (GoalTables × Except GoalError HandlingStatus)
  | 0, _, _ => none
  | fuel + 1, statement, phase =>
    match advance now [] (seen statement) event phase with
    | .goesOn next => deliver now event seen fuel (statement + 1) next
    | .waits => deliver now event seen fuel (statement + 1) phase
    | .ends result => some (seen statement, result)
    | .commits tables status => some (tables, .ok status)

theorem allocation_stored_exists {tables : GoalTables} {sourceKey : SourceKey} {goalId : Int}
    (stored : allocationStored tables sourceKey goalId = true) :
    allocationExists tables sourceKey = true := by
  obtain ⟨entry, member, same⟩ := any_eq_true.mp stored
  rw [Bool.and_eq_true] at same
  exact any_eq_true.mpr ⟨entry, member, same.1⟩

theorem default_goal_stored {tables : GoalTables} {accountId : Int} {goal : Goal}
    (distinct : DistinctKeys Goal.id tables.goals)
    (found : getDefaultSavingsGoal tables accountId = some goal) :
    lookup Goal.id tables.goals goal.id = some goal :=
  (lookup_iff distinct).mpr ⟨mem_of_find?_eq_some found, rfl⟩

theorem replace_stored {goals : List Goal} {goal : Goal} (distinct : DistinctKeys Goal.id goals)
    (stored : lookup Goal.id goals goal.id = some goal) (change : Goal → Goal) :
    replace Goal.id goals goal.id change = replace Goal.id goals goal.id fun _ => change goal := by
  apply map_congr_left
  intro row member
  by_cases here : row.id = goal.id
  · rw [if_pos here, if_pos here,
      inj_on_of_nodup_map distinct member (lookup_mem stored).1 here]
  · rw [if_neg here, if_neg here]

section Alone

variable {now : Int} {event : BudgetMonthClosedEvent} {seen : ℕ → GoalTables} {statement : ℕ}
  {phase : DeliveryPhase} (fuel : ℕ)

theorem deliver_goes_on {next : DeliveryPhase}
    (advanced : advance now [] (seen statement) event phase = .goesOn next) :
    deliver now event seen (fuel + 1) statement phase =
      deliver now event seen fuel (statement + 1) next := by
  rw [deliver, advanced]

theorem deliver_ends {result : Except GoalError HandlingStatus}
    (advanced : advance now [] (seen statement) event phase = .ends result) :
    deliver now event seen (fuel + 1) statement phase = some (seen statement, result) := by
  rw [deliver, advanced]

theorem deliver_commits {tables : GoalTables} {status : HandlingStatus}
    (advanced : advance now [] (seen statement) event phase = .commits tables status) :
    deliver now event seen (fuel + 1) statement phase = some (tables, .ok status) := by
  rw [deliver, advanced]

end Alone

variable {tables written after : GoalTables} {status : HandlingStatus} {goal : Goal}
  {state next : State}

def amountOf (tables : GoalTables) (goalId : Int) : Option Nat :=
  (lookup Goal.id tables.goals goalId).map Goal.currentAmount

def withUnallocated (event : BudgetMonthClosedEvent) (amount : Nat) (reason : UnallocatedReason)
    (tables : GoalTables) : GoalTables :=
  { tables with
    unallocated := tables.unallocated ++
      [⟨sourceKeyOf event, event.payload.accountId, amount, reason⟩] }

/-- What is known of the phase that a delivery goes on to. -/
def Found (tables : GoalTables) (pending : List (SourceKey × Int))
    (event : BudgetMonthClosedEvent) (phase : DeliveryPhase) : DeliveryPhase → Prop
  | .inserted goal amount =>
    phase = .goalChosen (some goal) ∧ entryAmount event = .ok amount ∧
      allocationStored tables (sourceKeyOf event) goal.id = false ∧
        (sourceKeyOf event, goal.id) ∉ pending
  | .amountRead goal amount current =>
    phase = .inserted goal amount ∧ amountOf tables goal.id = some current
  | _ => ∀ goal amount, phase ≠ .inserted goal amount

theorem insert_unallocated_commits {event : BudgetMonthClosedEvent} {reason : UnallocatedReason}
    {outcome : Advance} (inserted : insertUnallocated event reason status tables = outcome) :
    (∃ result, outcome = .ends result) ∨ ∃ amount, entryAmount event = .ok amount ∧
        unallocatedExists tables (sourceKeyOf event) = false ∧
        outcome = .commits (withUnallocated event amount reason tables) status := by
  unfold insertUnallocated addUnallocated at inserted
  cases checked : entryAmount event with
  | error =>
    rw [checked] at inserted
    exact Or.inl ⟨_, inserted.symm⟩
  | ok amount =>
    rw [checked] at inserted
    cases exists_ : unallocatedExists tables (sourceKeyOf event) with
    | true =>
      rw [exists_] at inserted
      exact Or.inl ⟨_, inserted.symm⟩
    | false =>
      rw [exists_] at inserted
      exact Or.inr ⟨amount, rfl, rfl, inserted.symm⟩

theorem advance_goes_on {now : Int} {pending : List (SourceKey × Int)}
    {event : BudgetMonthClosedEvent} {phase next : DeliveryPhase}
    (advanced : advance now pending tables event phase = .goesOn next) :
    Found tables pending event phase next := by
  cases phase with
  | received | notAllocated | unrecorded =>
    simp only [advance] at advanced
    split_ifs at advanced
    cases advanced
    exact nofun
  | goalChosen chosen =>
    cases chosen with
    | none =>
      rcases insert_unallocated_commits advanced with ⟨_, ends⟩ | ⟨_, _, _, commits⟩
      · cases ends
      · cases commits
    | some =>
      simp only [advance] at advanced
      split_ifs at advanced
      · rcases insert_unallocated_commits advanced with ⟨_, ends⟩ | ⟨_, _, _, commits⟩
        · cases ends
        · cases commits
      · unfold insertAllocation at advanced
        cases checked : entryAmount event with
        | error =>
          rw [checked] at advanced
          cases advanced
        | ok =>
          rw [checked] at advanced
          dsimp only at advanced
          split_ifs at advanced with stored waiting
          cases advanced
          exact ⟨rfl, checked, Bool.eq_false_iff.mpr stored, waiting⟩
  | inserted goal =>
    simp only [advance] at advanced
    cases read : lookup Goal.id tables.goals goal.id with
    | none =>
      rw [read] at advanced
      cases advanced
    | some =>
      rw [read] at advanced
      cases advanced
      exact ⟨rfl, by rw [amountOf, read]; rfl⟩
  | amountRead =>
    simp only [advance, commitAllocation] at advanced
    split at advanced
    · cases advanced
    · cases advanced

/-- What a delivery commits. -/
inductive Recorded (now : Int) (tables : GoalTables) (event : BudgetMonthClosedEvent) :
    DeliveryPhase → GoalTables → HandlingStatus → Prop where
  | unallocated (chosen : Option Goal) (amount : Nat) (reason : UnallocatedReason)
      (status : HandlingStatus) (complete : ∀ goal ∈ chosen, isGoalComplete goal = true)
      (checked : entryAmount event = .ok amount)
      (free : unallocatedExists tables (sourceKeyOf event) = false)
      (notAllocated : ∀ goalId, status ≠ .allocated goalId) :
      Recorded now tables event (.goalChosen chosen)
        (withUnallocated event amount reason tables) status
  | allocated (goal : Goal) (amount current incremented : Nat)
      (sum : incrementedAmount current event.surplus = .ok incremented) :
      Recorded now tables event (.amountRead goal amount current)
        (withAllocation now event goal amount incremented tables) (.allocated goal.id)

theorem advance_commits {now : Int} {pending : List (SourceKey × Int)}
    {event : BudgetMonthClosedEvent} {phase : DeliveryPhase}
    (advanced : advance now pending tables event phase = .commits written status) :
    Recorded now tables event phase written status := by
  cases phase with
  | received | notAllocated | unrecorded =>
    simp only [advance] at advanced
    split_ifs at advanced
  | goalChosen chosen =>
    cases chosen with
    | none =>
      rcases insert_unallocated_commits advanced with ⟨_, ends⟩ | ⟨amount, checked, free, commits⟩
      · cases ends
      · cases commits
        exact .unallocated none amount _ _ nofun checked free nofun
    | some goal =>
      simp only [advance] at advanced
      split_ifs at advanced with complete
      · rcases insert_unallocated_commits advanced with
          ⟨_, ends⟩ | ⟨amount, checked, free, commits⟩
        · cases ends
        · cases commits
          exact .unallocated (some goal) amount _ _
            (fun chosen member => Option.mem_some.mp member ▸ complete) checked free nofun
      · unfold insertAllocation at advanced
        split at advanced
        · cases advanced
        · split_ifs at advanced
  | inserted =>
    simp only [advance] at advanced
    split at advanced
    · cases advanced
    · cases advanced
  | amountRead goal amount current =>
    simp only [advance, commitAllocation] at advanced
    split at advanced
    · cases advanced
    · next incremented sum =>
      cases advanced
      exact .allocated goal amount current incremented sum

inductive Moves (state : State) (index : ℕ) (now : Int) : State → Prop where
  | rests : Moves state index now state
  | ends : Moves state index now (state.setSession index .ended)
  | searches (event : BudgetMonthClosedEvent) (phase next : DeliveryPhase)
      (here : state.sessions[index]? = some (.delivery event phase))
      (found : Found state.tables (state.sessions.filterMap Session.pending) event phase next) :
      Moves state index now (state.setSession index (.delivery event next))
  | records (event : BudgetMonthClosedEvent) (phase : DeliveryPhase) (tables : GoalTables)
      (status : HandlingStatus) (here : state.sessions[index]? = some (.delivery event phase))
      (recorded : Recorded now state.tables event phase tables status) :
      Moves state index now
        (state.record index tables (allocationCommits event state.tables tables status))
  | owns (request : UpdateRequest) (ownerId : Int)
      (here : state.sessions[index]? = some (.update request .requested)) :
      Moves state index now (state.setSession index (.update request (.owned ownerId)))
  | loads (request : UpdateRequest) (ownerId : Int) (row : Goal)
      (here : state.sessions[index]? = some (.update request (.owned ownerId)))
      (read : getById state.tables request.goalId = some row) :
      Moves state index now (state.setSession index (.update request (.loaded ownerId row)))
  | updates (request : UpdateRequest) (ownerId : Int) (row : Goal) (tables : GoalTables)
      (here : state.sessions[index]? = some (.update request (.loaded ownerId row)))
      (flushed : flushUpdate now request ownerId row state.tables = .ok tables) :
      Moves state index now
        (state.record index tables [.updated request.goalId request.data.currentAmount])

theorem proceed_moves (state : State) (index : ℕ) (now : Int) (accountPort : AccountPort) :
    Moves state index now (proceed state index now accountPort) := by
  unfold proceed
  cases here : state.sessions[index]? with
  | none => exact .rests
  | some session =>
    cases session with
    | ended => exact .rests
    | delivery event phase =>
      dsimp only [proceedDelivery]
      cases advanced : advance now (state.sessions.filterMap Session.pending) state.tables
          event phase with
      | goesOn next => exact .searches event phase next here (advance_goes_on advanced)
      | waits => exact .rests
      | ends => exact .ends
      | commits tables status =>
        exact .records event phase tables status here (advance_commits advanced)
    | update request phase =>
      cases phase with
      | requested =>
        dsimp only [proceedUpdate]
        split
        · exact .owns request _ here
        · exact .ends
      | owned ownerId =>
        dsimp only [proceedUpdate]
        split
        · next row read => exact .loads request ownerId row here read
        · exact .ends
      | loaded ownerId row =>
        dsimp only [proceedUpdate]
        split
        · next tables flushed => exact .updates request ownerId row tables here flushed
        · exact .ends

/-- The ids of the goals are distinct and were given by the sequence. -/
structure TablesInv (tables : GoalTables) : Prop where
  distinct : DistinctKeys Goal.id tables.goals
  known : ∀ goal ∈ tables.goals, goal.id < tables.nextId

structure SameLedger (before after : GoalTables) : Prop where
  ids : after.goals.map Goal.id = before.goals.map Goal.id
  nextId : after.nextId = before.nextId
  amounts : amountOf after = amountOf before
  allocations : after.allocations = before.allocations
  unallocated : after.unallocated = before.unallocated

theorem same_ledger_refl (tables : GoalTables) : SameLedger tables tables :=
  ⟨rfl, rfl, rfl, rfl, rfl⟩

theorem tables_inv_of_ids {before : GoalTables} (inv : TablesInv before)
    (ids : after.goals.map Goal.id = before.goals.map Goal.id)
    (nextId : after.nextId = before.nextId) : TablesInv after := by
  constructor
  · unfold DistinctKeys
    rw [ids]
    exact inv.distinct
  · intro goal member
    have stored : goal.id ∈ before.goals.map Goal.id := by
      rw [← ids]
      exact mem_map_of_mem member
    obtain ⟨old, oldMember, same⟩ := mem_map.mp stored
    rw [nextId, ← same]
    exact inv.known old oldMember

variable {change : Goal → Goal} {goalId ownerId : Int} {request : UpdateRequest} {loaded : Goal}

theorem same_ledger_map (keepsId : ∀ goal, (change goal).id = goal.id)
    (keepsAmount : ∀ goal, (change goal).currentAmount = goal.currentAmount)
    (goals : after.goals = tables.goals.map change) (nextId : after.nextId = tables.nextId)
    (allocations : after.allocations = tables.allocations)
    (unallocated : after.unallocated = tables.unallocated) : SameLedger tables after := by
  refine ⟨?_, nextId, ?_, allocations, unallocated⟩
  · rw [goals, map_map]
    apply map_congr_left
    intro goal _
    exact keepsId goal
  · funext goalId
    unfold amountOf
    rw [goals, lookup_map keepsId, Option.map_map]
    congr 1
    funext goal
    exact keepsAmount goal

theorem delete_goal_same (accountPort : AccountPort) (now goalId userId : Int)
    (tables : GoalTables) :
    SameLedger tables (stateAfter tables (deleteGoal accountPort now goalId userId tables)) := by
  unfold deleteGoal
  cases owned : ownedGoal accountPort goalId userId tables with
  | error => exact same_ledger_refl tables
  | ok found =>
    cases found with
    | none => exact same_ledger_refl tables
    | some =>
      simp only [bind, Except.bind]
      refine same_ledger_map ?_ ?_ rfl rfl rfl rfl
      · intro _
        split <;> rfl
      · intro _
        split <;> rfl

theorem write_default_goal_same {write : Goal → List Goal → List Goal}
    (changes : ∀ existing goals, ∃ change : Goal → Goal, write existing goals = goals.map change ∧
      (∀ goal, (change goal).id = goal.id) ∧
        ∀ goal, (change goal).currentAmount = goal.currentAmount)
    (accountPort : AccountPort) (now goalId userId : Int) (tables : GoalTables) :
    SameLedger tables
      (stateAfter tables (writeDefaultGoal write accountPort now goalId userId tables)) := by
  unfold writeDefaultGoal
  cases owned : ownedGoal accountPort goalId userId tables with
  | error => exact same_ledger_refl tables
  | ok found =>
    cases found with
    | none => exact same_ledger_refl tables
    | some existing =>
      obtain ⟨_, written, keepsId, keepsAmount⟩ := changes existing.1 tables.goals
      cases read : getById { tables with goals := write existing.1 tables.goals } goalId with
      | none =>
        simp only [bind, Except.bind, read]
        exact same_ledger_refl tables
      | some =>
        simp only [bind, Except.bind, read]
        exact same_ledger_map keepsId keepsAmount written rfl rfl rfl

theorem set_default_goal_same (accountPort : AccountPort) (now goalId userId : Int)
    (tables : GoalTables) :
    SameLedger tables
      (stateAfter tables (setDefaultGoal accountPort now goalId userId tables)) := by
  apply write_default_goal_same
  intro _ _
  refine ⟨_, map_map, ?_, ?_⟩
  · intro _
    dsimp only [Function.comp_apply, clearDefaultOfAccount]
    split_ifs <;> rfl
  · intro _
    dsimp only [Function.comp_apply, clearDefaultOfAccount]
    split_ifs <;> rfl

theorem clear_default_goal_same (accountPort : AccountPort) (now goalId userId : Int)
    (tables : GoalTables) :
    SameLedger tables
      (stateAfter tables (clearDefaultGoal accountPort now goalId userId tables)) := by
  apply write_default_goal_same
  intro _ _
  refine ⟨_, rfl, ?_, ?_⟩
  · intro _
    split <;> rfl
  · intro _
    split <;> rfl

theorem create_goal_opens {accountPort : AccountPort} {now accountId userId : Int} {data : GoalBase}
    (created : createGoal accountPort now accountId data userId tables = .ok (after, goal)) :
    after.goals = tables.goals ++ [goal] ∧ goal.id = tables.nextId ∧
      after.nextId = tables.nextId + 1 ∧ after.allocations = tables.allocations ∧
        after.unallocated = tables.unallocated := by
  unfold createGoal at created
  obtain ⟨ownerId, _, checked⟩ := bind_eq_ok.mp created
  by_cases foreign : ownerId ≠ userId
  · rw [if_pos foreign] at checked
    cases checked
  · rw [if_neg foreign] at checked
    cases fits : fitsColumns data with
    | false =>
      rw [fits] at checked
      cases checked
    | true =>
      rw [fits] at checked
      cases checked
      exact ⟨rfl, rfl, rfl, rfl, rfl⟩

theorem create_goal_inv (inv : TablesInv tables) (goals : after.goals = tables.goals ++ [goal])
    (fresh : goal.id = tables.nextId) (nextId : after.nextId = tables.nextId + 1) :
    TablesInv after := by
  constructor
  · rw [goals]
    apply append_distinct inv.distinct
    intro stored member
    have below := inv.known stored member
    omega
  · rw [goals, nextId]
    intro stored member
    rcases mem_snoc.mp member with old | rfl
    · have below := inv.known stored old
      omega
    · omega

theorem fresh_goal_amount (inv : TablesInv tables) (fresh : goalId = tables.nextId) :
    amountOf tables goalId = none := by
  unfold amountOf
  rw [Option.map_eq_none_iff, lookup_none_iff]
  intro stored member _
  have below := inv.known stored member
  omega

theorem create_goal_amounts (inv : TablesInv tables) (goals : after.goals = tables.goals ++ [goal])
    (fresh : goal.id = tables.nextId) :
    amountOf after = Function.update (amountOf tables) goal.id (some goal.currentAmount) := by
  have unknown : ∀ stored ∈ tables.goals, stored.id ≠ goal.id := by
    intro stored member _
    have below := inv.known stored member
    omega
  funext goalId
  unfold amountOf
  rw [goals, lookup_append unknown, Function.update_apply]
  split <;> rfl

theorem amount_of_replace {amount : Nat}
    (keepsId : ∀ goal ∈ tables.goals, goal.id = goalId → (change goal).id = goal.id)
    (writes : ∀ goal ∈ tables.goals, goal.id = goalId → (change goal).currentAmount = amount)
    (goals : after.goals = replace Goal.id tables.goals goalId change) (other : Int) :
    amountOf after other =
      if other = goalId then (amountOf tables other).map fun _ => amount
      else amountOf tables other := by
  unfold amountOf
  rw [goals, lookup_replace keepsId]
  by_cases here : other = goalId
  · rw [if_pos here, if_pos here]
    cases read : lookup Goal.id tables.goals other with
    | none => rfl
    | some row =>
      obtain ⟨member, same⟩ := lookup_mem read
      simp [writes row member (same.trans here)]
  · rw [if_neg here, if_neg here]

inductive Effect (state : State) : State → Prop where
  | keeps (tables : GoalTables) (same : SameLedger state.tables tables) :
      Effect state { state with tables := tables }
  | opens (tables : GoalTables) (goal : Goal) (goals : tables.goals = state.tables.goals ++ [goal])
      (fresh : goal.id = state.tables.nextId) (nextId : tables.nextId = state.tables.nextId + 1)
      (allocations : tables.allocations = state.tables.allocations)
      (unallocated : tables.unallocated = state.tables.unallocated) :
      Effect state { state with
        tables := tables
        opened := Function.update state.opened goal.id goal.currentAmount }
  | delivers (event : BudgetMonthClosedEvent) :
      Effect state { state with sessions := state.sessions ++ [.delivery event .received] }
  | requests (request : UpdateRequest) :
      Effect state { state with sessions := state.sessions ++ [.update request .requested] }
  | moves (index : ℕ) (now : Int) (next : State) (moved : Moves state index now next) :
      Effect state next

theorem flush_update_writes {now : Int}
    (flushed : flushUpdate now request ownerId loaded tables = .ok written) :
    fitsColumns request.data = true ∧
      ∃ stored, lookup Goal.id tables.goals request.goalId = some stored ∧
        written.goals = replace Goal.id tables.goals request.goalId
          (fun _ => updatedRow request.data loaded stored) ∧
        written.nextId = tables.nextId ∧ written.allocations = tables.allocations ∧
          written.unallocated = tables.unallocated := by
  unfold flushUpdate at flushed
  split_ifs at flushed with fits
  cases read : lookup Goal.id tables.goals request.goalId with
  | none =>
    rw [read] at flushed
    cases flushed
  | some stored =>
    rw [read] at flushed
    cases flushed
    exact ⟨fits, stored, rfl, rfl, rfl, rfl, rfl⟩

theorem recorded_keeps_inv {now : Int} {event : BudgetMonthClosedEvent} {phase : DeliveryPhase}
    (inv : TablesInv tables) (recorded : Recorded now tables event phase written status) :
    TablesInv written := by
  cases recorded with
  | unallocated => exact ⟨inv.distinct, inv.known⟩
  | allocated =>
    refine tables_inv_of_ids inv ?_ rfl
    apply replace_keys
    intro _ _ _
    rfl

theorem flushed_keeps_inv {now : Int} (inv : TablesInv tables)
    (flushed : flushUpdate now request ownerId loaded tables = .ok written) :
    TablesInv written := by
  obtain ⟨_, _, read, goals, nextId, _⟩ := flush_update_writes flushed
  refine tables_inv_of_ids inv ?_ nextId
  rw [goals]
  apply replace_keys
  intro _ _ same
  rw [same]
  exact (lookup_mem read).2

theorem moves_keep_inv {index : ℕ} {now : Int} (inv : TablesInv state.tables)
    (moved : Moves state index now next) :
    TablesInv next.tables := by
  cases moved with
  | rests | ends | searches | owns | loads => exact inv
  | records event phase tables status here recorded => exact recorded_keeps_inv inv recorded
  | updates request ownerId row tables here flushed => exact flushed_keeps_inv inv flushed

theorem effect_keeps_tables_inv (inv : TablesInv state.tables) (effect : Effect state next) :
    TablesInv next.tables := by
  cases effect with
  | keeps tables same => exact tables_inv_of_ids inv same.ids same.nextId
  | opens tables goal goals fresh nextId => exact create_goal_inv inv goals fresh nextId
  | delivers | requests => exact inv
  | moves index now next moved => exact moves_keep_inv inv moved

theorem effect_keeps_sessions (effect : Effect state next) (Holds : Session → Prop)
    (before : ∀ session ∈ state.sessions, Holds session) (ended : Holds .ended)
    (received : ∀ event, Holds (.delivery event .received))
    (requested : ∀ request, Holds (.update request .requested))
    (searched : ∀ event phase found, .delivery event phase ∈ state.sessions →
      Found state.tables (state.sessions.filterMap Session.pending) event phase found →
        Holds (.delivery event found))
    (owned : ∀ request ownerId, Holds (.update request (.owned ownerId)))
    (loaded : ∀ request ownerId row, getById state.tables request.goalId = some row →
      Holds (.update request (.loaded ownerId row))) :
    ∀ session ∈ next.sessions, Holds session := by
  have written : ∀ index session, Holds session →
      ∀ other ∈ state.sessions.set index session, Holds other := by
    intro _ _ holds other member
    rcases mem_or_eq_of_mem_set member with old | rfl
    · exact before other old
    · exact holds
  have added : ∀ session, Holds session → ∀ other ∈ state.sessions ++ [session], Holds other := by
    intro _ holds other member
    rcases mem_snoc.mp member with old | rfl
    · exact before other old
    · exact holds
  cases effect with
  | keeps | opens => exact before
  | delivers event => exact added _ (received event)
  | requests request => exact added _ (requested request)
  | moves index now next moved =>
    cases moved with
    | rests => exact before
    | ends => exact written index _ ended
    | searches event phase found here isFound =>
      exact written index _ (searched event phase found (mem_of_getElem? here) isFound)
    | records => exact written index _ ended
    | owns request ownerId => exact written index _ (owned request ownerId)
    | loads request ownerId row here read => exact written index _ (loaded request ownerId row read)
    | updates => exact written index _ ended

theorem with_allocation_amounts (now : Int) (event : BudgetMonthClosedEvent) (goal : Goal)
    (amount incremented : Nat) (tables : GoalTables) (other : Int) :
    amountOf (withAllocation now event goal amount incremented tables) other =
      if other = goal.id then (amountOf tables other).map fun _ => incremented
      else amountOf tables other := by
  have goals : (withAllocation now event goal amount incremented tables).goals =
    replace Goal.id tables.goals goal.id fun row =>
      { row with currentAmount := incremented } := rfl
  refine amount_of_replace ?_ ?_ goals other
  · exact fun row _ _ => rfl
  · exact fun row _ _ => rfl

/-- The amount of an inserted allocation passed its column. -/
def Session.Checked : Session → Prop
  | .delivery event (.inserted _ amount) => entryAmount event = .ok amount
  | .delivery event (.amountRead _ amount _) => entryAmount event = .ok amount
  | _ => True

theorem effect_keeps_checked (effect : Effect state next)
    (checked : ∀ session ∈ state.sessions, session.Checked) :
    ∀ session ∈ next.sessions, session.Checked := by
  apply effect_keeps_sessions effect Session.Checked checked
  · trivial
  · exact fun event => trivial
  · exact fun request => trivial
  · intro _ _ found member isFound
    cases found with
    | inserted => exact isFound.2.1
    | amountRead =>
      have known := checked _ member
      rw [isFound.1] at known
      exact known
    | received | notAllocated | unrecorded | goalChosen => trivial
  · exact fun request ownerId => trivial
  · exact fun request ownerId row read => trivial

end FinanceTracker.Goal.MonthCloseRuns
