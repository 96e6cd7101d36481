import FinanceTracker.Goal.MonthCloseRuns
import FinanceTracker.Library.SerialOrder

/-!
# The amount of a goal under concurrent updates and allocations

An update either writes the amount it was given, or leaves the column alone because
it had loaded the same amount. An allocation writes the amount it has read again plus
the surplus, which is an addition to the row as long as the row still has this amount
at the commit. So the committed operations of a goal have a serial order exactly as
far as no allocation commits a sum from an amount that is no longer on the row.
-/

namespace FinanceTracker.Goal.GoalAmounts

open Library Decimals KeyedRows Runs SerialOrder Shared.BudgetEvents Service MonthCloseRuns List

inductive AmountOperation where
  | update (assigned : Nat)
  | allocate (surplus : Decimal)
  deriving DecidableEq

def applyOperation (current : Nat) : AmountOperation → Nat
  | .update assigned => assigned
  | .allocate surplus => (incrementedAmount current surplus).toOption.getD current

def operationOn (goalId : Int) : Commit → Option AmountOperation
  | .updated updatedId assigned => if updatedId = goalId then some (.update assigned) else none
  | .allocated allocatedId event _ _ =>
    if allocatedId = goalId then some (.allocate event.surplus) else none

def operationsOn (goalId : Int) (commits : List Commit) : List AmountOperation :=
  commits.filterMap (operationOn goalId)

def entryOf : Commit → Option Allocation
  | .updated _ _ => none
  | .allocated goalId event _ _ =>
    (entryAmount event).toOption.map fun amount =>
      ⟨sourceKeyOf event, goalId, event.payload.accountId, amount⟩

/-- Every goal has an amount that its committed operations give in some serial order,
and these operations include every allocation of the history. -/
def Serialisable (state : State) : Prop :=
  state.tables.allocations = state.commits.filterMap entryOf ∧
    ∀ goal ∈ state.tables.goals, Serial applyOperation (state.opened goal.id)
      (operationsOn goal.id state.commits) goal.currentAmount

/-- An allocation that commits a sum has read the amount that the row has now. -/
def FreshAmount (state : State) (label : Label) : Prop :=
  match label with
  | .proceed index _ _ =>
    match state.sessions[index]? with
    | some (.delivery event (.amountRead goal _ current)) =>
      (incrementedAmount current event.surplus).isOk = true →
        amountOf state.tables goal.id = some current
    | _ => True
  | _ => True

instance (state : State) (label : Label) : Decidable (FreshAmount state label) :=
  match label with
  | .proceed index _ _ => by
    unfold FreshAmount
    dsimp only
    exact match state.sessions[index]? with
    | none => isTrue trivial
    | some .ended => isTrue trivial
    | some (.update _ _) => isTrue trivial
    | some (.delivery _ .received) => isTrue trivial
    | some (.delivery _ .notAllocated) => isTrue trivial
    | some (.delivery _ .unrecorded) => isTrue trivial
    | some (.delivery _ (.goalChosen _)) => isTrue trivial
    | some (.delivery _ (.inserted _ _)) => isTrue trivial
    | some (.delivery event (.amountRead goal _ current)) =>
      inferInstanceAs (Decidable ((incrementedAmount current event.surplus).isOk = true →
        amountOf state.tables goal.id = some current))
  | .createGoal .. => isTrue trivial
  | .deleteGoal .. => isTrue trivial
  | .setDefaultGoal .. => isTrue trivial
  | .clearDefaultGoal .. => isTrue trivial
  | .deliver _ => isTrue trivial
  | .requestUpdate _ => isTrue trivial
  | .lose _ => isTrue trivial

def start : State := { tables := {} }

def Loaded (sessions : List Session) (goalId : Int) (read : Nat) : Prop :=
  ∃ request ownerId row, Session.update request (.loaded ownerId row) ∈ sessions ∧
    request.goalId = goalId ∧ row.currentAmount = read

theorem get_by_id_amount {tables : GoalTables} {goalId : Int} {row : Goal}
    (inv : TablesInv tables) (read : getById tables goalId = some row) :
    amountOf tables goalId = some row.currentAmount := by
  have member : row ∈ tables.goals := mem_of_find?_eq_some read
  have selected := List.find?_some read
  rw [Bool.and_eq_true, decide_eq_true_eq] at selected
  have stored : lookup Goal.id tables.goals goalId = some row :=
    (lookup_iff inv.distinct).mpr ⟨member, selected.1⟩
  rw [amountOf, stored]
  rfl

/-- A loaded amount is on the row now, or was loaded before. -/
def Origin (state : State) : Session → Prop
  | .update request (.loaded _ row) =>
    amountOf state.tables request.goalId = some row.currentAmount ∨
      Loaded state.sessions request.goalId row.currentAmount
  | _ => True

theorem loaded_after {state next : State} (inv : TablesInv state.tables)
    (effect : Effect state next) {goalId : Int} {read : Nat}
    (loaded : Loaded next.sessions goalId read) :
    amountOf state.tables goalId = some read ∨ Loaded state.sessions goalId read := by
  have origin : ∀ session ∈ next.sessions, Origin state session := by
    apply effect_keeps_sessions effect (Origin state)
    · intro session member
      cases session with
      | delivery | ended => trivial
      | update request phase =>
        cases phase with
        | requested => trivial
        | owned => trivial
        | loaded ownerId row => exact Or.inr ⟨request, ownerId, row, member, rfl, rfl⟩
    · trivial
    · exact fun event => trivial
    · exact fun request => trivial
    · exact fun event phase found _ _ => trivial
    · exact fun request ownerId => trivial
    · exact fun request ownerId row read => Or.inl (get_by_id_amount inv read)
  obtain ⟨_, _, _, member, rfl, rfl⟩ := loaded
  exact origin _ member

structure AmountsInv (state : State) : Prop where
  tables : TablesInv state.tables
  checked : ∀ session ∈ state.sessions, session.Checked
  history : state.tables.allocations = state.commits.filterMap entryOf
  serial : ∀ goalId current, amountOf state.tables goalId = some current →
    SerialSeeing applyOperation (state.opened goalId) (operationsOn goalId state.commits)
      (Loaded state.sessions goalId) current
  unopened : ∀ goalId, amountOf state.tables goalId = none →
    operationsOn goalId state.commits = [] ∧ ∀ read, ¬ Loaded state.sessions goalId read

theorem amounts_inv_start : AmountsInv start := by
  constructor
  · constructor
    · exact nodup_nil
    · exact fun goal member => absurd member not_mem_nil
  · exact fun session member => absurd member not_mem_nil
  · rfl
  · intro _ _ _
    contradiction
  · intro _ _
    refine ⟨rfl, ?_⟩
    rintro read ⟨request, ownerId, row, member, _⟩
    exact absurd member not_mem_nil

section Steps

variable {state next : State} {goalId now : Int} {current : Nat} {index : ℕ} {tables : GoalTables}

theorem serial_with_loads (inv : AmountsInv state) (effect : Effect state next)
    (amount : amountOf state.tables goalId = some current) :
    SerialSeeing applyOperation (state.opened goalId) (operationsOn goalId state.commits)
      (Loaded next.sessions goalId) current := by
  apply serial_sees_less (serial_reads (inv.serial goalId current amount))
  intro _ loaded
  rcases loaded_after inv.tables effect loaded with now | sooner
  · rw [amount] at now
    exact Or.inl (Option.some.inj now).symm
  · exact Or.inr sooner

theorem unopened_with_loads (inv : AmountsInv state) (effect : Effect state next)
    (missing : amountOf state.tables goalId = none) :
    operationsOn goalId state.commits = [] ∧ ∀ read, ¬ Loaded next.sessions goalId read := by
  obtain ⟨none_, notLoaded⟩ := inv.unopened goalId missing
  refine ⟨none_, ?_⟩
  intro read loaded
  rcases loaded_after inv.tables effect loaded with now | sooner
  · rw [missing] at now
    contradiction
  · exact notLoaded read sooner

/-- A step that commits no operation keeps the invariant when the amounts stay. -/
theorem amounts_inv_of_same (inv : AmountsInv state) (effect : Effect state next)
    (amounts : amountOf next.tables = amountOf state.tables) (opened : next.opened = state.opened)
    (commits : next.commits = state.commits)
    (allocations : next.tables.allocations = state.tables.allocations) : AmountsInv next := by
  refine ⟨effect_keeps_tables_inv inv.tables effect, effect_keeps_checked effect inv.checked,
    ?_, ?_, ?_⟩
  · rw [allocations, commits]
    exact inv.history
  · intro _ _ amount
    rw [opened, commits]
    rw [amounts] at amount
    exact serial_with_loads inv effect amount
  · intro _ missing
    rw [commits]
    rw [amounts] at missing
    exact unopened_with_loads inv effect missing

theorem operations_on_snoc (goalId : Int) (commits : List Commit) (commit : Commit) :
    operationsOn goalId (commits ++ [commit]) =
      operationsOn goalId commits ++ (operationOn goalId commit).toList := by
  unfold operationsOn
  rw [filterMap_append]
  cases isOperation : operationOn goalId commit with
  | none | some => simp [isOperation]

theorem amounts_inv_of_commit (inv : AmountsInv state) (effect : Effect state next) {written : Nat}
    {commit : Commit} {operation : AmountOperation} (opened : next.opened = state.opened)
    (commits : next.commits = state.commits ++ [commit])
    (history : next.tables.allocations = next.commits.filterMap entryOf)
    (here : amountOf state.tables goalId = some current)
    (amounts : ∀ other, amountOf next.tables other =
      if other = goalId then some written else amountOf state.tables other)
    (isOperation : ∀ other, operationOn other commit =
      if other = goalId then some operation else none)
    (serial : SerialSeeing applyOperation (state.opened goalId)
      (operationsOn goalId state.commits ++ [operation]) (Loaded next.sessions goalId) written) :
    AmountsInv next := by
  refine ⟨effect_keeps_tables_inv inv.tables effect, effect_keeps_checked effect inv.checked,
    history, ?_, ?_⟩
  · intro other _ isAmount
    rw [amounts] at isAmount
    rw [opened, commits, operations_on_snoc, isOperation]
    by_cases same : other = goalId
    · subst same
      rw [if_pos rfl] at isAmount ⊢
      cases isAmount
      exact serial
    · rw [if_neg same] at isAmount ⊢
      rw [Option.toList_none, append_nil]
      exact serial_with_loads inv effect isAmount
  · intro other missing
    rw [amounts] at missing
    by_cases same : other = goalId
    · rw [if_pos same] at missing
      contradiction
    · rw [if_neg same] at missing
      rw [commits, operations_on_snoc, isOperation, if_neg same, Option.toList_none, append_nil]
      exact unopened_with_loads inv effect missing

theorem allocation_keeps_amounts {event : BudgetMonthClosedEvent} {phase : DeliveryPhase}
    {status : HandlingStatus} (inv : AmountsInv state)
    (effect : Effect state
      (state.record index tables (allocationCommits event state.tables tables status)))
    (here : state.sessions[index]? = some (.delivery event phase))
    (fresh : ∀ goal amount current, phase = .amountRead goal amount current →
      (incrementedAmount current event.surplus).isOk = true →
        amountOf state.tables goal.id = some current)
    (recorded : Recorded now state.tables event phase tables status) :
    AmountsInv (state.record index tables (allocationCommits event state.tables tables status)) := by
  cases recorded with
  | unallocated chosen amount reason status complete checked free notAllocated =>
    apply amounts_inv_of_same inv effect rfl rfl _ rfl
    have none_ : ∀ after, allocationCommits event state.tables after status = [] := by
      intro _
      cases status with
      | allocated goalId => exact absurd rfl (notAllocated goalId)
      | _ => rfl
    rw [State.record, none_, append_nil]
  | allocated goal amount current incremented sum =>
    have before : amountOf state.tables goal.id = some current := by
      apply fresh goal amount current rfl
      rw [sum]
      rfl
    have checked : entryAmount event = .ok amount :=
      inv.checked _ (mem_of_getElem? here)
    have amounts : ∀ other,
        amountOf (withAllocation now event goal amount incremented state.tables) other =
          if other = goal.id then some incremented else amountOf state.tables other := by
      intro other
      rw [with_allocation_amounts]
      by_cases same : other = goal.id
      · rw [if_pos same, if_pos same, same, before]
        rfl
      · rw [if_neg same, if_neg same]
    have after := amounts goal.id
    rw [if_pos rfl] at after
    have committed : ∃ old new, allocationCommits event state.tables
        (withAllocation now event goal amount incremented state.tables) (.allocated goal.id) =
          [.allocated goal.id event old new] := by
      obtain ⟨old, oldRead, _⟩ := Option.map_eq_some_iff.mp before
      obtain ⟨new, newRead, _⟩ := Option.map_eq_some_iff.mp after
      refine ⟨old.currentAmount, new.currentAmount, ?_⟩
      simp only [allocationCommits, oldRead, newRead]
    obtain ⟨_, _, committed⟩ := committed
    rw [committed] at effect ⊢
    apply amounts_inv_of_commit inv effect rfl rfl _ before amounts
    · intro _
      simp only [operationOn, eq_comm]
      rfl
    · have applied := serial_applies (serial_with_loads inv effect before)
        (.allocate event.surplus)
      rw [applyOperation, sum] at applied
      exact applied
    · simp only [State.record, withAllocation, filterMap_append]
      rw [inv.history]
      simp [entryOf, checked, Except.toOption]

theorem updated_amount (inv : AmountsInv state) {request : UpdateRequest} {ownerId : Int}
    {loaded : Goal} (open_ : Session.update request (.loaded ownerId loaded) ∈ state.sessions)
    (fits : fitsColumns request.data = true)
    (before : amountOf state.tables request.goalId = some current) :
    SerialSeeing applyOperation (state.opened request.goalId)
      (operationsOn request.goalId state.commits ++ [.update request.data.currentAmount])
      (Loaded state.sessions request.goalId)
      (writeAmount loaded.currentAmount request.data.currentAmount current) := by
  have serial := inv.serial request.goalId current before
  unfold writeAmount
  split_ifs with same
  · have column : request.data.currentAmount < amountLimit := by
      simp only [fitsColumns, Bool.and_eq_true, decide_eq_true_eq] at fits
      exact fits.2
    have assigned := to_double_eq_cents column same
    apply serial_unchanged serial ⟨request, ownerId, loaded, open_, rfl, rfl⟩
    exact assigned
  · exact serial_applies serial (.update request.data.currentAmount)

theorem update_keeps_amounts {request : UpdateRequest} {ownerId : Int} {loaded : Goal}
    (inv : AmountsInv state)
    (effect : Effect state
      (state.record index tables [.updated request.goalId request.data.currentAmount]))
    (here : state.sessions[index]? = some (.update request (.loaded ownerId loaded)))
    (flushed : flushUpdate now request ownerId loaded state.tables = .ok tables) :
    AmountsInv
      (state.record index tables [.updated request.goalId request.data.currentAmount]) := by
  obtain ⟨fits, stored, read, goals, _, allocations, _⟩ := flush_update_writes flushed
  have before : amountOf state.tables request.goalId = some stored.currentAmount := by
    rw [amountOf, read]
    rfl
  have amounts : ∀ other, amountOf tables other =
      if other = request.goalId then
        some (writeAmount loaded.currentAmount request.data.currentAmount stored.currentAmount)
      else amountOf state.tables other := by
    intro other
    rw [amount_of_replace _ (fun _ _ _ => rfl) goals]
    · by_cases same : other = request.goalId
      · rw [if_pos same, if_pos same, same, before]
        rfl
      · rw [if_neg same, if_neg same]
    · intro _ _ same
      rw [same]
      exact (lookup_mem read).2
  apply amounts_inv_of_commit inv effect rfl rfl _ before amounts
  · intro _
    simp only [operationOn, eq_comm]
    rfl
  · apply serial_sees_less (updated_amount inv (mem_of_getElem? here) fits before)
    rintro value ⟨other, otherOwner, row, member, isGoal, isRead⟩
    rcases mem_or_eq_of_mem_set member with old | new
    · exact ⟨other, otherOwner, row, old, isGoal, isRead⟩
    · cases new
  · simp only [State.record, filterMap_append]
    rw [allocations, inv.history]
    simp [entryOf]

theorem same_ledger_keeps_amounts (inv : AmountsInv state) (same : SameLedger state.tables tables) :
    AmountsInv { state with tables := tables } :=
  amounts_inv_of_same inv (.keeps tables same) same.amounts rfl rfl same.allocations

theorem opened_goal_keeps_amounts (inv : AmountsInv state) {goal : Goal}
    (goals : tables.goals = state.tables.goals ++ [goal]) (fresh : goal.id = state.tables.nextId)
    (nextId : tables.nextId = state.tables.nextId + 1)
    (allocations : tables.allocations = state.tables.allocations)
    (unallocated : tables.unallocated = state.tables.unallocated) :
    AmountsInv { state with
      tables := tables
      opened := Function.update state.opened goal.id goal.currentAmount } := by
  have effect := Effect.opens tables goal goals fresh nextId allocations unallocated
  have amounts := create_goal_amounts inv.tables goals fresh
  have missing := fresh_goal_amount inv.tables fresh
  obtain ⟨noOperation, notLoaded⟩ := inv.unopened goal.id missing
  refine ⟨effect_keeps_tables_inv inv.tables effect, effect_keeps_checked effect inv.checked,
    ?_, ?_, ?_⟩
  · rw [allocations]
    exact inv.history
  · intro goalId current amount
    dsimp only at amount ⊢
    rw [amounts] at amount
    by_cases here : goalId = goal.id
    · subst here
      rw [Function.update_self] at amount
      cases amount
      rw [Function.update_self, noOperation]
      exact serial_sees_less serial_start fun read loaded => notLoaded read loaded
    · rw [Function.update_of_ne here] at amount
      rw [Function.update_of_ne here]
      exact inv.serial goalId current amount
  · intro goalId missing
    dsimp only at missing ⊢
    rw [amounts] at missing
    by_cases here : goalId = goal.id
    · rw [here, Function.update_self] at missing
      contradiction
    · rw [Function.update_of_ne here] at missing
      exact inv.unopened goalId missing

theorem moves_keep_amounts (inv : AmountsInv state)
    (fresh : ∀ event goal amount current,
      state.sessions[index]? = some (.delivery event (.amountRead goal amount current)) →
        (incrementedAmount current event.surplus).isOk = true →
          amountOf state.tables goal.id = some current) (moved : Moves state index now next) :
    AmountsInv next := by
  have effect := Effect.moves index now next moved
  cases moved with
  | rests => exact inv
  | ends | owns | loads => exact amounts_inv_of_same inv effect rfl rfl rfl rfl
  | searches =>
    exact amounts_inv_of_same inv effect rfl rfl rfl rfl
  | records event phase tables status here recorded =>
    apply allocation_keeps_amounts inv effect here _ recorded
    intro goal amount current isRead
    rw [isRead] at here
    exact fresh event goal amount current here
  | updates request ownerId row tables here flushed =>
    exact update_keeps_amounts inv effect here flushed

theorem step_keeps_amounts {label : Label} (fresh : FreshAmount state label)
    (inv : AmountsInv state) : AmountsInv (step state label) := by
  cases label with
  | createGoal =>
    dsimp only [step]
    split
    · next tables goal created =>
      obtain ⟨goals, isNew, nextId, allocations, unallocated⟩ := create_goal_opens created
      exact opened_goal_keeps_amounts inv goals isNew nextId allocations unallocated
    · exact inv
  | deleteGoal now accountPort goalId userId =>
    exact same_ledger_keeps_amounts inv
      (delete_goal_same accountPort now goalId userId state.tables)
  | setDefaultGoal now accountPort goalId userId =>
    exact same_ledger_keeps_amounts inv
      (set_default_goal_same accountPort now goalId userId state.tables)
  | clearDefaultGoal now accountPort goalId userId =>
    exact same_ledger_keeps_amounts inv
      (clear_default_goal_same accountPort now goalId userId state.tables)
  | deliver event => exact amounts_inv_of_same inv (.delivers event) rfl rfl rfl rfl
  | requestUpdate request => exact amounts_inv_of_same inv (.requests request) rfl rfl rfl rfl
  | proceed index now accountPort =>
    apply moves_keep_amounts inv _ (proceed_moves state index now accountPort)
    intro _ _ _ _ here
    unfold FreshAmount at fresh
    dsimp only at fresh
    rw [here] at fresh
    exact fresh
  | lose index => exact amounts_inv_of_same inv (.moves index 0 _ .ends) rfl rfl rfl rfl

end Steps

theorem serialisable_of_inv {state : State} (inv : AmountsInv state) : Serialisable state := by
  refine ⟨inv.history, ?_⟩
  intro goal member
  have stored : lookup Goal.id state.tables.goals goal.id = some goal :=
    (lookup_iff inv.tables.distinct).mpr ⟨member, rfl⟩
  have amount : amountOf state.tables goal.id = some goal.currentAmount := by
    rw [amountOf, stored]
    rfl
  exact serial_of_seeing (inv.serial goal.id goal.currentAmount amount)

theorem amounts_serialisable (labels : List Label)
    (fresh : AllSteps step FreshAmount start labels) :
    Serialisable (runFrom step start labels) := by
  apply serialisable_of_inv
  apply allowed_run_keeps step _ amounts_inv_start labels fresh
  intro _ _ isFresh inv
  exact step_keeps_amounts isFresh inv

def savingsGoal : GoalBase where
  name := some "Ferie"
  targetAmount := 100000

def twoMonths : List Label :=
  [.createGoal 1000000 (fun _ => .ok 7) 1 savingsGoal 7,
    .setDefaultGoal 2000000 (fun _ => .ok 7) 1 7, .deliver closedMay, .deliver closedJune]

def proceeds (index statements : ℕ) : List Label :=
  List.replicate statements (.proceed index 3000000 fun _ => .ok 7)

def targetUpdated : List Label :=
  twoMonths ++ [.requestUpdate ⟨1, { savingsGoal with targetAmount := 50000 }, 7⟩] ++
    proceeds 2 2 ++ proceeds 0 6 ++ proceeds 2 1 ++ proceeds 1 6

theorem target_updated_serialisable : Serialisable (runFrom step start targetUpdated) :=
  amounts_serialisable targetUpdated (by decide +kernel)

/-- Both months have read the amount before one of them commits its sum. -/
def bothRead : List Label :=
  twoMonths ++ proceeds 0 5 ++ proceeds 1 5 ++ proceeds 0 1 ++ proceeds 1 1

theorem amounts_not_serialisable : ¬ ∀ labels, Serialisable (runFrom step start labels) := by
  intro always
  have saved : (1, 5000) ∈ (runFrom step start bothRead).tables.goals.map (fun goal =>
      (goal.id, goal.currentAmount)) := by
    decide +kernel
  have committed : operationsOn 1 (runFrom step start bothRead).commits =
      List.replicate 2 (.allocate (.finite 50)) := by
    decide +kernel
  have opened : (runFrom step start bothRead).opened 1 = 0 := by
    decide +kernel
  obtain ⟨goal, member, columns⟩ := mem_map.mp saved
  rw [Prod.mk.injEq] at columns
  obtain ⟨_, perm, leads⟩ := (always bothRead).2 goal member
  rw [columns.1, committed, perm_replicate] at perm
  rw [columns.1, columns.2, opened, perm] at leads
  exact absurd leads (by decide +kernel)

end FinanceTracker.Goal.GoalAmounts
