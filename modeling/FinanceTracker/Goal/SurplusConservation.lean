import FinanceTracker.Goal.MonthCloseRuns
import FinanceTracker.Library.Selection

/-!
# Conservation of surpluses

Closed months are handled one at a time between creations, deletions and changes of
the default goal. Every month whose handler returns is recorded with the first
positive surplus delivered for it, in the history or unallocated, and the history of
a goal is what its amount has grown by. A handler that raises, because an amount does
not fit its column, records nothing, and its delivery does not count.
-/

namespace FinanceTracker.Goal.SurplusConservation

open Library Columns Decimals KeyedRows Runs Selection Shared.BudgetEvents Shared.GoalEvents Service
  MonthCloseRuns List

structure CentsClose where
  event : BudgetMonthClosedEvent
  cents : Nat
  isSurplus : event.surplus = .finite (fromCents cents)
  fits : cents < amountLimit

def CentsClose.sourceKey (close : CentsClose) : SourceKey := sourceKeyOf close.event

/-- A delivery that returned, with the tables before and after it. -/
structure Handling where
  now : Int
  close : CentsClose
  before : GoalTables
  after : GoalTables

inductive Label where
  | createGoal (now : Int) (accountPort : AccountPort) (accountId : Int) (data : GoalBase)
      (userId : Int)
  | deleteGoal (now : Int) (accountPort : AccountPort) (goalId userId : Int)
  | setDefaultGoal (now : Int) (accountPort : AccountPort) (goalId userId : Int)
  | clearDefaultGoal (now : Int) (accountPort : AccountPort) (goalId userId : Int)
  | deliver (now : Int) (close : CentsClose)

structure Run where
  tables : GoalTables := {}
  opened : Int → Nat := fun _ => 0
  handlings : List Handling := []

def step (run : Run) : Label → Run
  | .createGoal now accountPort accountId data userId =>
    match createGoal accountPort now accountId data userId run.tables with
    | .ok (tables, goal) =>
      { run with
        tables := tables
        opened := Function.update run.opened goal.id goal.currentAmount }
    | .error _ => run
  | .deleteGoal now accountPort goalId userId =>
    { run with
      tables := stateAfter run.tables (deleteGoal accountPort now goalId userId run.tables) }
  | .setDefaultGoal now accountPort goalId userId =>
    { run with
      tables := stateAfter run.tables (setDefaultGoal accountPort now goalId userId run.tables) }
  | .clearDefaultGoal now accountPort goalId userId =>
    { run with
      tables := stateAfter run.tables
        (clearDefaultGoal accountPort now goalId userId run.tables) }
  | .deliver now close =>
    match handleMonthClosed now close.event run.tables with
    | .ok (tables, _) =>
      { run with
        tables := tables
        handlings := run.handlings ++ [⟨now, close, run.tables, tables⟩] }
    | .error _ => run

/-- Zero surpluses and keys that were kept before are passed over. -/
def passedOver (kept : List (SourceKey × Nat)) (item : SourceKey × Nat) : Bool :=
  item.2 = 0 || kept.any fun earlier => earlier.1 = item.1

def firstSurpluses (surpluses : List (SourceKey × Nat)) : List (SourceKey × Nat) :=
  select passedOver [] surpluses

def surplusOf (close : CentsClose) : SourceKey × Nat := (close.sourceKey, close.cents)

def Run.returned (run : Run) : List (SourceKey × Nat) :=
  run.handlings.map fun handling => surplusOf handling.close

def entriesOf (tables : GoalTables) : List (SourceKey × Nat) :=
  tables.allocations.map (fun entry => (entry.sourceKey, entry.amount)) ++
    tables.unallocated.map (fun entry => (entry.sourceKey, entry.amount))

def totalOf (entries : List (SourceKey × Nat)) : Nat := (entries.map Prod.snd).sum

def allocatedTo (goalId : Int) (tables : GoalTables) : Nat :=
  ((tables.allocations.filter fun entry => entry.goalId = goalId).map Allocation.amount).sum

/-- The event of a goal that goes from below a positive target to at least the target. -/
def crossing (now : Int) (goal : Goal) (accountId : Int) (amount : Nat) : List GoalEvent :=
  if 0 < goal.targetAmount ∧ goal.currentAmount < goal.targetAmount ∧
      goal.targetAmount ≤ goal.currentAmount + amount then
    [⟨now, .reached goal.id accountId goal.name (fromCents goal.targetAmount)
      (fromCents (goal.currentAmount + amount))⟩]
  else []

/-- A delivery adds no allocation and publishes nothing, or it allocates its surplus to a
live goal below its target, and publishes whether the goal has reached it. -/
inductive Accounted (handling : Handling) : Prop where
  | noAllocation (allocations : handling.after.allocations = handling.before.allocations)
      (goals : handling.after.goals = handling.before.goals)
      (outbox : handling.after.outbox = handling.before.outbox)
  | allocation (goal : Goal) (entry : Allocation) (stored : goal ∈ handling.before.goals)
      (live : goal.deleted = false) (below : goal.currentAmount < goal.targetAmount)
      (allocations : handling.after.allocations = handling.before.allocations ++ [entry])
      (toGoal : entry.goalId = goal.id) (amount : entry.amount = handling.close.cents)
      (increment : amountOf handling.after goal.id = some (goal.currentAmount + entry.amount))
      (outbox : handling.after.outbox = handling.before.outbox ++
        crossing handling.now goal entry.accountId entry.amount)

structure Conserved (run : Run) : Prop where
  total : totalOf (entriesOf run.tables) = totalOf (firstSurpluses run.returned)
  increments : ∀ goal ∈ run.tables.goals,
    goal.currentAmount = run.opened goal.id + allocatedTo goal.id run.tables
  handlings : ∀ handling ∈ run.handlings, Accounted handling

theorem cents_zero_iff (close : CentsClose) : close.event.surplus = .zero ↔ close.cents = 0 := by
  rw [close.isSurplus]
  simp [Decimal.zero, fromCents]

theorem cents_entry {close : CentsClose} {amount : Nat}
    (checked : entryAmount close.event = .ok amount) : amount = close.cents := by
  obtain ⟨_, _, surplus, rfl, _, _⟩ := entry_amount_ok_iff.mp checked
  rw [close.isSurplus] at surplus
  cases surplus
  exact to_cents_from_cents close.cents

theorem cents_sum {close : CentsClose} {current incremented : Nat} (positive : 0 < close.cents)
    (sum : incrementedAmount current close.event.surplus = .ok incremented) :
    incremented = current + close.cents ∧ current + close.cents < 10 ^ 28 := by
  rw [close.isSurplus] at sum
  have grown := incremented_amount_grows sum (by rw [to_cents_from_cents]; exact positive)
  obtain ⟨_, _, _, sumFits⟩ := incremented_amount_ok_iff.mp sum
  have fits := close.fits
  have small : current + close.cents < 10 ^ 28 := by
    unfold amountLimit at fits sumFits
    omega
  exact ⟨incremented_whole_cents sum small, small⟩

theorem reached_crossing (now : Int) {goal : Goal} {close : CentsClose}
    (below : goal.currentAmount < goal.targetAmount)
    (small : goal.currentAmount + close.cents < 10 ^ 28) :
    reachedEvents now goal close.event =
      crossing now goal close.event.payload.accountId close.cents := by
  have positive : 0 < fromCents goal.targetAmount ↔ 0 < goal.targetAmount := by
    unfold fromCents
    rw [lt_div_iff₀ (by norm_num), zero_mul, Nat.cast_pos]
  have ordered : fromCents goal.targetAmount ≤ fromCents (goal.currentAmount + close.cents) ↔
      goal.targetAmount ≤ goal.currentAmount + close.cents := by
    unfold fromCents
    rw [div_le_div_iff_of_pos_right (by norm_num), Nat.cast_le]
  unfold reachedEvents crossing
  rw [close.isSurplus]
  dsimp only
  rw [context_round_cents goal.currentAmount close.cents small]
  simp only [positive, ordered, below, true_and]

theorem first_surpluses_snoc (surpluses : List (SourceKey × Nat)) (item : SourceKey × Nat) :
    firstSurpluses (surpluses ++ [item]) = firstSurpluses surpluses ++
      if passedOver (firstSurpluses surpluses) item then [] else [item] := by
  unfold firstSurpluses
  rw [select_append, nil_append]
  rfl

theorem already_handled_iff {tables : GoalTables} {sourceKey : SourceKey} :
    alreadyHandled tables sourceKey = true ↔
      (entriesOf tables).any (fun entry => entry.1 = sourceKey) = true := by
  unfold alreadyHandled allocationExists unallocatedExists entriesOf
  rw [any_append, any_map, any_map]
  rfl

structure ConservationInv (run : Run) : Prop where
  tables : TablesInv run.tables
  entries : (entriesOf run.tables).Perm (firstSurpluses run.returned)
  increments : ∀ goalId amount, amountOf run.tables goalId = some amount →
    amount = run.opened goalId + allocatedTo goalId run.tables
  unopened : ∀ goalId, amountOf run.tables goalId = none → allocatedTo goalId run.tables = 0
  handlings : ∀ handling ∈ run.handlings, Accounted handling

theorem conservation_start : ConservationInv {} where
  tables := ⟨nodup_nil, fun _ member => absurd member not_mem_nil⟩
  entries := List.Perm.refl []
  increments := fun _ _ missing => by cases missing
  unopened := fun _ _ => rfl
  handlings := fun _ member => absurd member not_mem_nil

section Steps

variable {run : Run}

/-- A key is kept exactly while it is recorded. -/
theorem passed_over_iff (inv : ConservationInv run) (close : CentsClose) :
    passedOver (firstSurpluses run.returned) (surplusOf close) = true ↔
      close.cents = 0 ∨ alreadyHandled run.tables close.sourceKey = true := by
  rw [already_handled_iff, inv.entries.any_eq, passedOver, Bool.or_eq_true, decide_eq_true_eq]
  rfl

theorem returned_snoc (now : Int) (close : CentsClose) (tables : GoalTables) :
    ({ run with
        tables := tables
        handlings := run.handlings ++ [⟨now, close, run.tables, tables⟩] } : Run).returned =
      run.returned ++ [surplusOf close] := by
  simp [Run.returned]

variable {tables : GoalTables} {close : CentsClose}

theorem use_case_keeps_inv (inv : ConservationInv run) (same : SameLedger run.tables tables) :
    ConservationInv { run with tables := tables } where
  tables := tables_inv_of_ids inv.tables same.ids same.nextId
  entries := by
    unfold entriesOf
    dsimp only
    rw [same.allocations, same.unallocated]
    exact inv.entries
  increments := by
    unfold allocatedTo
    dsimp only
    rw [same.amounts, same.allocations]
    exact inv.increments
  unopened := by
    unfold allocatedTo
    dsimp only
    rw [same.amounts, same.allocations]
    exact inv.unopened
  handlings := inv.handlings

theorem created_goal_keeps_inv (inv : ConservationInv run) {goal : Goal}
    (goals : tables.goals = run.tables.goals ++ [goal]) (fresh : goal.id = run.tables.nextId)
    (nextId : tables.nextId = run.tables.nextId + 1)
    (allocations : tables.allocations = run.tables.allocations)
    (unallocated : tables.unallocated = run.tables.unallocated) :
    ConservationInv { run with
      tables := tables
      opened := Function.update run.opened goal.id goal.currentAmount } := by
  have amounts := create_goal_amounts inv.tables goals fresh
  have missing := fresh_goal_amount inv.tables fresh
  have history : ∀ goalId, allocatedTo goalId tables = allocatedTo goalId run.tables := by
    intro _
    unfold allocatedTo
    rw [allocations]
  constructor
  · exact create_goal_inv inv.tables goals fresh nextId
  · unfold entriesOf
    dsimp only
    rw [allocations, unallocated]
    exact inv.entries
  · intro goalId amount isAmount
    dsimp only at isAmount ⊢
    rw [amounts] at isAmount
    rw [history]
    by_cases here : goalId = goal.id
    · subst here
      rw [Function.update_self] at isAmount
      cases isAmount
      rw [Function.update_self, inv.unopened _ missing, Nat.add_zero]
    · rw [Function.update_of_ne here] at isAmount
      rw [Function.update_of_ne here]
      exact inv.increments goalId amount isAmount
  · intro goalId isMissing
    dsimp only at isMissing ⊢
    rw [amounts] at isMissing
    rw [history]
    by_cases here : goalId = goal.id
    · rw [here, Function.update_self] at isMissing
      contradiction
    · rw [Function.update_of_ne here] at isMissing
      exact inv.unopened goalId isMissing
  · exact inv.handlings

theorem passed_delivery_keeps_inv (inv : ConservationInv run) (now : Int) (close : CentsClose)
    (passed : close.cents = 0 ∨ alreadyHandled run.tables close.sourceKey = true) :
    ConservationInv { run with
      handlings := run.handlings ++ [⟨now, close, run.tables, run.tables⟩] } where
  tables := inv.tables
  entries := by
    have isPassed := (passed_over_iff inv close).mpr passed
    rw [returned_snoc, first_surpluses_snoc, isPassed, if_pos rfl, append_nil]
    exact inv.entries
  increments := inv.increments
  unopened := inv.unopened
  handlings := by
    refine forall_snoc inv.handlings ?_
    exact .noAllocation rfl rfl rfl

theorem recorded_entries (inv : ConservationInv run) (now : Int) (positive : close.cents ≠ 0)
    (free : alreadyHandled run.tables close.sourceKey = false)
    (entries : (entriesOf tables).Perm (entriesOf run.tables ++ [surplusOf close])) :
    (entriesOf tables).Perm (firstSurpluses ({ run with
      tables := tables
      handlings := run.handlings ++ [⟨now, close, run.tables, tables⟩] } : Run).returned) := by
  have kept : passedOver (firstSurpluses run.returned) (surplusOf close) = false := by
    rw [Bool.eq_false_iff]
    intro passed
    rcases (passed_over_iff inv close).mp passed with zero | recorded
    · exact positive zero
    · rw [free] at recorded
      contradiction
  rw [returned_snoc, first_surpluses_snoc, kept, if_neg Bool.false_ne_true]
  exact entries.trans (inv.entries.append_right _)

theorem unallocated_delivery_keeps_inv (inv : ConservationInv run) (now : Int)
    {reason : UnallocatedReason} (positive : close.cents ≠ 0)
    (free : alreadyHandled run.tables close.sourceKey = false) :
    ConservationInv { run with
      tables := withUnallocated close.event close.cents reason run.tables
      handlings := run.handlings ++
        [⟨now, close, run.tables, withUnallocated close.event close.cents reason run.tables⟩] } where
  tables := ⟨inv.tables.distinct, inv.tables.known⟩
  entries := by
    apply recorded_entries inv now positive free
    simp [entriesOf, withUnallocated, surplusOf, CentsClose.sourceKey]
  increments := inv.increments
  unopened := inv.unopened
  handlings := by
    refine forall_snoc inv.handlings ?_
    exact .noAllocation rfl rfl rfl

theorem allocated_to_allocation (now : Int) (event : BudgetMonthClosedEvent) (goal : Goal)
    (amount incremented : Nat) (tables : GoalTables) (goalId : Int) :
    allocatedTo goalId (withAllocation now event goal amount incremented tables) =
      allocatedTo goalId tables + if goalId = goal.id then amount else 0 := by
  unfold allocatedTo withAllocation
  dsimp only
  rw [filter_append, map_append, sum_append]
  congr 1
  by_cases here : goalId = goal.id
  · simp [here]
  · simp [here, Ne.symm here]

theorem allocated_delivery_keeps_inv (inv : ConservationInv run) (now : Int) {goal : Goal}
    (positive : close.cents ≠ 0) (free : alreadyHandled run.tables close.sourceKey = false)
    (chosen : getDefaultSavingsGoal run.tables close.event.payload.accountId = some goal)
    (below : goal.currentAmount < goal.targetAmount)
    (small : goal.currentAmount + close.cents < 10 ^ 28) :
    ConservationInv { run with
      tables := withAllocation now close.event goal close.cents
        (goal.currentAmount + close.cents) run.tables
      handlings := run.handlings ++ [⟨now, close, run.tables,
        withAllocation now close.event goal close.cents
          (goal.currentAmount + close.cents) run.tables⟩] } := by
  obtain ⟨stored, live⟩ := default_goal_mem chosen
  have amount : amountOf run.tables goal.id = some goal.currentAmount := by
    rw [amountOf, default_goal_stored inv.tables.distinct chosen]
    rfl
  have amounts := with_allocation_amounts now close.event goal close.cents
    (goal.currentAmount + close.cents) run.tables
  have written := amounts goal.id
  rw [if_pos rfl, amount, Option.map_some] at written
  constructor
  · refine tables_inv_of_ids inv.tables ?_ rfl
    apply replace_keys
    intro _ _ _
    rfl
  · apply recorded_entries inv now positive free
    simp only [entriesOf, withAllocation, map_append, map_cons, map_nil, append_assoc]
    apply List.Perm.append_left
    exact perm_append_comm
  · intro goalId current isAmount
    dsimp only at isAmount ⊢
    rw [amounts] at isAmount
    rw [allocated_to_allocation]
    by_cases here : goalId = goal.id
    · subst here
      rw [if_pos rfl, amount, Option.map_some] at isAmount
      cases isAmount
      have before := inv.increments goal.id goal.currentAmount amount
      rw [if_pos rfl]
      omega
    · rw [if_neg here] at isAmount
      rw [if_neg here, Nat.add_zero]
      exact inv.increments goalId current isAmount
  · intro goalId missing
    dsimp only at missing ⊢
    rw [amounts] at missing
    rw [allocated_to_allocation]
    by_cases here : goalId = goal.id
    · rw [if_pos here, here, amount] at missing
      contradiction
    · rw [if_neg here] at missing
      rw [if_neg here, Nat.add_zero]
      exact inv.unopened goalId missing
  · refine forall_snoc inv.handlings ?_
    apply Accounted.allocation goal
      ⟨close.sourceKey, goal.id, close.event.payload.accountId, close.cents⟩ stored live below
    · rfl
    · rfl
    · rfl
    · exact written
    · rw [← reached_crossing now below small]
      rfl

theorem delivery_keeps_inv (inv : ConservationInv run) {now : Int} {status : HandlingStatus}
    (handled : Handled now close.event run.tables tables status) :
    ConservationInv { run with
      tables := tables
      handlings := run.handlings ++ [⟨now, close, run.tables, tables⟩] } := by
  cases handled with
  | ignored zero =>
    exact passed_delivery_keeps_inv inv now close (Or.inl ((cents_zero_iff close).mp zero))
  | duplicate recorded => exact passed_delivery_keeps_inv inv now close (Or.inr recorded)
  | unallocated tables amount reason status notZero free checked writes =>
    rw [cents_entry checked] at writes
    subst writes
    exact unallocated_delivery_keeps_inv inv now (mt (cents_zero_iff close).mpr notZero) free
  | allocated tables goal amount incremented notZero free chosen incomplete checked sum writes =>
    have positive := mt (cents_zero_iff close).mpr notZero
    obtain ⟨added, small⟩ := cents_sum (Nat.pos_of_ne_zero positive) sum
    have below : goal.currentAmount < goal.targetAmount := by
      simpa [isGoalComplete] using incomplete
    have stored := default_goal_stored inv.tables.distinct chosen
    rw [cents_entry checked, added] at writes
    have same : tables = withAllocation now close.event goal close.cents
        (goal.currentAmount + close.cents) run.tables := by
      rw [writes, withAllocation]
      congr 1
      exact (replace_stored inv.tables.distinct stored fun row =>
        { row with currentAmount := goal.currentAmount + close.cents }).symm
    subst same
    exact allocated_delivery_keeps_inv inv now positive free chosen below small

theorem step_keeps_inv (inv : ConservationInv run) (label : Label) :
    ConservationInv (step run label) := by
  cases label with
  | createGoal =>
    dsimp only [step]
    split
    · next tables goal created =>
      obtain ⟨goals, fresh, nextId, allocations, unallocated⟩ := create_goal_opens created
      exact created_goal_keeps_inv inv goals fresh nextId allocations unallocated
    · exact inv
  | deleteGoal now accountPort goalId userId =>
    exact use_case_keeps_inv inv (delete_goal_same accountPort now goalId userId run.tables)
  | setDefaultGoal now accountPort goalId userId =>
    exact use_case_keeps_inv inv
      (set_default_goal_same accountPort now goalId userId run.tables)
  | clearDefaultGoal now accountPort goalId userId =>
    exact use_case_keeps_inv inv
      (clear_default_goal_same accountPort now goalId userId run.tables)
  | deliver =>
    dsimp only [step]
    split
    · next tables status returned =>
      exact delivery_keeps_inv inv (handle_month_closed_handled returned)
    · exact inv

end Steps

theorem conserved_of_inv {run : Run} (inv : ConservationInv run) : Conserved run where
  total := by
    unfold totalOf
    exact (inv.entries.map Prod.snd).sum_eq
  increments := by
    intro goal member
    apply inv.increments
    have stored : lookup Goal.id run.tables.goals goal.id = some goal :=
      (lookup_iff inv.tables.distinct).mpr ⟨member, rfl⟩
    rw [amountOf, stored]
    rfl
  handlings := inv.handlings

def conservationRun (labels : List Label) : Run := runFrom step {} labels

def deliveredSurpluses (labels : List Label) : List (SourceKey × Nat) :=
  labels.filterMap fun label =>
    match label with
    | .deliver _ close => some (surplusOf close)
    | _ => none

def fullGoal : GoalBase where
  name := some "Ferie"
  targetAmount := amountLimit - 1
  currentAmount := amountLimit - 2

def closedMayCents : CentsClose where
  event := closedMay
  cents := 5000
  isSurplus := by
    unfold closedMay closedMonth BudgetMonthClosedEvent.surplus fromCents
    norm_num
  fits := by decide

/-- The goal is one cent short of the largest amount, and the surplus is 50.00. -/
def overflowing : List Label :=
  [.createGoal 1000000 (fun _ => .ok 7) 1 fullGoal 7,
    .setDefaultGoal 2000000 (fun _ => .ok 7) 1 7, .deliver 3000000 closedMayCents]

end FinanceTracker.Goal.SurplusConservation
