import FinanceTracker.Goal.MonthCloseRuns
import FinanceTracker.Library.Sessions

/-!
# A month is recorded once

Deliveries of one closed month run next to creations, deletions and changes of the
default goal. The two tables have a unique key each, the history one with the goal,
so two deliveries that have both found the key free record it twice when they have
chosen different goals, or one a goal and one none. Where each delivery commits only
while the key is still free, the month is recorded once, with the whole surplus.
-/

namespace FinanceTracker.Goal.AllocatedOnce

open Library Columns KeyedRows Runs List
open Library.Sessions (get_set_cases)
open Shared.BudgetEvents Service MonthCloseRuns

structure MonthStart (event : BudgetMonthClosedEvent) where
  tables : GoalTables
  inv : TablesInv tables
  unhandled : alreadyHandled tables (sourceKeyOf event) = false

def MonthStart.state {event : BudgetMonthClosedEvent} (start : MonthStart event) : State :=
  { tables := start.tables }

/-- Deliveries of the event, and the use cases that change which goals there are and
which is the default. -/
def OfMonth (event : BudgetMonthClosedEvent) : Label → Prop
  | .deliver delivered => delivered = event
  | .requestUpdate _ => False
  | _ => True

instance (event : BudgetMonthClosedEvent) (label : Label) : Decidable (OfMonth event label) :=
  match label with
  | .deliver delivered => inferInstanceAs (Decidable (delivered = event))
  | .requestUpdate _ => isFalse id
  | .createGoal .. => isTrue trivial
  | .deleteGoal .. => isTrue trivial
  | .setDefaultGoal .. => isTrue trivial
  | .clearDefaultGoal .. => isTrue trivial
  | .proceed .. => isTrue trivial
  | .lose _ => isTrue trivial

/-- What a committed allocation has changed about the amount of its goal, in cents. -/
def incrementOf (sourceKey : SourceKey) : Commit → ℤ
  | .updated _ _ => 0
  | .allocated _ event before after =>
    if sourceKeyOf event = sourceKey then (after : ℤ) - before else 0

def goalIncrements (sourceKey : SourceKey) (commits : List Commit) : ℤ :=
  (commits.map (incrementOf sourceKey)).sum

def unallocatedAmount (sourceKey : SourceKey) (tables : GoalTables) : ℕ :=
  ((tables.unallocated.filter fun entry => entry.sourceKey = sourceKey).map
    UnallocatedSurplus.amount).sum

/-- How often the key is recorded, in both tables together. -/
def timesRecorded (sourceKey : SourceKey) (tables : GoalTables) : ℕ :=
  (tables.allocations.filter fun entry => entry.sourceKey = sourceKey).length +
    (tables.unallocated.filter fun entry => entry.sourceKey = sourceKey).length

/-- What the goals and the unallocated surplus have got from the key. -/
def totalOf (sourceKey : SourceKey) (state : State) : ℚ :=
  (goalIncrements sourceKey state.commits : ℚ) / 100 +
    fromCents (unallocatedAmount sourceKey state.tables)

def RecordedOnce (event : BudgetMonthClosedEvent) (state : State) : Prop :=
  timesRecorded (sourceKeyOf event) state.tables ≤ 1 ∧ (totalOf (sourceKeyOf event) state = 0 ∨
      event.surplus = .finite (totalOf (sourceKeyOf event) state))

def WholeCents (event : BudgetMonthClosedEvent) : Prop :=
  match event.surplus with
  | .finite value => fromCents (toCents value) = value
  | _ => False

instance (event : BudgetMonthClosedEvent) : Decidable (WholeCents event) := by
  unfold WholeCents
  split <;> infer_instance

def insertsUnallocated (event : BudgetMonthClosedEvent) (chosen : Option Goal)
    (tables : GoalTables) : Bool :=
  chosen.all isGoalComplete && (entryAmount event).isOk &&
    !unallocatedExists tables (sourceKeyOf event)

def FreeAtCommit (event : BudgetMonthClosedEvent) (state : State) (label : Label) : Prop :=
  match label with
  | .proceed index _ _ =>
    match state.sessions[index]? with
    | some (.delivery _ (.goalChosen chosen)) =>
      insertsUnallocated event chosen state.tables = true →
        alreadyHandled state.tables (sourceKeyOf event) = false ∧ WholeCents event
    | some (.delivery _ (.amountRead _ _ current)) =>
      (incrementedAmount current event.surplus).isOk = true →
        alreadyHandled state.tables (sourceKeyOf event) = false ∧ WholeCents event
    | _ => True
  | _ => True

instance (event : BudgetMonthClosedEvent) (state : State) (label : Label) :
    Decidable (FreeAtCommit event state label) :=
  match label with
  | .proceed index _ _ => by
    unfold FreeAtCommit
    dsimp only
    split <;> infer_instance
  | .createGoal .. => isTrue trivial
  | .deleteGoal .. => isTrue trivial
  | .setDefaultGoal .. => isTrue trivial
  | .clearDefaultGoal .. => isTrue trivial
  | .deliver _ => isTrue trivial
  | .requestUpdate _ => isTrue trivial
  | .lose _ => isTrue trivial

inductive Progress (event : BudgetMonthClosedEvent) (state : State) : Prop where
  | free (unhandled : alreadyHandled state.tables (sourceKeyOf event) = false)
      (increments : goalIncrements (sourceKeyOf event) state.commits = 0)
  | recorded (once : timesRecorded (sourceKeyOf event) state.tables = 1)
      (whole : event.surplus = .finite (totalOf (sourceKeyOf event) state))

section Recording

variable {event : BudgetMonthClosedEvent} {state : State}

theorem unhandled_empty {tables : GoalTables} {sourceKey : SourceKey}
    (unhandled : alreadyHandled tables sourceKey = false) :
    tables.allocations.filter (fun entry => entry.sourceKey = sourceKey) = [] ∧
      tables.unallocated.filter (fun entry => entry.sourceKey = sourceKey) = [] := by
  obtain ⟨notAllocated, notRecorded⟩ := Bool.or_eq_false_iff.mp unhandled
  simp only [allocationExists, unallocatedExists, any_eq_false] at notAllocated notRecorded
  constructor
  · rw [filter_eq_nil_iff]
    exact notAllocated
  · rw [filter_eq_nil_iff]
    exact notRecorded

theorem recorded_once_of_progress (progress : Progress event state) : RecordedOnce event state := by
  cases progress with
  | free unhandled increments =>
    obtain ⟨noAllocation, noEntry⟩ := unhandled_empty unhandled
    unfold RecordedOnce timesRecorded totalOf unallocatedAmount
    rw [noAllocation, noEntry, increments]
    simp [fromCents]
  | recorded once whole => exact ⟨Nat.le_of_eq once, Or.inr whole⟩

theorem increments_snoc (sourceKey : SourceKey) (commits : List Commit) (commit : Commit) :
    goalIncrements sourceKey (commits ++ [commit]) =
      goalIncrements sourceKey commits + incrementOf sourceKey commit := by
  simp [goalIncrements]

theorem whole_cents_amount {amount : Nat} (whole : WholeCents event)
    (checked : entryAmount event = .ok amount) :
    event.surplus = .finite (fromCents amount) ∧ 0 < amount ∧ amount < amountLimit := by
  obtain ⟨_, _, surplus, rfl, positive, fits⟩ := entry_amount_ok_iff.mp checked
  unfold WholeCents at whole
  rw [surplus] at whole
  dsimp only at whole
  rw [whole]
  exact ⟨surplus, positive, fits⟩

theorem progress_of_same {next : State} (progress : Progress event state)
    (allocations : next.tables.allocations = state.tables.allocations)
    (unallocated : next.tables.unallocated = state.tables.unallocated)
    (commits : next.commits = state.commits) : Progress event next := by
  cases progress with
  | free unhandled increments =>
    apply Progress.free
    · unfold alreadyHandled allocationExists unallocatedExists at unhandled ⊢
      rw [allocations, unallocated]
      exact unhandled
    · rw [commits]
      exact increments
  | recorded once whole =>
    apply Progress.recorded
    · unfold timesRecorded at once ⊢
      rw [allocations, unallocated]
      exact once
    · unfold totalOf unallocatedAmount at whole ⊢
      rw [unallocated, commits]
      exact whole

theorem no_increments (progress : Progress event state)
    (unhandled : alreadyHandled state.tables (sourceKeyOf event) = false) :
    goalIncrements (sourceKeyOf event) state.commits = 0 := by
  cases progress with
  | free _ increments => exact increments
  | recorded once =>
    obtain ⟨noAllocation, noEntry⟩ := unhandled_empty unhandled
    unfold timesRecorded at once
    rw [noAllocation, noEntry] at once
    contradiction

theorem progress_unallocated {index : ℕ} {amount : Nat} {reason : UnallocatedReason}
    (progress : Progress event state)
    (unhandled : alreadyHandled state.tables (sourceKeyOf event) = false)
    (whole : WholeCents event) (checked : entryAmount event = .ok amount) :
    Progress event (state.record index (withUnallocated event amount reason state.tables) []) := by
  obtain ⟨noAllocation, noEntry⟩ := unhandled_empty unhandled
  have increments := no_increments progress unhandled
  apply Progress.recorded
  · simp [timesRecorded, State.record, withUnallocated, filter_append, noAllocation, noEntry]
  · rw [(whole_cents_amount whole checked).1]
    simp [totalOf, unallocatedAmount, State.record, withUnallocated, filter_append, noEntry,
      increments]

theorem progress_allocated {index : ℕ} {now : Int} {goal : Goal}
    {amount current incremented : Nat} (progress : Progress event state)
    (unhandled : alreadyHandled state.tables (sourceKeyOf event) = false)
    (whole : WholeCents event) (checked : entryAmount event = .ok amount)
    (sum : incrementedAmount current event.surplus = .ok incremented) :
    Progress event (state.record index
      (withAllocation now event goal amount incremented state.tables)
        [.allocated goal.id event current incremented]) := by
  obtain ⟨noAllocation, noEntry⟩ := unhandled_empty unhandled
  have increments := no_increments progress unhandled
  obtain ⟨surplus, positive, fits⟩ := whole_cents_amount whole checked
  rw [surplus] at sum
  have grown := incremented_amount_grows sum (by rw [to_cents_from_cents]; exact positive)
  obtain ⟨_, _, _, sumFits⟩ := incremented_amount_ok_iff.mp sum
  have added := incremented_whole_cents sum (by unfold amountLimit at fits sumFits; omega)
  apply Progress.recorded
  · simp [timesRecorded, State.record, withAllocation, filter_append, noAllocation, noEntry]
  · rw [surplus]
    simp [totalOf, unallocatedAmount, State.record, withAllocation, noEntry, increments_snoc,
      increments, incrementOf, added, fromCents]

end Recording

def OfEvent (event : BudgetMonthClosedEvent) : Session → Prop
  | .delivery delivered _ => delivered = event
  | .update _ _ => False
  | .ended => True

def ReadsCurrent (tables : GoalTables) : Session → Prop
  | .delivery _ (.amountRead goal _ current) => amountOf tables goal.id = some current
  | _ => True

/-- Two uncommitted allocations are not of the same key and goal. -/
def Exclusive (sessions : List Session) : Prop :=
  ∀ (first second : ℕ) (session other : Session) (pair : SourceKey × Int),
    sessions[first]? = some session → sessions[second]? = some other →
      session.pending = some pair → other.pending = some pair → first = second

structure MonthInv (event : BudgetMonthClosedEvent) (state : State) : Prop where
  tables : TablesInv state.tables
  checked : ∀ session ∈ state.sessions, session.Checked
  ofEvent : ∀ session ∈ state.sessions, OfEvent event session
  current : ∀ session ∈ state.sessions, ReadsCurrent state.tables session
  exclusive : Exclusive state.sessions
  progress : Progress event state

theorem exclusive_set {sessions : List Session} {index : ℕ} {written : Session}
    (exclusive : Exclusive sessions)
    (own : ∀ pair, written.pending = some pair → ∀ (other : ℕ) (session : Session),
      sessions[other]? = some session → session.pending = some pair → other = index) :
    Exclusive (sessions.set index written) := by
  intro first second session other pair isFirst isSecond firstPending secondPending
  rcases get_set_cases isFirst with ⟨firstHere, rfl⟩ | ⟨_, firstBefore⟩
  · rcases get_set_cases isSecond with ⟨secondHere, _⟩ | ⟨_, secondBefore⟩
    · rw [firstHere, secondHere]
    · rw [own pair firstPending second other secondBefore secondPending]
      exact firstHere
  · rcases get_set_cases isSecond with ⟨secondHere, rfl⟩ | ⟨_, secondBefore⟩
    · rw [own pair secondPending first session firstBefore firstPending]
      exact secondHere.symm
    · exact exclusive first second session other pair firstBefore secondBefore firstPending
        secondPending

theorem exclusive_append {sessions : List Session} {added : Session} (exclusive : Exclusive sessions)
    (noPending : added.pending = none) : Exclusive (sessions ++ [added]) := by
  have old : ∀ (position : ℕ) (session : Session) (pair : SourceKey × Int),
      (sessions ++ [added])[position]? = some session → session.pending = some pair →
        sessions[position]? = some session := by
    intro _ _ _ found isPending
    rw [List.getElem?_append] at found
    split_ifs at found with inside
    · exact found
    · rw [mem_singleton.mp (mem_of_getElem? found), noPending] at isPending
      contradiction
  intro first second session other pair isFirst isSecond firstPending secondPending
  exact exclusive first second session other pair (old first session pair isFirst firstPending)
    (old second other pair isSecond secondPending) firstPending secondPending

section Steps

variable {event : BudgetMonthClosedEvent} {state : State} {index : ℕ} {now : Int}
  {tables : GoalTables}

theorem member_set {sessions : List Session} {written : Session} {Holds : Session → Prop}
    (before : ∀ session ∈ sessions, Holds session) (holds : Holds written) :
    ∀ session ∈ sessions.set index written, Holds session := by
  intro session member
  rcases mem_or_eq_of_mem_set member with old | rfl
  · exact before session old
  · exact holds

theorem month_inv_ends (inv : MonthInv event state) (index : ℕ) :
    MonthInv event (state.setSession index .ended) where
  tables := inv.tables
  checked := member_set inv.checked trivial
  ofEvent := member_set inv.ofEvent trivial
  current := member_set inv.current trivial
  exclusive := exclusive_set inv.exclusive nofun
  progress := progress_of_same inv.progress rfl rfl rfl

theorem month_inv_searches (inv : MonthInv event state) {delivered : BudgetMonthClosedEvent}
    {phase found : DeliveryPhase} (here : state.sessions[index]? = some (.delivery delivered phase))
    (isFound : Found state.tables (state.sessions.filterMap Session.pending) delivered phase found) :
    MonthInv event (state.setSession index (.delivery delivered found)) := by
  have effect : Effect state (state.setSession index (.delivery delivered found)) :=
    .moves index 0 _ (.searches delivered phase found here isFound)
  constructor
  · exact inv.tables
  · exact effect_keeps_checked effect inv.checked
  · have isEvent : delivered = event := inv.ofEvent _ (mem_of_getElem? here)
    exact member_set inv.ofEvent isEvent
  · apply member_set inv.current
    cases found with
    | amountRead => exact isFound.2
    | _ => trivial
  · apply exclusive_set inv.exclusive
    intro pair isPending other session isOther otherPending
    cases found with
    | inserted =>
      cases isPending
      have pending := mem_filterMap.mpr
        ⟨session, mem_of_getElem? isOther, otherPending⟩
      exact absurd pending isFound.2.2.2
    | amountRead =>
      rw [isFound.1] at here
      exact inv.exclusive other index session _ pair isOther here otherPending isPending
    | received | notAllocated | unrecorded | goalChosen => cases isPending
  · exact progress_of_same inv.progress rfl rfl rfl

/-- The rows that the other allocations have read stay when one commits. -/
theorem current_after_allocation (inv : MonthInv event state) {goal : Goal}
    {amount current incremented : Nat}
    (here : state.sessions[index]? = some (.delivery event (.amountRead goal amount current))) :
    ∀ session ∈ state.sessions.set index .ended,
      ReadsCurrent (withAllocation now event goal amount incremented state.tables) session := by
  intro session member
  obtain ⟨position, found⟩ := mem_iff_getElem?.mp member
  rcases get_set_cases found with ⟨_, rfl⟩ | ⟨elsewhere, found⟩
  · trivial
  · have old := mem_of_getElem? found
    have read := inv.current session old
    have isEvent := inv.ofEvent session old
    cases session with
    | delivery delivered phase =>
      cases phase with
      | amountRead other =>
        cases isEvent
        have others : other.id ≠ goal.id := by
          intro sameGoal
          apply elsewhere
          symm
          apply inv.exclusive index position _ _ (sourceKeyOf event, goal.id) here found rfl
          rw [← sameGoal]
          rfl
        have kept := with_allocation_amounts now event goal amount incremented state.tables other.id
        rw [if_neg others] at kept
        exact kept.trans read
      | _ => trivial
    | update | ended => trivial

theorem month_inv_records (inv : MonthInv event state) {accountPort : AccountPort}
    {phase : DeliveryPhase} {status : HandlingStatus}
    (here : state.sessions[index]? = some (.delivery event phase))
    (free : FreeAtCommit event state (.proceed index now accountPort))
    (recorded : Recorded now state.tables event phase tables status) :
    MonthInv event
      (state.record index tables (allocationCommits event state.tables tables status)) := by
  have effect : Effect state
      (state.record index tables (allocationCommits event state.tables tables status)) :=
    .moves index now _ (.records event phase tables status here recorded)
  have tablesInv := effect_keeps_tables_inv inv.tables effect
  have checked := effect_keeps_checked effect inv.checked
  have ofEvent : ∀ session ∈ state.sessions.set index .ended, OfEvent event session :=
    member_set inv.ofEvent trivial
  have exclusive : Exclusive (state.sessions.set index .ended) :=
    exclusive_set inv.exclusive nofun
  unfold FreeAtCommit at free
  dsimp only at free
  rw [here] at free
  cases recorded with
  | unallocated chosen amount reason status complete checkedAmount unrecorded notAllocated =>
    have inserts : insertsUnallocated event chosen state.tables = true := by
      have all : chosen.all isGoalComplete = true := by
        cases chosen with
        | none => rfl
        | some goal => exact complete goal rfl
      simp [insertsUnallocated, all, checkedAmount, unrecorded, Except.isOk, Except.toBool]
    obtain ⟨unhandled, whole⟩ := free inserts
    have noCommit : allocationCommits event state.tables
        (withUnallocated event amount reason state.tables) status = [] := by
      cases status with
      | allocated goalId => exact absurd rfl (notAllocated goalId)
      | _ => rfl
    rw [noCommit] at tablesInv checked ⊢
    exact ⟨tablesInv, checked, ofEvent, member_set inv.current trivial, exclusive,
      progress_unallocated inv.progress unhandled whole checkedAmount⟩
  | allocated goal amount current incremented sum =>
    obtain ⟨unhandled, whole⟩ := free (by rw [sum]; rfl)
    have member := mem_of_getElem? here
    have before : amountOf state.tables goal.id = some current := inv.current _ member
    have after := with_allocation_amounts now event goal amount incremented state.tables goal.id
    rw [if_pos rfl, before, Option.map_some] at after
    obtain ⟨_, oldRead, oldAmount⟩ := Option.map_eq_some_iff.mp before
    obtain ⟨_, newRead, newAmount⟩ := Option.map_eq_some_iff.mp after
    have commit : allocationCommits event state.tables
        (withAllocation now event goal amount incremented state.tables) (.allocated goal.id) =
          [.allocated goal.id event current incremented] := by
      simp only [allocationCommits, oldRead, newRead, oldAmount, newAmount]
    rw [commit] at tablesInv checked ⊢
    exact ⟨tablesInv, checked, ofEvent, current_after_allocation inv here, exclusive,
      progress_allocated inv.progress unhandled whole (inv.checked _ member) sum⟩

theorem month_inv_keeps (inv : MonthInv event state) (same : SameLedger state.tables tables) :
    MonthInv event { state with tables := tables } where
  tables := tables_inv_of_ids inv.tables same.ids same.nextId
  checked := inv.checked
  ofEvent := inv.ofEvent
  current := by
    intro session member
    have read := inv.current session member
    unfold ReadsCurrent at read ⊢
    dsimp only
    rw [same.amounts]
    exact read
  exclusive := inv.exclusive
  progress := progress_of_same inv.progress same.allocations same.unallocated rfl

theorem month_inv_opens (inv : MonthInv event state) {goal : Goal}
    (goals : tables.goals = state.tables.goals ++ [goal]) (fresh : goal.id = state.tables.nextId)
    (nextId : tables.nextId = state.tables.nextId + 1)
    (allocations : tables.allocations = state.tables.allocations)
    (unallocated : tables.unallocated = state.tables.unallocated) :
    MonthInv event { state with
      tables := tables
      opened := Function.update state.opened goal.id goal.currentAmount } where
  tables := create_goal_inv inv.tables goals fresh nextId
  checked := inv.checked
  ofEvent := inv.ofEvent
  current := by
    intro session member
    have read := inv.current session member
    cases session with
    | delivery delivered phase =>
      cases phase with
      | amountRead read_ amount current =>
        have amounts := create_goal_amounts inv.tables goals fresh
        have stored : amountOf state.tables read_.id = some current := read
        have others : read_.id ≠ goal.id := by
          intro _
          obtain ⟨row, found, _⟩ := Option.map_eq_some_iff.mp stored
          have known := inv.tables.known row (lookup_mem found).1
          rw [(lookup_mem found).2] at known
          omega
        have kept : amountOf tables read_.id = amountOf state.tables read_.id := by
          rw [amounts, Function.update_of_ne others]
        exact kept.trans stored
      | _ => trivial
    | update | ended => trivial
  exclusive := inv.exclusive
  progress := progress_of_same inv.progress allocations unallocated rfl

theorem month_inv_delivers (inv : MonthInv event state) :
    MonthInv event { state with sessions := state.sessions ++ [.delivery event .received] } := by
  have added : ∀ {Holds : Session → Prop}, (∀ session ∈ state.sessions, Holds session) →
      Holds (.delivery event .received) →
        ∀ session ∈ state.sessions ++ [.delivery event .received], Holds session := by
    intro _ before holds session member
    rcases mem_snoc.mp member with old | rfl
    · exact before session old
    · exact holds
  exact ⟨inv.tables, added inv.checked trivial, added inv.ofEvent rfl, added inv.current trivial,
    exclusive_append inv.exclusive rfl, progress_of_same inv.progress rfl rfl rfl⟩

theorem month_inv_proceeds (inv : MonthInv event state) {accountPort : AccountPort}
    (free : FreeAtCommit event state (.proceed index now accountPort)) {next : State}
    (moved : Moves state index now next) : MonthInv event next := by
  cases moved with
  | rests => exact inv
  | ends => exact month_inv_ends inv index
  | searches delivered phase found here isFound => exact month_inv_searches inv here isFound
  | records delivered phase tables status here recorded =>
    have isEvent : delivered = event := inv.ofEvent _ (mem_of_getElem? here)
    subst isEvent
    exact month_inv_records inv here free recorded
  | owns request ownerId here | loads request ownerId row here => exact (inv.ofEvent _ (mem_of_getElem? here)).elim
  | updates request ownerId row tables here =>
    exact (inv.ofEvent _ (mem_of_getElem? here)).elim

theorem step_keeps_month {label : Label}
    (allowed : FreeAtCommit event state label ∧ OfMonth event label)
    (inv : MonthInv event state) : MonthInv event (step state label) := by
  obtain ⟨free, ofMonth⟩ := allowed
  cases label with
  | createGoal =>
    dsimp only [step]
    split
    · next tables goal created =>
      obtain ⟨goals, fresh, nextId, allocations, unallocated⟩ := create_goal_opens created
      exact month_inv_opens inv goals fresh nextId allocations unallocated
    · exact inv
  | deleteGoal now accountPort goalId userId =>
    exact month_inv_keeps inv (delete_goal_same accountPort now goalId userId state.tables)
  | setDefaultGoal now accountPort goalId userId =>
    exact month_inv_keeps inv (set_default_goal_same accountPort now goalId userId state.tables)
  | clearDefaultGoal now accountPort goalId userId =>
    exact month_inv_keeps inv
      (clear_default_goal_same accountPort now goalId userId state.tables)
  | deliver delivered =>
    have isEvent : delivered = event := ofMonth
    subst isEvent
    exact month_inv_delivers inv
  | requestUpdate => exact ofMonth.elim
  | proceed index now accountPort =>
    exact month_inv_proceeds inv free (proceed_moves state index now accountPort)
  | lose index => exact month_inv_ends inv index

end Steps

theorem month_inv_start {event : BudgetMonthClosedEvent} (start : MonthStart event) :
    MonthInv event start.state where
  tables := start.inv
  checked := fun _ member => absurd member not_mem_nil
  ofEvent := fun _ member => absurd member not_mem_nil
  current := fun _ member => absurd member not_mem_nil
  exclusive := by
    intro _ _ _ _ _ isFirst
    cases isFirst
  progress := .free start.unhandled rfl

def noGoals : MonthStart closedMay where
  tables := {}
  inv := ⟨List.nodup_nil, fun _ member => absurd member List.not_mem_nil⟩
  unhandled := rfl

def goalOf (name : String) : GoalBase where
  name := some name
  targetAmount := 100000

/-- Account 1 has two goals, the first is the default, and a closed month arrives twice. -/
def twoDeliveries : List Label :=
  [.createGoal 1000000 (fun _ => .ok 7) 1 (goalOf "Ferie") 7,
    .createGoal 2000000 (fun _ => .ok 7) 1 (goalOf "Bil") 7,
    .setDefaultGoal 3000000 (fun _ => .ok 7) 1 7, .deliver closedMay, .deliver closedMay]

def proceeds (index statements : ℕ) : List Label :=
  List.replicate statements (.proceed index 4000000 fun _ => .ok 7)

/-- The second delivery waits for the first, which has inserted its allocation. -/
def sameGoal : List Label :=
  twoDeliveries ++ proceeds 1 4 ++ proceeds 0 5 ++ proceeds 1 2 ++ proceeds 0 1

def changedDefault : List Label :=
  twoDeliveries ++ proceeds 0 5 ++ proceeds 1 2 ++
    [.setDefaultGoal 5000000 (fun _ => .ok 7) 2 7] ++ proceeds 1 4 ++ proceeds 0 1

end FinanceTracker.Goal.AllocatedOnce
