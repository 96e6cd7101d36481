import FinanceTracker.Library.Sessions
import FinanceTracker.Goal.ConcurrentGoals

/-!
# The default goal of an account

The partial unique index keeps every view to one default goal per account, and the
deletion clears the flag in its own update. A closed month selects the default goal and
increments it later by its id alone, so that its allocation is committed for a goal
whose deletion came between. From the increment on the row lock keeps deletions out.
-/

namespace FinanceTracker.Goal.DefaultDiscipline

open Library KeyedRows ReadCommitted Runs Sessions Shared.BudgetEvents Service ConcurrentGoals List

/-- Of the committed goals and of those that a transaction sees. -/
def AtMostOneDefault (state : State) : Prop :=
  ∀ viewer accountId, ((state.goals.view viewer).filter (isDefaultOf accountId)).length ≤ 1

def NoDeletedDefault (state : State) : Prop :=
  ∀ viewer, ∀ goal ∈ state.goals.view viewer,
    goal.deleted = true → goal.isDefaultSavingsGoal = false

def NotDeleted (state : State) (goalId : Int) : Prop :=
  ∀ goal ∈ state.goals.view none, goal.id = goalId → goal.deleted = false

instance (state : State) (goalId : Int) : Decidable (NotDeleted state goalId) :=
  inferInstanceAs (Decidable (∀ goal ∈ state.goals.view none, _))

/-- What a step commits to the history is for goals whose deletion was not committed. -/
def AllocatesLive (state next : State) : Prop :=
  ∀ entry ∈ next.allocations.drop state.allocations.length, NotDeleted state entry.goalId

instance (state next : State) : Decidable (AllocatesLive state next) :=
  inferInstanceAs (Decidable (∀ entry ∈ next.allocations.drop state.allocations.length, _))

def Disciplined (state : State) (labels : List Label) : Prop :=
  ∀ before, before <+: labels → AtMostOneDefault (runFrom step state before) ∧
      NoDeletedDefault (runFrom step state before) ∧
      ∀ label, before ++ [label] <+: labels →
        AllocatesLive (runFrom step state before) (step (runFrom step state before) label)

/-- Stored goals that keep the index, with no call under way. -/
structure Start where
  goals : List Goal
  distinct : DistinctKeys Goal.id goals
  oneDefault : ∀ accountId, (goals.filter (isDefaultOf accountId)).length ≤ 1
  noDeletedDefault : ∀ goal ∈ goals, goal.deleted = true → goal.isDefaultSavingsGoal = false
  allocations : List Allocation := []
  unallocated : List UnallocatedSurplus := []

def Start.state (start : Start) : State where
  goals := Table.ofRows start.goals start.distinct
  allocations := start.allocations
  unallocated := start.unallocated

/-- A goal is incremented only while its deletion is not committed. -/
def IncrementsLive (state : State) : Statement → Prop
  | .increment goalId _ => NotDeleted state goalId
  | _ => True

def Undisturbed (state : State) : Label → Prop
  | .proceed party accountPort =>
    ∀ session ∈ state.sessions[party]?,
      blocked state party (nextStatement state party accountPort session).1 = false →
        IncrementsLive state (nextStatement state party accountPort session).1
  | _ => True

instance decidableIncrementsLive (state : State) :
    ∀ statement, Decidable (IncrementsLive state statement)
  | .increment goalId _ => inferInstanceAs (Decidable (NotDeleted state goalId))
  | .reads => isTrue trivial
  | .clearDefaults _ _ => isTrue trivial
  | .setDefault _ => isTrue trivial
  | .clearDefault _ => isTrue trivial
  | .delete _ => isTrue trivial
  | .assign _ _ _ => isTrue trivial
  | .addAllocation _ _ => isTrue trivial
  | .addUnallocated _ => isTrue trivial
  | .commit _ _ => isTrue trivial
  | .rollback => isTrue trivial

instance decidableUndisturbed (state : State) : ∀ label, Decidable (Undisturbed state label)
  | .proceed party _ =>
    inferInstanceAs (Decidable (∀ session ∈ state.sessions[party]?, _ → IncrementsLive _ _))
  | .request _ _ _ => isTrue trivial
  | .deliver _ => isTrue trivial
  | .abort _ => isTrue trivial

def OneDefault (first second : Goal) : Prop :=
  first.accountId = second.accountId → first.isDefaultSavingsGoal = true →
    second.isDefaultSavingsGoal = true → first.id = second.id

/-- A stored version, which is not the default when it is deleted. -/
def Clean (version : Option Goal) : Prop :=
  ∃ goal, version = some goal ∧ (goal.deleted = true → goal.isDefaultSavingsGoal = false)

structure TableInv (table : Table ℕ Goal.id) : Prop where
  every : EveryView OneDefault table
  apart : Apart OneDefault table
  clean : EveryVersion Clean table

theorem one_default_symmetric (first second : Goal) (one : OneDefault first second) :
    OneDefault second first :=
  fun same secondDefault firstDefault => (one same.symm firstDefault secondDefault).symm

theorem is_default_of_iff {accountId : Int} {goal : Goal} : isDefaultOf accountId goal = true ↔
      goal.accountId = accountId ∧ goal.isDefaultSavingsGoal = true := by
  simp [isDefaultOf]

theorem one_default_iff {goals : List Goal} (distinct : DistinctKeys Goal.id goals) :
    (∀ accountId, (goals.filter (isDefaultOf accountId)).length ≤ 1) ↔
      AllRelated OneDefault goals := by
  constructor
  · intro one first firstIn second secondIn same firstDefault secondDefault
    exact (filter_at_most_one_iff distinct _).mp (one first.accountId) first firstIn second secondIn
      (is_default_of_iff.mpr ⟨rfl, firstDefault⟩)
      (is_default_of_iff.mpr ⟨same.symm, secondDefault⟩)
  · intro related _
    apply (filter_at_most_one_iff distinct _).mpr
    intro first firstIn second secondIn firstDefault secondDefault
    obtain ⟨rfl, firstFlag⟩ := is_default_of_iff.mp firstDefault
    obtain ⟨same, secondFlag⟩ := is_default_of_iff.mp secondDefault
    exact related first firstIn second secondIn same.symm firstFlag secondFlag

theorem at_most_one_default {state : State} (inv : TableInv state.goals) :
    AtMostOneDefault state :=
  fun viewer => (one_default_iff view_distinct).mpr (inv.every viewer)

theorem no_deleted_default {state : State} (inv : TableInv state.goals) :
    NoDeletedDefault state := by
  intro _ _ shown deleted
  obtain ⟨_, same, clean⟩ := view_good inv.clean shown
  cases same
  exact clean deleted

theorem view_of_rows {goals : List Goal} (distinct : DistinctKeys Goal.id goals)
    (viewer : Option ℕ) :
    (Table.ofRows goals distinct : Table ℕ Goal.id).view viewer = goals := by
  unfold Table.view Table.ofRows
  rw [filterMap_map]
  exact filterMap_some

theorem start_table_inv (start : Start) : TableInv start.state.goals := by
  constructor
  · intro _
    unfold Start.state
    rw [view_of_rows]
    exact (one_default_iff start.distinct).mp start.oneDefault
  · intro _ _ _ _ held
    obtain ⟨_, member, pending⟩ := mem_held.mp held
    obtain ⟨_, _, rfl⟩ := mem_map.mp member
    cases pending
  · intro _ member
    obtain ⟨goal, isGoal, rfl⟩ := mem_map.mp member
    refine ⟨⟨goal, rfl, start.noDeletedDefault goal isGoal⟩, ?_⟩
    intro _ _ nothing
    cases nothing

section Statements

variable {state : State} {table : Table ℕ Goal.id} {party : ℕ} {wanted : Goal → Bool}
  {change : Goal → Goal} {goal other : Goal} {statement : Statement}

theorem write_goals_inv (inv : TableInv table) (keeps : ∀ goal, (change goal).id = goal.id)
    (free : table.blocked party wanted = false)
    (account : ∀ goal, (change goal).accountId = goal.accountId)
    (flag : ∀ goal, (change goal).isDefaultSavingsGoal = true → goal.isDefaultSavingsGoal = true)
    (deleted : ∀ goal, (change goal).deleted = true →
      goal.deleted = true ∨ (change goal).isDefaultSavingsGoal = false) :
    TableInv (writeGoals table party wanted change keeps) := by
  have weakens : Weakens OneDefault fun goal => some (change goal) := by
    intro old _ _ changed one
    cases changed
    intro same nextDefault otherDefault
    rw [keeps]
    exact one ((account old).symm.trans same) (flag old nextDefault) otherDefault
  constructor
  · exact weakening_every_view one_default_symmetric weakens inv.every free
  · exact weakening_apart one_default_symmetric weakens inv.every inv.apart free
  · apply write_every_version inv.clean
    intro old _ ⟨goal, same, clean⟩
    cases same
    refine ⟨change old, rfl, ?_⟩
    intro deletedNow
    rcases deleted old deletedNow with before | cleared
    · apply eq_false_of_ne_true
      intro isDefault
      exact absurd (flag old isDefault) (by simp [clean before])
    · exact cleared

variable {goalId : Int} {old : Goal}

theorem get_by_id_seen (shown : goal ∈ state.goals.view (some party))
    (live : isLive goalId goal = true) : getById (state.seenBy party) goalId = some goal := by
  obtain ⟨found, isFound⟩ : ∃ found, getById (state.seenBy party) goalId = some found :=
    Option.isSome_iff_exists.mp (List.find?_isSome.mpr ⟨goal, shown, live⟩)
  have foundShown := mem_of_find?_eq_some isFound
  have foundLive := List.find?_some isFound
  unfold isLive at live
  simp only [Bool.and_eq_true, decide_eq_true_eq] at live foundLive
  rw [isFound, inj_on_of_nodup_map view_distinct foundShown shown
    (foundLive.1.trans live.1.symm)]

theorem is_live_id (live : isLive goalId goal = true) :
    goal.id = goalId ∧ goal.deleted = false := by
  simpa [isLive] using live

theorem one_default_beside (here : old.id = goalId)
    (notOther : isOtherDefault old.accountId goalId other = false) :
    OneDefault { old with isDefaultSavingsGoal := true } other := by
  intro same _ otherDefault
  by_contra different
  have elsewhere : other.id ≠ goalId := fun there => different (here.trans there.symm)
  have account : other.accountId = old.accountId := same.symm
  simp [isOtherDefault, isDefaultOf, otherDefault, elsewhere, account] at notOther

theorem no_other_seen (accepted : refused state party (.setDefault goalId) = none)
    (shown : old ∈ state.goals.view (some party)) (live : isLive goalId old = true)
    (otherShown : other ∈ state.goals.view (some party)) :
    isOtherDefault old.accountId goalId other = false := by
  unfold refused at accepted
  dsimp only at accepted
  rw [get_by_id_seen shown live] at accepted
  dsimp only at accepted
  split at accepted
  · cases accepted
  · next noneThere =>
    apply eq_false_of_ne_true
    intro isOther
    exact noneThere (any_eq_true.mpr ⟨other, otherShown, isOther⟩)

/-- Nobody else has written a default goal of the account. -/
theorem no_other_held (free : indexBlocked state party goalId = false) {theirs : Goal}
    (shown : old ∈ state.goals.view (some party)) (live : isLive goalId old = true)
    (held : theirs ∈ state.goals.heldByOthers party) :
    isOtherDefault old.accountId goalId theirs = false := by
  unfold indexBlocked at free
  rw [get_by_id_seen shown live] at free
  obtain ⟨owner, others, theirsHeld⟩ := mem_held_by_others.mp held
  obtain ⟨stored, member, pending⟩ := mem_held.mp theirsHeld
  have locked : stored.isLockedFor party = true := by
    simp [Versioned.isLockedFor, pending, others]
  have noneThere := any_eq_false.mp free stored member
  rw [locked, Bool.true_and] at noneThere
  apply eq_false_of_ne_true
  intro isOther
  exact noneThere
    (any_eq_true.mpr ⟨theirs, mem_versions.mpr (Or.inr ⟨owner, pending⟩), isOther⟩)

theorem set_default_inv (inv : TableInv state.goals)
    (free : blocked state party (.setDefault goalId) = false)
    (accepted : refused state party (.setDefault goalId) = none) :
    TableInv (setDefault state.goals party goalId) := by
  obtain ⟨rowFree, indexFree⟩ := Bool.or_eq_false_iff.mp free
  unfold setDefault writeGoals
  constructor
  · rw [write_every_view_iff inv.every rowFree, view_write_owner]
    intro first firstShown second secondShown
    obtain ⟨oldFirst, firstBefore, firstWritten⟩ := mem_filterMap.mp firstShown
    obtain ⟨oldSecond, secondBefore, secondWritten⟩ := mem_filterMap.mp secondShown
    by_cases firstLive : isLive goalId oldFirst = true
    · rw [if_pos firstLive] at firstWritten
      cases firstWritten
      by_cases secondLive : isLive goalId oldSecond = true
      · rw [if_pos secondLive] at secondWritten
        cases secondWritten
        exact fun _ _ _ => (is_live_id firstLive).1.trans (is_live_id secondLive).1.symm
      · rw [if_neg secondLive] at secondWritten
        cases secondWritten
        exact one_default_beside (is_live_id firstLive).1
          (no_other_seen accepted firstBefore firstLive secondBefore)
    · rw [if_neg firstLive] at firstWritten
      cases firstWritten
      by_cases secondLive : isLive goalId oldSecond = true
      · rw [if_pos secondLive] at secondWritten
        cases secondWritten
        exact one_default_symmetric _ _ (one_default_beside (is_live_id secondLive).1
          (no_other_seen accepted secondBefore secondLive firstBefore))
      · rw [if_neg secondLive] at secondWritten
        cases secondWritten
        exact inv.every (some party) first firstBefore second secondBefore
  · apply write_apart one_default_symmetric inv.apart
    intro _ shown live _ written _ held
    cases written
    exact one_default_beside (is_live_id live).1 (no_other_held indexFree shown live held)
  · apply write_every_version inv.clean
    intro _ live _
    refine ⟨_, rfl, ?_⟩
    intro deleted
    exact absurd deleted (by simp [(is_live_id live).2])

theorem execute_table_inv (inv : TableInv state.goals)
    (free : blocked state party statement = false) (accepted : refused state party statement = none) :
    TableInv (execute state party statement).goals := by
  cases statement with
  | reads | addAllocation | addUnallocated => exact inv
  | clearDefaults =>
    refine write_goals_inv inv ?_ (blocked_narrow ?_ free) ?_ ?_ ?_
    · exact fun _ => rfl
    · exact fun goal wanted => (Bool.and_eq_true_iff.mp wanted).1
    · exact fun _ => rfl
    · exact fun _ => nofun
    · exact fun _ _ => Or.inr rfl
  | setDefault => exact set_default_inv inv free accepted
  | clearDefault | delete =>
    refine write_goals_inv inv ?_ free ?_ ?_ ?_
    · exact fun _ => rfl
    · exact fun _ => rfl
    · exact fun _ => nofun
    · exact fun _ _ => Or.inr rfl
  | assign | increment =>
    refine write_goals_inv inv ?_ free ?_ ?_ ?_
    · exact fun _ => rfl
    · exact fun _ => rfl
    · exact fun _ same => same
    · exact fun _ same => Or.inl same
  | commit =>
    refine ⟨?_, commit_apart inv.apart, commit_every_version inv.clean⟩
    apply (commit_every_view_iff one_default_symmetric inv.every).mpr
    intro mine held theirs theirsHeld
    obtain ⟨owner, others, ownerHeld⟩ := mem_held_by_others.mp theirsHeld
    exact inv.apart party owner (Ne.symm others) mine held theirs ownerHeld
  | rollback =>
    exact ⟨rollback_every_view inv.every, rollback_apart inv.apart,
      rollback_every_version inv.clean⟩

/-- A party has written the goal, and its deletion is not committed. -/
def LockedLive (table : Table ℕ Goal.id) (party : ℕ) (goalId : Int) : Prop :=
  ∀ stored ∈ table.rows, stored.id = goalId → (∃ version, stored.pending = some (party, version)) ∧
      ∀ goal, stored.committed = some goal → goal.deleted = false

/-- A statement changes rows in place, and none that others have written. -/
structure Changes (party : ℕ) (table next : Table ℕ Goal.id)
    (change : Versioned ℕ Int Goal → Versioned ℕ Int Goal) : Prop where
  rows : next.rows = table.rows.map change
  ids : ∀ stored, (change stored).id = stored.id
  leaves : ∀ stored ∈ table.rows, ∀ owner version, stored.pending = some (owner, version) →
    owner ≠ party → change stored = stored

theorem write_goals_changes (keeps : ∀ goal, (change goal).id = goal.id)
    (free : table.blocked party wanted = false) :
    ∃ rowChange, Changes party table (writeGoals table party wanted change keeps) rowChange := by
  refine ⟨_, rfl, write_id party wanted _, ?_⟩
  intro _ member _ _ held others
  exact table_write_leaves_locked free member held others

theorem execute_changes (free : blocked state party statement = false) :
    ∃ rowChange, Changes party state.goals (execute state party statement).goals rowChange := by
  have same : ∃ rowChange, Changes party state.goals state.goals rowChange :=
    ⟨id, (map_id _).symm, fun _ => rfl, fun _ _ _ _ _ _ => rfl⟩
  cases statement with
  | reads | addAllocation | addUnallocated => exact same
  | clearDefaults =>
    refine write_goals_changes ?_ (blocked_narrow ?_ free)
    · exact fun _ => rfl
    · exact fun goal wanted => (Bool.and_eq_true_iff.mp wanted).1
  | setDefault =>
    refine write_goals_changes ?_ (Bool.or_eq_false_iff.mp free).1
    exact fun _ => rfl
  | clearDefault | delete | assign | increment =>
    refine write_goals_changes ?_ free
    exact fun _ => rfl
  | commit =>
    refine ⟨_, rfl, commit_id party, ?_⟩
    intro _ _ _ _ held others
    exact commit_leaves_locked held others
  | rollback =>
    refine ⟨_, rfl, rollback_id party, ?_⟩
    intro _ _ _ _ held others
    exact rollback_leaves_locked held others

theorem locked_live_changes {next : Table ℕ Goal.id} {owner : ℕ}
    (locked : LockedLive table owner goalId) (others : owner ≠ party)
    (changes : ∃ rowChange, Changes party table next rowChange) : LockedLive next owner goalId := by
  obtain ⟨_, changes⟩ := changes
  intro _ member here
  rw [changes.rows] at member
  obtain ⟨stored, old, rfl⟩ := mem_map.mp member
  rw [changes.ids] at here
  obtain ⟨⟨version, held⟩, live⟩ := locked stored old here
  rw [changes.leaves stored old owner version held others]
  exact ⟨⟨version, held⟩, live⟩

theorem increment_locks (inv : TableInv state.goals) {incremented : Nat}
    (live : NotDeleted state goalId) :
    LockedLive (increment state.goals party goalId incremented) party goalId := by
  intro _ member here
  obtain ⟨stored, old, rfl⟩ := mem_map.mp member
  rw [write_id] at here
  obtain ⟨goal, seen, _⟩ := every_seen (inv.clean stored old) (some party)
  have wanted : hasId goalId goal = true := by
    have sameId := state.goals.labelled stored old goal (seen_version seen)
    simp [hasId, sameId, here]
  unfold Versioned.write
  rw [seen]
  dsimp only
  rw [if_pos wanted]
  refine ⟨⟨_, rfl⟩, ?_⟩
  intro committed isCommitted
  have shown : committed ∈ state.goals.view none := by
    refine mem_view.mpr ⟨stored, old, ?_⟩
    unfold Versioned.seenBy
    split
    · exact isCommitted
    · exact isCommitted
  apply live committed shown
  rw [state.goals.labelled stored old committed (mem_versions.mpr (Or.inl isCommitted))]
  exact here

theorem locked_live_not_deleted (locked : LockedLive state.goals party goalId) :
    NotDeleted state goalId := by
  intro goal shown here
  obtain ⟨stored, member, seen⟩ := mem_view.mp shown
  have sameId := state.goals.labelled stored member goal (seen_version seen)
  apply (locked stored member (sameId.symm.trans here)).2
  unfold Versioned.seenBy at seen
  split at seen
  · exact seen
  · exact seen

end Statements

section Sessions

variable {state : State} {party : ℕ} {accountPort : AccountPort}

/-- What a statement commits to the history. -/
def committedAllocations : Statement → List Allocation
  | .commit allocations _ => allocations
  | _ => []

def NotIncremented : Session → Prop
  | .monthClose _ (.incremented _ _) => False
  | _ => True

def Quiet (moved : Statement × Session) : Prop :=
  committedAllocations moved.1 = [] ∧ NotIncremented moved.2

theorem next_request_quiet (request : Request) (goalId userId : Int) (phase : RequestPhase) :
    Quiet (nextRequest state party accountPort request goalId userId phase) := by
  cases phase with
  | requested | loaded | written =>
    unfold nextRequest
    dsimp only
    split <;> exact ⟨rfl, trivial⟩
  | owned =>
    unfold nextRequest
    dsimp only
    cases request with
    | setDefaultGoal => exact ⟨rfl, trivial⟩
    | clearDefaultGoal => exact ⟨rfl, trivial⟩
    | deleteGoal =>
      dsimp only
      split <;> exact ⟨rfl, trivial⟩
    | updateGoal =>
      dsimp only
      split <;> exact ⟨rfl, trivial⟩
  | clearing | cleared | answered => exact ⟨rfl, trivial⟩

theorem next_unallocated_quiet (event : BudgetMonthClosedEvent) (reason : UnallocatedReason)
    (status : HandlingStatus) : Quiet (nextUnallocated event reason status) := by
  unfold nextUnallocated
  split <;> exact ⟨rfl, trivial⟩

/-- What a delivery does next: it commits an allocation after its increment, and comes
there by it. -/
inductive NextClose (event : BudgetMonthClosedEvent) : ClosePhase → Statement × Session → Prop
  | quiet (phase : ClosePhase) (moved : Statement × Session) (quiet : Quiet moved) :
      NextClose event phase moved
  | increments (goal : Goal) (amount current incremented : Nat) :
      NextClose event (.amountRead goal amount current)
        (.increment goal.id incremented, .monthClose event (.incremented goal amount))
  | commits (goal : Goal) (amount : Nat) :
      NextClose event (.incremented goal amount)
        (.commit [⟨sourceKeyOf event, goal.id, event.payload.accountId, amount⟩] [],
          .ended (.handled (.allocated goal.id)))

theorem next_close_cases (event : BudgetMonthClosedEvent) (phase : ClosePhase) :
    NextClose event phase (nextClose state party event phase) := by
  cases phase with
  | received | notAllocated | unrecorded =>
    apply NextClose.quiet
    unfold nextClose
    dsimp only
    split_ifs <;> exact ⟨rfl, trivial⟩
  | goalChosen chosen =>
    apply NextClose.quiet
    cases chosen with
    | none => exact next_unallocated_quiet event _ _
    | some =>
      unfold nextClose
      dsimp only
      split_ifs
      · exact next_unallocated_quiet event _ _
      · split <;> exact ⟨rfl, trivial⟩
  | surplusAdded => exact .quiet _ _ ⟨rfl, trivial⟩
  | allocationAdded =>
    apply NextClose.quiet
    unfold nextClose
    dsimp only
    split <;> exact ⟨rfl, trivial⟩
  | amountRead goal amount current =>
    unfold nextClose
    dsimp only
    split
    · exact .quiet _ _ ⟨rfl, trivial⟩
    · exact .increments goal amount current _
  | incremented goal amount => exact .commits goal amount

theorem next_statement_cases (state : State) (party : ℕ) (accountPort : AccountPort)
    (session : Session) :
    Quiet (nextStatement state party accountPort session) ∨
      ∃ event phase, session = .monthClose event phase ∧
        NextClose event phase (nextStatement state party accountPort session) := by
  cases session with
  | ended => exact Or.inl ⟨rfl, trivial⟩
  | request request goalId userId phase =>
    exact Or.inl (next_request_quiet request goalId userId phase)
  | monthClose event phase => exact Or.inr ⟨event, phase, rfl, next_close_cases event phase⟩

end Sessions

section Steps

variable {state : State} {party : ℕ}

structure Inv (state : State) : Prop where
  table : TableInv state.goals
  locked : ∀ party event goal amount,
    state.sessions[party]? = some (.monthClose event (.incremented goal amount)) →
      LockedLive state.goals party goal.id

/-- What a step does. -/
inductive Effect (state : State) : Label → State → Prop
  | rests (label : Label) : Effect state label state
  | begins (label : Label) (session : Session) (new : NotIncremented session) :
      Effect state label { state with sessions := state.sessions ++ [session] }
  | ends (label : Label) (party : ℕ) (outcome : Outcome) :
      Effect state label ((execute state party .rollback).setSession party (.ended outcome))
  | executes (party : ℕ) (accountPort : AccountPort) (session : Session) (statement : Statement)
      (next : Session) (here : state.sessions[party]? = some session)
      (isNext : nextStatement state party accountPort session = (statement, next))
      (free : blocked state party statement = false)
      (accepted : refused state party statement = none) :
      Effect state (.proceed party accountPort)
        ((execute state party statement).setSession party next)

theorem step_effect (state : State) (label : Label) : Effect state label (step state label) := by
  cases label with
  | request | deliver => exact .begins _ _ trivial
  | proceed party accountPort =>
    unfold step
    dsimp only
    split
    · exact .rests _
    · next session here =>
      unfold proceed
      split
      next statement next isNext =>
        split
        · exact .rests _
        · next free =>
          split
          · exact .ends _ party _
          · next accepted =>
            exact .executes party accountPort session statement next here isNext
              (eq_false_of_ne_true free) accepted
  | abort party =>
    unfold step
    dsimp only
    split
    · exact .rests _
    · unfold abort
      split
      · exact .rests _
      · exact .ends _ party _

theorem rollback_table_inv (inv : TableInv state.goals) :
    TableInv (execute state party .rollback).goals := execute_table_inv inv rfl rfl

theorem step_table_inv (inv : TableInv state.goals) (label : Label) :
    TableInv (step state label).goals := by
  have effect := step_effect state label
  generalize step state label = next at effect
  cases effect with
  | rests | begins => exact inv
  | ends => exact rollback_table_inv inv
  | executes party accountPort session statement next here isNext free accepted =>
    exact execute_table_inv inv free accepted

/-- The other deliveries keep their locks while one session goes on. -/
theorem set_session_inv {executed : State} {next : Session} (inv : Inv state)
    (table : TableInv executed.goals) (sameSessions : executed.sessions = state.sessions)
    (changes : ∃ rowChange, Changes party state.goals executed.goals rowChange)
    (here : ∀ event goal amount, next = .monthClose event (.incremented goal amount) →
      LockedLive executed.goals party goal.id) :
    Inv (executed.setSession party next) := by
  refine ⟨table, ?_⟩
  intro owner event goal amount got
  unfold State.setSession at got ⊢
  dsimp only at got ⊢
  rw [sameSessions] at got
  rcases get_set_cases got with ⟨rfl, isNext⟩ | ⟨others, before⟩
  · exact here event goal amount isNext.symm
  · exact locked_live_changes (inv.locked owner event goal amount before) others changes

theorem execute_sessions (state : State) (party : ℕ) (statement : Statement) :
    (execute state party statement).sessions = state.sessions := by
  cases statement <;> rfl

theorem execute_allocations (state : State) (party : ℕ) (statement : Statement) :
    (execute state party statement).allocations =
      state.allocations ++ committedAllocations statement := by
  cases statement with
  | commit => rfl
  | _ => exact (append_nil _).symm

theorem step_inv (inv : Inv state) {label : Label} (undisturbed : Undisturbed state label) :
    Inv (step state label) := by
  have table := step_table_inv inv.table label
  have effect := step_effect state label
  generalize step state label = after at effect table
  cases effect with
  | rests => exact inv
  | begins label session new =>
    refine ⟨table, ?_⟩
    intro party event goal amount got
    rcases get_append_cases got with before | isNew
    · exact inv.locked party event goal amount before
    · rw [← isNew] at new
      exact absurd new id
  | ends =>
    exact set_session_inv inv table rfl (execute_changes rfl) (fun _ _ _ => nofun)
  | executes party accountPort session statement next here isNext free =>
    have live := undisturbed session here
    rw [isNext] at live
    refine set_session_inv inv table (execute_sessions state party statement)
      (execute_changes free) ?_
    intro _ _ _ reached
    have cases := next_statement_cases state party accountPort session
    rw [isNext, reached] at cases
    rcases cases with quiet | ⟨delivered, phase, isClose, nextClose⟩
    · exact absurd quiet.2 id
    · cases nextClose with
      | quiet phase moved quiet => exact absurd quiet.2 id
      | increments => exact increment_locks inv.table (live free)

/-- An allocation is committed by a delivery that holds its goal. -/
theorem step_allocates_live (inv : Inv state) (label : Label) :
    AllocatesLive state (step state label) := by
  have same : AllocatesLive state state := by
    intro _ member
    rw [drop_length] at member
    cases member
  have effect := step_effect state label
  generalize step state label = after at effect
  cases effect with
  | rests | begins | ends => exact same
  | executes party accountPort session statement next here isNext =>
    intro entry member
    change entry ∈ (execute state party statement).allocations.drop _ at member
    rw [execute_allocations, drop_left] at member
    have cases := next_statement_cases state party accountPort session
    rw [isNext] at cases
    rcases cases with quiet | ⟨event, phase, isClose, nextClose⟩
    · rw [quiet.1] at member
      cases member
    · cases nextClose with
      | quiet phase moved quiet =>
        rw [quiet.1] at member
        cases member
      | increments => cases member
      | commits goal amount =>
        rw [isClose] at here
        rw [mem_singleton.mp member]
        exact locked_live_not_deleted (inv.locked party event goal amount here)

end Steps

theorem start_inv (start : Start) : Inv start.state where
  table := start_table_inv start
  locked := by
    intro _ _ _ _ got
    cases got

/-- In every run, at every moment, an account has at most one default goal, not deleted. -/
theorem run_table_inv (start : Start) (labels : List Label) :
    TableInv (runFrom step start.state labels).goals := by
  have keeps : ∀ state label, TableInv state.goals → TableInv (step state label).goals :=
    fun _ label inv => step_table_inv inv label
  exact run_keeps step keeps (start_table_inv start) labels

theorem default_discipline (start : Start) (labels : List Label)
    (undisturbed : AllSteps step Undisturbed start.state labels) :
    Disciplined start.state labels := by
  intro before isPrefix
  refine ⟨at_most_one_default (run_table_inv start before),
    no_deleted_default (run_table_inv start before), ?_⟩
  intro label _
  obtain ⟨_, rfl⟩ := isPrefix
  have keeps : ∀ state label, Undisturbed state label → Inv state → Inv (step state label) :=
    fun _ _ allowed inv => step_inv inv allowed
  have inv := allowed_run_keeps step keeps (start_inv start) before
    ((all_steps_append step).mp undisturbed).1
  exact step_allocates_live inv label

def savingsGoal : Goal where
  id := 1
  name := some "Ferie"
  targetAmount := 100000
  currentAmount := 0
  targetDate := none
  status := .active
  accountId := 1
  isDefaultSavingsGoal := true

def oneGoal : Start where
  goals := [savingsGoal]
  distinct := by
    unfold DistinctKeys
    decide
  oneDefault := fun _ => List.length_filter_le _ _
  noDeletedDefault := by
    intro _ member deleted
    rw [List.mem_singleton.mp member] at deleted
    cases deleted

def ownedBySeven : AccountPort := fun _ => .ok 7

def proceeds (count party : ℕ) : List Label := List.replicate count (.proceed party ownedBySeven)

def closedThenDeleted : List Label :=
  [.deliver closedMay] ++ proceeds 7 0 ++ [.request .deleteGoal 1 7] ++ proceeds 3 1

theorem closed_then_deleted_disciplined : Disciplined oneGoal.state closedThenDeleted :=
  default_discipline oneGoal closedThenDeleted (by decide +kernel)

def deletedMeanwhile : List Label :=
  [.deliver closedMay] ++ proceeds 3 0 ++ [.request .deleteGoal 1 7] ++ proceeds 3 1 ++ proceeds 3 0

theorem allocated_to_deleted : ¬ ∀ start labels, Disciplined (Start.state start) labels := by
  intro always
  have disciplined := always oneGoal (deletedMeanwhile ++ [.proceed 0 ownedBySeven])
  have live := (disciplined deletedMeanwhile (prefix_append _ _)).2.2 _ (prefix_refl _)
  exact absurd live (by decide +kernel)

end FinanceTracker.Goal.DefaultDiscipline
