import FinanceTracker.Goal.MonthCloseRuns

/-!
# Acknowledged month closes

The consumer of `budget.month_closed` takes every integrity error for a duplicate and
acknowledges the message. Beside the unique keys the tables check that an amount is
positive, after it was rounded to cents. So a surplus below half a cent is acknowledged
without being recorded, and every other acknowledged surplus is recorded.
-/

namespace FinanceTracker.Goal.AcknowledgedClose

open Library Columns Decimals KeyedRows Shared.BudgetEvents Service MonthCloseRuns

inductive ConsumerError where
  | poisonMessage
  | raised (failure : GoalError)
  deriving DecidableEq

/-- An integrity error of the handler is acknowledged like an answer. -/
def acknowledge : GoalTables × Except GoalError HandlingStatus → Except ConsumerError GoalTables
  | (tables, .ok _) => .ok tables
  | (tables, .error .integrity) => .ok tables
  | (_, .error failure) => .error (.raised failure)

/-- `handle` returns the tables at the acknowledgement. The statements of the handler see
the tables in `seen`, which other sessions may change in between. -/
def handle (now : Int) (payload : BudgetMonthClosedPayload) (seen : ℕ → GoalTables) :
    Option (Except ConsumerError GoalTables) :=
  match BudgetMonthClosedEvent.make payload with
  | .error _ => some (.error .poisonMessage)
  | .ok event => (deliver now event seen 6 0 .received).map acknowledge

/-- What the statements of a delivery see: a recorded key stays recorded. -/
structure Surroundings (sourceKey : SourceKey) where
  seen : ℕ → GoalTables
  kept : ∀ statement, alreadyHandled (seen statement) sourceKey = true →
    alreadyHandled (seen (statement + 1)) sourceKey = true

def IsPositive : Decimal → Prop
  | .finite value => 0 < value
  | .infinity negative => negative = false
  | .nan => False

/-- If the message is acknowledged, its key is recorded. -/
def NotDropped (now : Int) (event : BudgetMonthClosedEvent)
    (surroundings : Surroundings (sourceKeyOf event)) : Prop :=
  ∀ tables, handle now event.payload surroundings.seen = some (.ok tables) →
    alreadyHandled tables (sourceKeyOf event) = true

/-- An outcome that is acknowledged only with the key recorded. -/
def Kept (sourceKey : SourceKey) (outcome : Option (GoalTables × Except GoalError HandlingStatus)) :
    Prop :=
  ∀ tables, outcome.map acknowledge = some (.ok tables) → alreadyHandled tables sourceKey = true

theorem not_dropped_iff {now : Int} {event : BudgetMonthClosedEvent}
    {surroundings : Surroundings (sourceKeyOf event)} :
    NotDropped now event surroundings ↔
      Kept (sourceKeyOf event) (deliver now event surroundings.seen 6 0 .received) := by
  have built : BudgetMonthClosedEvent.make event.payload = .ok event := make_eq_ok_iff.mpr rfl
  unfold NotDropped Kept handle
  rw [built]

section Outcomes

variable {sourceKey : SourceKey} {tables : GoalTables}

theorem kept_answered {status : HandlingStatus} (recorded : alreadyHandled tables sourceKey = true) :
    Kept sourceKey (some (tables, .ok status)) := by
  intro _ same
  cases same
  exact recorded

theorem kept_integrity_iff : Kept sourceKey (some (tables, .error .integrity)) ↔
      alreadyHandled tables sourceKey = true := by
  constructor
  · intro kept
    exact kept tables rfl
  · intro recorded _ same
    cases same
    exact recorded

theorem kept_raised {failure : GoalError} (other : failure ≠ .integrity) :
    Kept sourceKey (some (tables, .error failure)) := by
  intro _ same
  cases failure with
  | integrity => exact absurd rfl other
  | _ => cases same

end Outcomes

theorem recorded_allocation {tables : GoalTables} {sourceKey : SourceKey}
    (stored : allocationExists tables sourceKey = true) : alreadyHandled tables sourceKey = true := by
  rw [alreadyHandled, stored, Bool.true_or]

theorem recorded_unallocated {tables : GoalTables} {sourceKey : SourceKey}
    (stored : unallocatedExists tables sourceKey = true) : alreadyHandled tables sourceKey = true := by
  rw [alreadyHandled, stored, Bool.or_true]

/-- The entry has a cent, or meets an error before the check of its amount. -/
def HasCent (event : BudgetMonthClosedEvent) : Prop :=
  entryFits event = false ∨ ∀ value, event.surplus = .finite value → 0 < toCents value

theorem entry_amount_error {event : BudgetMonthClosedEvent} {failure : GoalError}
    (failed : entryAmount event = .error failure) :
    failure = .database ∨ failure = .integrity ∧ ¬ HasCent event := by
  unfold entryAmount at failed
  cases fits : entryFits event with
  | false =>
    rw [fits] at failed
    cases failed
    exact Or.inl rfl
  | true =>
    rw [fits] at failed
    cases surplus : event.surplus with
    | finite value =>
      rw [surplus] at failed
      rw [if_pos rfl] at failed
      dsimp only at failed
      split_ifs at failed with large noCent
      · cases failed
        exact Or.inl rfl
      · cases failed
        apply Or.inr
        refine ⟨rfl, ?_⟩
        rintro (unfit | positive)
        · rw [fits] at unfit
          contradiction
        · have cents := positive value surplus
          omega
    | infinity =>
      rw [surplus] at failed
      cases failed
      exact Or.inl rfl
    | nan =>
      rw [surplus] at failed
      cases failed
      exact Or.inl rfl

theorem entry_without_cent {event : BudgetMonthClosedEvent} (noCent : ¬ HasCent event) :
    entryFits event = true ∧ entryAmount event = .error .integrity := by
  unfold HasCent at noCent
  rw [not_or, Bool.not_eq_false] at noCent
  obtain ⟨fits, noCent⟩ := noCent
  refine ⟨fits, ?_⟩
  simp only [not_forall, not_lt, Nat.le_zero] at noCent
  obtain ⟨_, surplus, zero⟩ := noCent
  unfold entryAmount
  rw [fits, surplus]
  simp [zero, amountLimit]

section Inserts

variable {now : Int} {event : BudgetMonthClosedEvent} {seen : ℕ → GoalTables} {statement : ℕ}

theorem kept_failed {failure : GoalError} {tables : GoalTables}
    (failed : entryAmount event = .error failure)
    (cent : alreadyHandled tables (sourceKeyOf event) = true ∨ HasCent event) :
    Kept (sourceKeyOf event) (some (tables, .error failure)) := by
  rcases entry_amount_error failed with rfl | ⟨rfl, noCent⟩
  · exact kept_raised (by decide)
  · apply kept_integrity_iff.mpr
    rcases cent with recorded | hasCent
    · exact recorded
    · exact absurd hasCent noCent

theorem kept_unallocated {fuel : ℕ} {phase : DeliveryPhase} {reason : UnallocatedReason}
    {status : HandlingStatus}
    (cent : alreadyHandled (seen statement) (sourceKeyOf event) = true ∨ HasCent event)
    (inserts : advance now [] (seen statement) event phase =
      insertUnallocated event reason status (seen statement)) :
    Kept (sourceKeyOf event) (deliver now event seen (fuel + 1) statement phase) := by
  unfold insertUnallocated addUnallocated at inserts
  cases checked : entryAmount event with
  | error =>
    rw [checked] at inserts
    rw [deliver_ends fuel inserts]
    exact kept_failed checked cent
  | ok =>
    rw [checked] at inserts
    cases stored : unallocatedExists (seen statement) (sourceKeyOf event) with
    | true =>
      rw [stored] at inserts
      rw [deliver_ends fuel inserts]
      exact kept_integrity_iff.mpr (recorded_unallocated stored)
    | false =>
      rw [stored] at inserts
      rw [deliver_commits fuel inserts]
      apply kept_answered
      apply recorded_unallocated
      simp [unallocatedExists]

theorem kept_allocated {fuel : ℕ} {goal : Goal} {amount current : Nat} : Kept (sourceKeyOf event)
      (deliver now event seen (fuel + 1) statement (.amountRead goal amount current)) := by
  have writes : advance now [] (seen statement) event (.amountRead goal amount current) =
    commitAllocation now event goal amount current (seen statement) := rfl
  unfold commitAllocation at writes
  cases sum : incrementedAmount current event.surplus with
  | error failure =>
    rw [sum] at writes
    rw [deliver_ends fuel writes]
    have database : failure = .database := by
      unfold incrementedAmount at sum
      split at sum
      · dsimp only at sum
        split_ifs at sum
        cases sum
        rfl
      · cases sum
        rfl
    rw [database]
    exact kept_raised (by decide)
  | ok =>
    rw [sum] at writes
    rw [deliver_commits fuel writes]
    apply kept_answered
    apply recorded_allocation
    simp [allocationExists, withAllocation]

theorem kept_inserted {fuel : ℕ} {goal : Goal} {amount : Nat} : Kept (sourceKeyOf event)
      (deliver now event seen (fuel + 2) statement (.inserted goal amount)) := by
  cases read : lookup Goal.id (seen statement).goals goal.id with
  | none =>
    have ends : advance now [] (seen statement) event (.inserted goal amount) =
        .ends (.error (.goalNotFound goal.id)) := by
      simp [advance, read]
    rw [deliver_ends (fuel + 1) ends]
    exact kept_raised GoalError.noConfusion
  | some row =>
    have reads : advance now [] (seen statement) event (.inserted goal amount) =
        .goesOn (.amountRead goal amount row.currentAmount) := by
      simp [advance, read]
    rw [deliver_goes_on (fuel + 1) reads]
    exact kept_allocated

/-- From the choice of the goal on. -/
theorem kept_chosen {chosen : Option Goal}
    (cent : alreadyHandled (seen statement) (sourceKeyOf event) = true ∨ HasCent event) :
    Kept (sourceKeyOf event) (deliver now event seen 3 statement (.goalChosen chosen)) := by
  cases chosen with
  | none => exact kept_unallocated cent rfl
  | some goal =>
    cases complete : isGoalComplete goal with
    | true =>
      have inserts : advance now [] (seen statement) event (.goalChosen (some goal)) =
          insertUnallocated event .goalAlreadyComplete
            (.unallocatedGoalAlreadyComplete goal.id) (seen statement) := by
        simp [advance, complete]
      exact kept_unallocated cent inserts
    | false =>
      have inserts : advance now [] (seen statement) event (.goalChosen (some goal)) =
          insertAllocation event goal [] (seen statement) := by
        simp [advance, complete]
      unfold insertAllocation at inserts
      cases checked : entryAmount event with
      | error =>
        rw [checked] at inserts
        rw [deliver_ends 2 inserts]
        exact kept_failed checked cent
      | ok =>
        rw [checked] at inserts
        dsimp only at inserts
        cases stored : allocationStored (seen statement) (sourceKeyOf event) goal.id with
        | true =>
          rw [stored] at inserts
          rw [deliver_ends 2 inserts]
          apply kept_integrity_iff.mpr
          exact recorded_allocation (allocation_stored_exists stored)
        | false =>
          rw [stored, if_neg Bool.false_ne_true, if_neg List.not_mem_nil] at inserts
          rw [deliver_goes_on 2 inserts]
          exact kept_inserted

/-- An amount without a cent meets the check of its table. -/
theorem chosen_without_cent {chosen : Option Goal} (noCent : ¬ HasCent event) :
    deliver now event seen 3 statement (.goalChosen chosen) =
      some (seen statement, .error .integrity) := by
  obtain ⟨_, failed⟩ := entry_without_cent noCent
  apply deliver_ends 2
  cases chosen with
  | none => simp [advance, insertUnallocated, addUnallocated, failed, bind, Except.bind]
  | some goal =>
    cases complete : isGoalComplete goal with
    | true => simp [advance, complete, insertUnallocated, addUnallocated, failed, bind, Except.bind]
    | false => simp [advance, complete, insertAllocation, failed]

end Inserts

theorem positive_not_zero {event : BudgetMonthClosedEvent} (positive : IsPositive event.surplus) :
    event.surplus ≠ .zero := by
  intro zero
  rw [zero] at positive
  exact absurd positive (lt_irrefl (0 : ℚ))

/-- The statements up to the insert acknowledge only a recorded key. -/
theorem kept_deliver {now : Int} {event : BudgetMonthClosedEvent}
    (surroundings : Surroundings (sourceKeyOf event)) (positive : IsPositive event.surplus)
    (cent : alreadyHandled (surroundings.seen 3) (sourceKeyOf event) = true ∨ HasCent event) :
    Kept (sourceKeyOf event) (deliver now event surroundings.seen 6 0 .received) := by
  have notZero := positive_not_zero positive
  cases allocated : allocationExists (surroundings.seen 0) (sourceKeyOf event) with
  | true =>
    have ends : advance now [] (surroundings.seen 0) event .received = .ends (.ok .duplicate) := by
      simp [advance, notZero, allocated]
    rw [deliver_ends 5 ends]
    exact kept_answered (recorded_allocation allocated)
  | false =>
    have searches : advance now [] (surroundings.seen 0) event .received =
        .goesOn .notAllocated := by
      simp [advance, notZero, allocated]
    rw [deliver_goes_on 5 searches]
    cases recorded : unallocatedExists (surroundings.seen 1) (sourceKeyOf event) with
    | true =>
      have ends : advance now [] (surroundings.seen 1) event .notAllocated =
          .ends (.ok .duplicate) := by
        simp [advance, recorded]
      rw [deliver_ends 4 ends]
      exact kept_answered (recorded_unallocated recorded)
    | false =>
      have searches : advance now [] (surroundings.seen 1) event .notAllocated =
          .goesOn .unrecorded := by
        simp [advance, recorded]
      rw [deliver_goes_on 4 searches]
      cases fits : fitsInteger event.payload.accountId with
      | false =>
        have ends : advance now [] (surroundings.seen 2) event .unrecorded =
            .ends (.error .database) := by
          simp [advance, fits]
        rw [deliver_ends 3 ends]
        exact kept_raised (by decide)
      | true =>
        have reads : advance now [] (surroundings.seen 2) event .unrecorded = .goesOn (.goalChosen
              (getDefaultSavingsGoal (surroundings.seen 2) event.payload.accountId)) := by
          simp [advance, fits]
        rw [deliver_goes_on 3 reads]
        exact kept_chosen cent

theorem deliver_without_cent {now : Int} {event : BudgetMonthClosedEvent}
    (surroundings : Surroundings (sourceKeyOf event)) (positive : IsPositive event.surplus)
    (unrecorded : alreadyHandled (surroundings.seen 3) (sourceKeyOf event) = false)
    (noCent : ¬ HasCent event) :
    deliver now event surroundings.seen 6 0 .received =
      some (surroundings.seen 3, .error .integrity) := by
  have notZero := positive_not_zero positive
  have earlier : ∀ statement ≤ 3,
      alreadyHandled (surroundings.seen statement) (sourceKeyOf event) = false := by
    intro statement before
    induction before using Nat.decreasingInduction with
    | self => exact unrecorded
    | of_succ statement _ later =>
      by_contra recorded
      rw [Bool.not_eq_false] at recorded
      rw [surroundings.kept statement recorded] at later
      contradiction
  obtain ⟨allocated, _⟩ := Bool.or_eq_false_iff.mp (earlier 0 (by omega))
  obtain ⟨_, recorded⟩ := Bool.or_eq_false_iff.mp (earlier 1 (by omega))
  have fits : fitsInteger event.payload.accountId = true := by
    have columns := (entry_without_cent noCent).1
    simp only [entryFits, Bool.and_eq_true] at columns
    exact columns.1.1
  have searches : advance now [] (surroundings.seen 0) event .received = .goesOn .notAllocated := by
    simp [advance, notZero, allocated]
  have searchesAgain : advance now [] (surroundings.seen 1) event .notAllocated =
      .goesOn .unrecorded := by
    simp [advance, recorded]
  have reads : advance now [] (surroundings.seen 2) event .unrecorded = .goesOn (.goalChosen
        (getDefaultSavingsGoal (surroundings.seen 2) event.payload.accountId)) := by
    simp [advance, fits]
  rw [deliver_goes_on 5 searches, deliver_goes_on 4 searchesAgain, deliver_goes_on 3 reads]
  exact chosen_without_cent noCent

theorem acknowledged_recorded_iff (now : Int) (event : BudgetMonthClosedEvent)
    (positive : IsPositive event.surplus) (surroundings : Surroundings (sourceKeyOf event)) :
    NotDropped now event surroundings ↔
      alreadyHandled (surroundings.seen 3) (sourceKeyOf event) = true ∨ HasCent event := by
  rw [not_dropped_iff]
  constructor
  · intro kept
    by_contra dropped
    obtain ⟨unrecorded, noCent⟩ := not_or.mp dropped
    rw [Bool.not_eq_true] at unrecorded
    rw [deliver_without_cent surroundings positive unrecorded noCent] at kept
    rw [kept_integrity_iff.mp kept] at unrecorded
    contradiction
  · exact kept_deliver surroundings positive

def emptySurroundings (sourceKey : SourceKey) : Surroundings sourceKey where
  seen := fun _ => {}
  kept := fun _ recorded => recorded

theorem closed_month_positive {month : Int} {inYear : 1 ≤ month ∧ month ≤ 12} {surplus : ℚ}
    {nonneg : 0 ≤ surplus} (positive : 0 < surplus) :
    IsPositive (closedMonth month inYear surplus nonneg).surplus := positive

/-- 50.00 are recorded. -/
theorem closed_may_recorded : NotDropped 0 closedMay (emptySurroundings _) := by
  apply (acknowledged_recorded_iff 0 closedMay (closed_month_positive (by norm_num)) _).mpr
  apply Or.inr
  apply Or.inr
  intro _ same
  cases same
  decide +kernel

/-- 0.004 are acknowledged and not recorded. -/
theorem surplus_dropped : ¬ ∀ (now : Int) (event : BudgetMonthClosedEvent),
    IsPositive event.surplus → ∀ surroundings : Surroundings (sourceKeyOf event),
      NotDropped now event surroundings := by
  intro always
  let event := closedMonth 5 (by decide) (4 / 1000) (by norm_num)
  have positive : IsPositive event.surplus := closed_month_positive (by norm_num)
  have noCent : ¬ HasCent event := by
    rintro (unfit | cent)
    · exact absurd unfit (by decide +kernel)
    · exact absurd (cent (4 / 1000) rfl) (by decide +kernel)
  have kept := not_dropped_iff.mp (always 0 event positive (emptySurroundings _))
  rw [deliver_without_cent (emptySurroundings _) positive rfl noCent] at kept
  exact absurd (kept_integrity_iff.mp kept) (by decide)

end FinanceTracker.Goal.AcknowledgedClose
