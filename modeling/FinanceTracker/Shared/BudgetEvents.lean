import FinanceTracker.Library.Decimals

/-!
# The closed budget month

The contract event `budget.month_closed`. An amount travels as a decimal text;
the payload carries the number the text denotes, or none for a text that denotes
none. A validated event carries the bounds of its fields.
-/

namespace FinanceTracker.Shared.BudgetEvents

open Library.Decimals

def makeBudgetMonthClosedSourceKey (accountId year month : Int) : String :=
  "budget.month_closed:" ++ toString accountId ++ ":" ++ toString year ++ ":" ++ toString month

structure BudgetMonthClosedPayload where
  accountId : Int
  year : Int
  month : Int
  budgetedAmount : Option Decimal
  actualSpent : Option Decimal
  surplusAmount : Option Decimal
  correlationId : String
  deriving DecidableEq

/-- What constructing the event raises: the validation error with the fields it
names, or the signal of a comparison with NaN, which pydantic lets through. -/
inductive ContractError where
  | validation (fields : List String)
  | invalidOperation
  deriving DecidableEq

/-- `Field(ge=...)`, which reports its field below the bound. -/
def checkAtLeast (field : String) (bound value : Int) : Except ContractError (List String) :=
  .ok (if value < bound then [field] else [])

def checkAtMost (field : String) (bound value : Int) : Except ContractError (List String) :=
  .ok (if bound < value then [field] else [])

def validateDecimalString (field : String) (value : Option Decimal) :
    Except ContractError (List String) :=
  match value with
  | none => .ok [field]
  | some amount =>
    match amount.lt .zero with
    | .error .invalidOperation => .error .invalidOperation
    | .ok negative => .ok (if negative then [field] else [])

def fieldChecks (payload : BudgetMonthClosedPayload) :
    List (Except ContractError (List String)) :=
  [checkAtLeast "account_id" 1 payload.accountId,
   checkAtLeast "year" 2020 payload.year,
   checkAtLeast "month" 1 payload.month,
   checkAtMost "month" 12 payload.month,
   validateDecimalString "budgeted_amount" payload.budgetedAmount,
   validateDecimalString "actual_spent" payload.actualSpent,
   validateDecimalString "surplus_amount" payload.surplusAmount]

/-- The fields are checked in order; every failing one is reported. -/
def invalidFields : List (Except ContractError (List String)) → Except ContractError (List String)
  | [] => .ok []
  | .error failure :: _ => .error failure
  | .ok fields :: checks => (invalidFields checks).map (fields ++ ·)

theorem invalid_fields_nil_iff {checks : List (Except ContractError (List String))} :
    invalidFields checks = .ok [] ↔ ∀ check ∈ checks, check = .ok [] := by
  induction checks with
  | nil => simp [invalidFields]
  | cons check checks ih =>
    cases check with
    | error => simp [invalidFields]
    | ok =>
      rw [List.forall_mem_cons, ← ih]
      cases rest : invalidFields checks with
      | error => simp [invalidFields, rest, Except.map]
      | ok => simp [invalidFields, rest, Except.map]

/-- A text that denotes a number that is not negative. -/
def IsAmount (value : Option Decimal) : Prop := ∃ amount, value = some amount ∧ amount.IsNonneg

theorem validate_decimal_string_iff (field : String) (value : Option Decimal) :
    validateDecimalString field value = .ok [] ↔ IsAmount value := by
  cases value with
  | none => simp [validateDecimalString, IsAmount]
  | some amount =>
    have sign := Decimal.lt_zero_iff amount
    simp only [validateDecimalString, IsAmount, Option.some.injEq, exists_eq_left', ← sign]
    cases compared : amount.lt .zero with
    | error signal => cases signal; simp
    | ok negative => cases negative <;> simp

structure ValidPayload (payload : BudgetMonthClosedPayload) : Prop where
  account : 1 ≤ payload.accountId
  year : 2020 ≤ payload.year
  month : 1 ≤ payload.month ∧ payload.month ≤ 12
  budgeted : IsAmount payload.budgetedAmount
  spent : IsAmount payload.actualSpent
  surplus : IsAmount payload.surplusAmount

theorem field_checks_iff (payload : BudgetMonthClosedPayload) :
    invalidFields (fieldChecks payload) = .ok [] ↔ ValidPayload payload := by
  rw [invalid_fields_nil_iff]
  simp only [fieldChecks, List.forall_mem_cons, List.not_mem_nil, false_implies, implies_true,
    and_true, validate_decimal_string_iff, checkAtLeast, checkAtMost, Except.ok.injEq,
    ite_eq_right_iff, List.cons_ne_nil, imp_false, not_lt]
  constructor
  · rintro ⟨account, year, low, high, budgeted, spent, surplus⟩
    exact ⟨account, year, ⟨low, high⟩, budgeted, spent, surplus⟩
  · rintro ⟨account, year, ⟨low, high⟩, budgeted, spent, surplus⟩
    exact ⟨account, year, low, high, budgeted, spent, surplus⟩

structure BudgetMonthClosedEvent where
  payload : BudgetMonthClosedPayload
  valid : ValidPayload payload

deriving instance DecidableEq for BudgetMonthClosedEvent

def BudgetMonthClosedEvent.sourceKey (event : BudgetMonthClosedEvent) : String :=
  makeBudgetMonthClosedSourceKey event.payload.accountId event.payload.year event.payload.month

def BudgetMonthClosedEvent.surplus (event : BudgetMonthClosedEvent) : Decimal :=
  event.payload.surplusAmount.getD .nan

def BudgetMonthClosedEvent.make (payload : BudgetMonthClosedPayload) :
    Except ContractError BudgetMonthClosedEvent :=
  match checked : invalidFields (fieldChecks payload) with
  | .error failure => .error failure
  | .ok [] => .ok ⟨payload, (field_checks_iff payload).mp checked⟩
  | .ok (field :: fields) => .error (.validation (field :: fields))

theorem make_eq_ok_iff {payload : BudgetMonthClosedPayload} {event : BudgetMonthClosedEvent} :
    BudgetMonthClosedEvent.make payload = .ok event ↔ event.payload = payload := by
  constructor
  · intro built
    unfold BudgetMonthClosedEvent.make at built
    split at built
    · contradiction
    · cases built
      rfl
    · contradiction
  · rintro rfl
    have checked := (field_checks_iff event.payload).mpr event.valid
    unfold BudgetMonthClosedEvent.make
    split
    next failed => rw [failed] at checked; contradiction
    next => rfl
    next field fields failed => rw [failed] at checked; simp at checked

theorem make_succeeds_iff (payload : BudgetMonthClosedPayload) :
    (∃ event, BudgetMonthClosedEvent.make payload = .ok event) ↔ ValidPayload payload := by
  constructor
  · rintro ⟨event, built⟩
    rw [← make_eq_ok_iff.mp built]
    exact event.valid
  · intro valid
    exact ⟨⟨payload, valid⟩, make_eq_ok_iff.mpr rfl⟩

def closedMonth (month : Int) (inYear : 1 ≤ month ∧ month ≤ 12) (surplus : ℚ)
    (nonneg : 0 ≤ surplus) : BudgetMonthClosedEvent where
  payload :=
    { accountId := 1
      year := 2026
      month := month
      budgetedAmount := some (.finite surplus)
      actualSpent := some (.finite 0)
      surplusAmount := some (.finite surplus)
      correlationId := "" }
  valid :=
    { account := Int.le_refl 1
      year := Int.le_of_sub_nonneg (by norm_num)
      month := inYear
      budgeted := ⟨_, rfl, nonneg⟩
      spent := ⟨_, rfl, le_refl (0 : ℚ)⟩
      surplus := ⟨_, rfl, nonneg⟩ }

def closedMay : BudgetMonthClosedEvent := closedMonth 5 (by decide) 50 (by norm_num)

def closedJune : BudgetMonthClosedEvent := closedMonth 6 (by decide) 50 (by norm_num)

end FinanceTracker.Shared.BudgetEvents
