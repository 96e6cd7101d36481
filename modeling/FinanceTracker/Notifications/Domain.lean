import FinanceTracker.Library.Columns
import FinanceTracker.Library.Decimals

/-!
# Notifications

The domain of notification-service: what a notification is, what it says, and when a
bank sync is worth one. A text is built from the data of an event; an amount that
cannot be written with two decimals raises.
-/

namespace FinanceTracker.Notifications.Domain

open Library Columns Decimals

inductive NotificationType where
  | bankSyncCompleted
  | goalReached
  | budgetMonthClosed
  | budgetThresholdCrossed
  deriving DecidableEq, Repr

def NotificationType.value : NotificationType → String
  | .bankSyncCompleted => "bank_sync_completed"
  | .goalReached => "goal_reached"
  | .budgetMonthClosed => "budget_month_closed"
  | .budgetThresholdCrossed => "budget_threshold_crossed"

structure NotificationContent where
  type : NotificationType
  title : String
  body : String
  deriving DecidableEq

structure Notification where
  userId : Int
  type : NotificationType
  title : String
  body : String
  sourceKey : String
  deriving DecidableEq

def Notification.fromContent (userId : Int) (content : NotificationContent) (sourceKey : String) :
    Notification where
  userId := userId
  type := content.type
  title := content.title
  body := content.body
  sourceKey := sourceKey

def grouped (number : ℕ) : String :=
  let digits := (Nat.toDigits 10 number).reverse
  ".".intercalate (((digits.toChunks 3).map fun group => String.ofList group.reverse).reverse)

def twoDigits (number : ℕ) : String :=
  if number < 10 then "0" ++ toString number else toString number

/-- `amount.quantize(Decimal("0.01"), rounding=ROUND_HALF_UP)` of the magnitude; a
quantized number has at most 28 digits. -/
def quantizeCents (magnitude : ℚ) : Except Signal ℕ :=
  if toCents magnitude < 10 ^ 28 then .ok (toCents magnitude) else .error .invalidOperation

def formatAmount : Decimal → Except Signal String
  | .nan => .error .invalidOperation
  | .infinity _ => .error .invalidOperation
  | .finite value => do
    let cents ← quantizeCents |value|
    let text := grouped (cents / 100) ++ "," ++ twoDigits (cents % 100)
    .ok (if value < 0 ∧ cents ≠ 0 then "-" ++ text else text)

def monthsDa : List String :=
  ["", "januar", "februar", "marts", "april", "maj", "juni", "juli", "august", "september",
    "oktober", "november", "december"]

def monthName (month : Int) : String :=
  if 1 ≤ month ∧ month ≤ 12 then monthsDa.getD month.toNat "" else toString month

def transactionWord (count : Int) : String :=
  if count = 1 then "transaktion" else "transaktioner"

def daysLeftPhrase (daysRemaining : Int) : String :=
  if daysRemaining ≤ 0 then "ingen dage tilbage"
  else if daysRemaining = 1 then "1 dag tilbage"
  else toString daysRemaining ++ " dage tilbage"

def buildBankSyncCompleted (newImported errors : Int) : NotificationContent where
  type := .bankSyncCompleted
  title := "Banksynkronisering færdig"
  body :=
    (if newImported = 0 then "Din bank er synkroniseret – ingen nye transaktioner."
    else toString newImported ++ " " ++ transactionWord newImported ++ " blev importeret.") ++
    (if 0 < errors then
      " " ++ toString errors ++ " " ++ transactionWord errors ++ " kunne ikke behandles."
    else "")

def buildGoalReached (goalName : Option String) (targetAmount : Decimal) :
    Except Signal NotificationContent := do
  let amount ← formatAmount targetAmount
  .ok
    { type := .goalReached
      title := "Mål nået! 🎉"
      body :=
        match goalName.filter fun name => name ≠ "" with
        | some name => "Du har nået dit mål “" ++ name ++ "” på " ++ amount ++ " kr. Flot klaret!"
        | none => "Du har nået dit sparemål på " ++ amount ++ " kr. Flot klaret!" }

def buildBudgetLineThresholdCrossed (categoryName : String)
    (percentageUsed threshold daysRemaining : Int) : NotificationContent where
  type := .budgetThresholdCrossed
  title := if 100 ≤ threshold then "Budget overskredet" else "Budget-advarsel"
  body := toString percentageUsed ++ "% af " ++ categoryName ++ " brugt, " ++
    daysLeftPhrase daysRemaining ++ "."

def buildBudgetMonthClosed (year month : Int) (surplusAmount : Decimal) :
    Except Signal NotificationContent := do
  let period := monthName month ++ " " ++ toString year
  let body ←
    if ← Decimal.zero.lt surplusAmount then do
      let amount ← formatAmount surplusAmount
      pure (period ++ " er gjort op med et overskud på " ++ amount ++ " kr.")
    else pure (period ++ " er gjort op. Der var intet overskud denne måned.")
  .ok
    { type := .budgetMonthClosed
      title := "Måned lukket"
      body := body }

def shouldNotifyBankSync (scheduled : Bool) (newImported errors parseSkipped : Int) : Bool :=
  if !scheduled then true else 0 < newImported || 0 < errors || 0 < parseSkipped

example : formatAmount (.finite (123456 / 100)) = .ok "1.234,56" := by decide +kernel

example : formatAmount (.finite (-1 / 1000)) = .ok "0,00" := by decide +kernel

end FinanceTracker.Notifications.Domain
