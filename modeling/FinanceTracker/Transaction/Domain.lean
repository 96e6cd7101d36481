import FinanceTracker.Library.Calendar

/-!
# Transactions of transaction-service

The stored row, the read copies of the taxonomy and the exceptions. Amounts are
the `NUMERIC(12, 2)` column in whole cents. Of `deleted_at` only whether it is
set matters.
-/

namespace FinanceTracker.Transaction.Domain

open Library.Calendar

inductive TransactionType where
  | income
  | expense
  deriving DecidableEq, Repr

def TransactionType.value : TransactionType → String
  | .income => "income"
  | .expense => "expense"

structure Transaction where
  id : Nat
  userId : Int
  accountId : Int
  accountName : String
  categoryId : Option Int := none
  categoryName : Option String := none
  amount : Int
  transactionType : TransactionType
  description : Option String
  date : Date
  subcategoryId : Option Int := none
  subcategoryName : Option String := none
  categorizationTier : Option String := none
  categorizationConfidence : Option String := none
  externalId : Option String := none
  currency : String := "DKK"
  deleted : Bool := false
  deriving DecidableEq

structure SubCategory where
  id : Int
  name : String
  categoryId : Int
  deriving DecidableEq

/-- The event-synced copies of categorization-service's taxonomy, by id. -/
structure ReadCopies where
  categoryName : Int → Option String
  subcategory : Int → Option SubCategory

inductive TransactionError where
  | transactionNotFound (transactionId : Nat)
  | subcategoryNotFound (subcategoryId : Int)
  | subcategoryMismatch (subcategoryId : Int) (categoryId : Option Int)
  | invalidInput (message : String)
  | database (message : String)
  deriving DecidableEq

/-- `str(amount)` of a column value with two decimals. -/
def amountText (amount : Int) : String :=
  let cents := amount.natAbs % 100
  (if amount < 0 then "-" else "") ++ toString (amount.natAbs / 100) ++ "." ++
    (if cents < 10 then "0" else "") ++ toString cents

/-- `VARCHAR` limits of the table. -/
def fitsColumns (row : Transaction) : Bool :=
  row.accountName.length ≤ 100 && row.categoryName.all (fun name => name.length ≤ 100) &&
    row.description.all (fun text => text.length ≤ 500) &&
    row.subcategoryName.all (fun name => name.length ≤ 100) &&
    row.categorizationTier.all (fun tier => tier.length ≤ 20) &&
    row.categorizationConfidence.all (fun confidence => confidence.length ≤ 10)

end FinanceTracker.Transaction.Domain
