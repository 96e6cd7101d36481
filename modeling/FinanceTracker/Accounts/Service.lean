import FinanceTracker.Library.KeyedRows
import FinanceTracker.Library.Runs

/-!
# Accounts of account-service

`AccountService.create_account` and `update_account` over the account table and
the outbox, which commit together. A user has at most one account that is named
`Default Account`: a partial unique index says so. Balances are in whole cents.
-/

namespace FinanceTracker.Accounts.Service

open Library KeyedRows Runs

structure Account where
  idAccount : Nat
  name : String
  saldo : Int
  userId : Int
  budgetStartDay : Int
  deriving DecidableEq

/-- The payload of `account.created` and `account.updated`. An absent key is none; neither
payload carries a correlation id. -/
structure AccountEvent where
  eventType : String
  accountId : Nat
  userId : Int
  accountName : Option String := none
  name : Option String := none
  saldo : Int
  budgetStartDay : Int
  correlationId : Option String := none
  timestamp : Int
  deriving DecidableEq

structure AccountDb where
  accounts : List Account := []
  outbox : List AccountEvent := []
  nextId : Nat := 1
  deriving DecidableEq

/-- What a caller sends; the validator strips the name and refuses an empty one. -/
structure AccountBase where
  name : String
  saldo : Int := 0
  budgetStartDay : Int := 1
  named : name ≠ ""

inductive AccountError where
  | userNotFoundForAccount (userId : Int)
  | upstreamServiceUnavailable (serviceName : String)
  | userIdRequired
  | integrity (constraint : String)
  | staleRow
  | connectionLost
  deriving DecidableEq

/-- `str(exc)`; the database names the violated constraint. -/
def AccountError.message : AccountError → String
  | .userNotFoundForAccount _ => "Bruger med dette ID findes ikke."
  | .upstreamServiceUnavailable serviceName => serviceName ++ " er midlertidigt utilgængelig."
  | .userIdRequired => "User ID is required"
  | .integrity constraint =>
    "duplicate key value violates unique constraint \"" ++ constraint ++ "\""
  | .staleRow => "UPDATE statement on table 'Account' expected to update 1 row(s); 0 were matched."
  | .connectionLost => "server closed the connection unexpectedly"

inductive UserAnswer where
  | known
  | missing
  | unavailable
  deriving DecidableEq

def userExists (userId : Int) : UserAnswer → Except AccountError Unit
  | .known => .ok ()
  | .missing => .error (.userNotFoundForAccount userId)
  | .unavailable => .error (.upstreamServiceUnavailable "user-service")

def defaultName : String := "Default Account"

def oneDefaultPerUser : String := "one_default_per_user"

/-- Another account of the user holds the slot of the partial index. -/
def defaultTaken (accounts : List Account) (idAccount : Nat) (userId : Int) : Bool :=
  accounts.any fun stored =>
    stored.name = defaultName && stored.userId = userId && stored.idAccount ≠ idAccount

def clampDay (day : Int) : Int := max 1 (min 28 day)

def newAccount (idAccount : Nat) (userId : Int) (data : AccountBase) : Account where
  idAccount := idAccount
  name := data.name
  saldo := data.saldo
  userId := userId
  budgetStartDay := clampDay data.budgetStartDay

def createdEvent (account : Account) (now : Int) : AccountEvent where
  eventType := "account.created"
  accountId := account.idAccount
  userId := account.userId
  accountName := some account.name
  saldo := account.saldo
  budgetStartDay := account.budgetStartDay
  timestamp := now

def updatedEvent (account : Account) (now : Int) : AccountEvent where
  eventType := "account.updated"
  accountId := account.idAccount
  userId := account.userId
  name := some account.name
  saldo := account.saldo
  budgetStartDay := account.budgetStartDay
  timestamp := now

def requireUserId (userId : Int) : Except AccountError Unit :=
  if userId = 0 then .error .userIdRequired else .ok ()

def checkDefault (accounts : List Account) (account : Account) : Except AccountError Unit :=
  if account.name = defaultName ∧ defaultTaken accounts account.idAccount account.userId then
    .error (.integrity oneDefaultPerUser)
  else .ok ()

def createAccount (db : AccountDb) (userId : Int) (data : AccountBase) (answer : UserAnswer)
    (now : Int) : Except AccountError (AccountDb × Account) := do
  userExists userId answer
  requireUserId userId
  let account := newAccount db.nextId userId data
  checkDefault db.accounts account
  return ({ accounts := db.accounts ++ [account]
            outbox := db.outbox ++ [createdEvent account now]
            nextId := db.nextId + 1 }, account)

def changedAccount (data : AccountBase) (existing : Account) : Account :=
  { existing with
    name := data.name
    saldo := data.saldo
    budgetStartDay := clampDay data.budgetStartDay }

/-- `none` when there is no such account. -/
def updateAccount (db : AccountDb) (accountId : Nat) (data : AccountBase) (now : Int) :
    Except AccountError (AccountDb × Option Account) :=
  match lookup Account.idAccount db.accounts accountId with
  | none => .ok (db, none)
  | some existing => do
    let account := changedAccount data existing
    checkDefault db.accounts account
    return ({ db with
              accounts := replace Account.idAccount db.accounts accountId fun _ => account
              outbox := db.outbox ++ [updatedEvent account now] }, some account)

theorem create_account_ok {db next : AccountDb} {userId : Int} {data : AccountBase}
    {answer : UserAnswer} {now : Int} {account : Account}
    (returned : createAccount db userId data answer now = .ok (next, account)) :
    account = newAccount db.nextId userId data ∧
      next = { accounts := db.accounts ++ [account]
               outbox := db.outbox ++ [createdEvent account now]
               nextId := db.nextId + 1 } := by
  unfold createAccount at returned
  obtain ⟨_, returned⟩ := rest_ok returned
  obtain ⟨_, returned⟩ := rest_ok returned
  obtain ⟨_, returned⟩ := rest_ok returned
  cases returned
  exact ⟨rfl, rfl⟩

theorem update_account_ok {db next : AccountDb} {accountId : Nat} {data : AccountBase}
    {now : Int} {result : Option Account}
    (returned : updateAccount db accountId data now = .ok (next, result)) :
    (next = db ∧ result = none) ∨
      ∃ existing, lookup Account.idAccount db.accounts accountId = some existing ∧
        result = some (changedAccount data existing) ∧
        next = { db with
          accounts := replace Account.idAccount db.accounts accountId fun _ =>
            changedAccount data existing
          outbox := db.outbox ++ [updatedEvent (changedAccount data existing) now] } := by
  unfold updateAccount at returned
  split at returned
  · cases returned
    exact Or.inl ⟨rfl, rfl⟩
  · next existing found =>
    obtain ⟨_, returned⟩ := rest_ok returned
    cases returned
    exact Or.inr ⟨existing, found, rfl, rfl⟩

end FinanceTracker.Accounts.Service
