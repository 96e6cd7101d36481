import FinanceTracker.Banking.MarkSyncComplete

/-!
# Bank connections

`complete_connect` and `disconnect` of banking-service with the statements of their
repositories. One answer of the bank holds all accounts of a consent, and every one of
them is stored with the session of that answer. Of the connection the sync columns are
left out, of the events their own ids and timestamps.
-/

namespace FinanceTracker.Banking.Connections

open Library.KeyedRows
open MarkSyncComplete (Instant)

inductive ConnectionStatus where
  | active
  | inactive
  | disconnected
  deriving DecidableEq, Repr

structure BankConnection where
  id : String
  accountId : Int
  userId : Int
  sessionId : String
  bankName : String
  bankCountry : String
  bankAccountUid : String
  bankAccountIban : Option String
  status : ConnectionStatus
  expiresAt : Option Instant
  deriving DecidableEq

structure PendingAuthorization where
  state : String
  accountId : Int
  userId : Int
  expiresAt : Instant
  consumedAt : Option Instant := none
  deriving DecidableEq

inductive ConnectionEvent where
  | created (connectionId : String) (accountId userId : Int) (bankName : String)
      (iban : Option String) (status : String)
  | disconnected (connectionId : String) (accountId userId : Int) (bankName : String)
      (iban : Option String)
  deriving DecidableEq

structure OutboxRow where
  event : ConnectionEvent
  aggregateType : String
  aggregateId : String
  deriving DecidableEq

/-- An account in the answer of the bank; an absent key is none. -/
structure AccountPayload where
  uid : Option String
  iban : Option String
  deriving DecidableEq

structure SessionPayload where
  sessionId : Option String
  accounts : List AccountPayload := []
  aspspName : Option String := none
  aspspCountry : Option String := none
  validUntil : Option String := none
  deriving DecidableEq

structure CreatedAccount where
  id : String
  bankAccountUid : String
  iban : String
  status : String
  deriving DecidableEq

inductive BankError where
  | authorizationError
  | apiUnavailable
  deriving DecidableEq

inductive ConnectionError where
  | pendingAuthorizationNotFound (state : String)
  | bank (error : BankError)
  | missingSessionId
  | multipleResultsFound
  | refusedByDatabase
  | bankAccountNotOwned (accountId : Int)
  deriving DecidableEq

def isActiveByUid (uid : String) (accountId : Int) (row : BankConnection) : Bool :=
  row.bankAccountUid = uid && row.accountId = accountId && row.status ≠ .disconnected

/-- `scalar_one_or_none`: several rows raise. -/
def getActiveByUid (rows : List BankConnection) (uid : String) (accountId : Int) :
    Except ConnectionError (Option BankConnection) :=
  match rows.filter (isActiveByUid uid accountId) with
  | [] => .ok none
  | [row] => .ok (some row)
  | _ => .error .multipleResultsFound

def getById (rows : List BankConnection) (connectionId : String) : Option BankConnection :=
  lookup BankConnection.id rows connectionId

def updateStatus (rows : List BankConnection) (connectionId : String)
    (status : ConnectionStatus) : List BankConnection :=
  replace BankConnection.id rows connectionId fun row => { row with status := status }

def updateConsent (rows : List BankConnection) (connectionId sessionId : String)
    (expiresAt : Option Instant) : List BankConnection :=
  replace BankConnection.id rows connectionId fun row =>
    { row with sessionId := sessionId, expiresAt := expiresAt }

/-- The primary key refuses an id that is taken. -/
def save (rows : List BankConnection) (connection : BankConnection) :
    Except ConnectionError (List BankConnection) :=
  if (getById rows connection.id).isSome then .error .refusedByDatabase
  else .ok (rows ++ [connection])

def day : Instant := 24 * 60 * 60 * 1000000

def isObsolete (now : Instant) (row : PendingAuthorization) : Bool :=
  row.expiresAt < now || row.consumedAt.any fun consumedAt => consumedAt < now - day

def cleanupExpired (rows : List PendingAuthorization) (now : Instant) :
    List PendingAuthorization :=
  rows.filter fun row => !isObsolete now row

def isConsumable (now : Instant) (row : PendingAuthorization) : Bool :=
  row.consumedAt = none && now < row.expiresAt

def consume (rows : List PendingAuthorization) (state : String) (now : Instant) :
    Option ((Int × Int) × List PendingAuthorization) :=
  match rows.find? fun row => row.state = state && isConsumable now row with
  | none => none
  | some auth => some ((auth.accountId, auth.userId),
      rows.map fun row =>
        if row.state = state && isConsumable now row then { row with consumedAt := some now }
        else row)

structure Tables where
  connections : List BankConnection := []
  outbox : List OutboxRow := []
  deriving DecidableEq

/-- What the accounts of one answer share. -/
structure Consent where
  accountId : Int
  userId : Int
  sessionId : String
  bankName : String
  bankCountry : String
  expiresAt : Option Instant
  deriving DecidableEq

def parseValidUntil (fromisoformat : String → Option Instant) (session : SessionPayload) :
    Option Instant :=
  match session.validUntil with
  | none => none
  | some raw => if raw = "" then none else fromisoformat (raw.replace "Z" "+00:00")

def consentOf (fromisoformat : String → Option Instant) (auth : Int × Int) (sessionId : String)
    (session : SessionPayload) : Consent where
  accountId := auth.1
  userId := auth.2
  sessionId := sessionId
  bankName := session.aspspName.getD "Unknown"
  bankCountry := session.aspspCountry.getD "DK"
  expiresAt := parseValidUntil fromisoformat session

def newConnection (consent : Consent) (id : String) (account : AccountPayload) :
    BankConnection where
  id := id
  accountId := consent.accountId
  userId := consent.userId
  sessionId := consent.sessionId
  bankName := consent.bankName
  bankCountry := consent.bankCountry
  bankAccountUid := account.uid.getD ""
  bankAccountIban := some (account.iban.getD "")
  status := .active
  expiresAt := consent.expiresAt

def createdEvent (consent : Consent) (account : AccountPayload) (connectionId bankName status : String) :
    OutboxRow where
  event := .created connectionId consent.accountId consent.userId bankName
    (if account.iban.getD "" = "" then none else some (account.iban.getD "")) status
  aggregateType := "bank_connection"
  aggregateId := connectionId

def createdAccount (account : AccountPayload) (connectionId status : String) : CreatedAccount where
  id := connectionId
  bankAccountUid := account.uid.getD ""
  iban := account.iban.getD ""
  status := status

/-- One turn of the loop; `id` is what `uuid4` would give. -/
def connectAccount (consent : Consent) (tables : Tables) (account : AccountPayload) (id : String) :
    Except ConnectionError (Tables × CreatedAccount) := do
  match ← getActiveByUid tables.connections (account.uid.getD "") consent.accountId with
  | some existing =>
    let reactivated := updateStatus tables.connections existing.id .active
    .ok ({ connections := updateConsent reactivated existing.id consent.sessionId consent.expiresAt
           outbox := tables.outbox ++
             [createdEvent consent account existing.id existing.bankName "reconnected"] },
      createdAccount account existing.id "reconnected")
  | none =>
    let conn := newConnection consent id account
    let connections ← save tables.connections conn
    .ok ({ connections := connections
           outbox := tables.outbox ++ [createdEvent consent account conn.id conn.bankName "new"] },
      createdAccount account conn.id "new")

def connectAccounts (consent : Consent) :
    Tables → List (AccountPayload × String) → Except ConnectionError (Tables × List CreatedAccount)
  | tables, [] => .ok (tables, [])
  | tables, (account, id) :: accounts => do
    let (tables, created) ← connectAccount consent tables account id
    let (tables, others) ← connectAccounts consent tables accounts
    .ok (tables, created :: others)

/-- The ghost field `sessions` holds the sessions obtained from the bank and not deleted
since. -/
structure State where
  pendingAuths : List PendingAuthorization := []
  tables : Tables := {}
  sessions : List String := []
  deriving DecidableEq

/-- A call with what its environment chooses: the clock, the answer of the bank, the ids,
and whether the database accepts the writes of the second unit of work. -/
structure ConnectCall where
  state : String
  now : Instant
  answer : Except BankError SessionPayload
  uuid4 : ℕ → String
  accepted : Bool

def numbered (call : ConnectCall) (accounts : List AccountPayload) :
    List (AccountPayload × String) :=
  accounts.zipIdx.map fun (account, index) => (account, call.uuid4 index)

def storeAccounts (consent : Consent) (call : ConnectCall) (accounts : List AccountPayload)
    (tables : Tables) : Except ConnectionError (Tables × List CreatedAccount) := do
  let stored ← connectAccounts consent tables (numbered call accounts)
  if call.accepted then .ok stored else .error .refusedByDatabase

def completeConnect (fromisoformat : String → Option Instant) (call : ConnectCall) (state : State) :
    State × Except ConnectionError (List CreatedAccount) :=
  match consume (cleanupExpired state.pendingAuths call.now) call.state call.now with
  | none => (state, .error (.pendingAuthorizationNotFound call.state))
  | some (auth, pendingAuths) =>
    let state := { state with pendingAuths := pendingAuths }
    match call.answer with
    | .error error => (state, .error (.bank error))
    | .ok session =>
      match session.sessionId with
      | none => (state, .error .missingSessionId)
      | some sessionId =>
        let state := { state with sessions := sessionId :: state.sessions }
        let consent := consentOf fromisoformat auth sessionId session
        match storeAccounts consent call session.accounts state.tables with
        | .error error => (state, .error error)
        | .ok (tables, created) => ({ state with tables := tables }, .ok created)

/-- What `delete_session` does; an exception may come before or after the bank has
removed the session. -/
inductive Deletion where
  | deleted
  | failed (removed : Bool)
  deriving DecidableEq

def Deletion.removes : Deletion → Bool
  | .deleted => true
  | .failed removed => removed

structure DisconnectCall where
  connectionId : String
  userId : Int
  deletion : Deletion
  accepted : Bool
  deriving DecidableEq

def disconnectedEvent (conn : BankConnection) (connectionId : String) : OutboxRow where
  event := .disconnected connectionId conn.accountId conn.userId conn.bankName conn.bankAccountIban
  aggregateType := "bank_connection"
  aggregateId := connectionId

def markDisconnected (connectionId : String) (conn : BankConnection) (tables : Tables) : Tables where
  connections := updateStatus tables.connections connectionId .disconnected
  outbox := tables.outbox ++ [disconnectedEvent conn connectionId]

def deleteSession (deletion : Deletion) (sessionId : String) (state : State) : State :=
  if deletion.removes then
    { state with sessions := state.sessions.filter fun session => session ≠ sessionId }
  else state

def disconnect (call : DisconnectCall) (state : State) : State × Except ConnectionError Bool :=
  match getById state.tables.connections call.connectionId with
  | none => (state, .ok false)
  | some conn =>
    if conn.userId ≠ call.userId then (state, .error (.bankAccountNotOwned conn.accountId))
    else
      let state := deleteSession call.deletion conn.sessionId state
      if call.accepted then
        ({ state with tables := markDisconnected call.connectionId conn state.tables }, .ok true)
      else (state, .error .refusedByDatabase)

inductive Call where
  | completeConnect (call : ConnectCall)
  | disconnect (call : DisconnectCall)

def step (fromisoformat : String → Option Instant) (state : State) : Call → State
  | .completeConnect call => (completeConnect fromisoformat call state).1
  | .disconnect call => (disconnect call state).1

variable {rows : List BankConnection} {connectionId : String} {row : BankConnection}

theorem mem_update_status {status : ConnectionStatus}
    (member : row ∈ updateStatus rows connectionId status) :
    (row ∈ rows ∧ row.id ≠ connectionId) ∨
      ∃ old ∈ rows, old.id = connectionId ∧ row = { old with status := status } :=
  mem_replace.mp member

theorem mem_update_consent {sessionId : String} {expiresAt : Option Instant}
    (member : row ∈ updateConsent rows connectionId sessionId expiresAt) :
    (row ∈ rows ∧ row.id ≠ connectionId) ∨ ∃ old ∈ rows, old.id = connectionId ∧
      row = { old with sessionId := sessionId, expiresAt := expiresAt } :=
  mem_replace.mp member

theorem save_rows {after : List BankConnection} {connection : BankConnection}
    (saved : save rows connection = .ok after) : after = rows ++ [connection] := by
  unfold save at saved
  split at saved
  · cases saved
  · cases saved
    rfl

end FinanceTracker.Banking.Connections
