import FinanceTracker.Library.ReadCommitted
import FinanceTracker.Library.Runs
import FinanceTracker.Banking.Connections

/-!
# Overlapping connects and disconnects

Calls of `complete_connect` and `disconnect` interleave at their statements under READ
COMMITTED. A step of a call is one statement on the database, or the call of the bank,
after which the call goes on with the next line of its code. An error inside a unit of
work, a deadlock and a crash roll back. The outbox is left out, since no call reads it.
-/

namespace FinanceTracker.Banking.ConcurrentConnections

open Library KeyedRows ReadCommitted Connections
open MarkSyncComplete (Instant)

structure Storing where
  consent : Consent
  created : List CreatedAccount := []
  deriving DecidableEq

def Storing.add (work : Storing) (account : AccountPayload) (connectionId status : String) :
    Storing :=
  { work with created := work.created ++ [createdAccount account connectionId status] }

/-- How far a `complete_connect` has come; `accounts` are still to be stored. -/
inductive ConnectPhase where
  | requested
  | cleaned
  | consumed (auth : Int × Int)
  | authorized (auth : Int × Int)
  | storing (work : Storing) (accounts : List AccountPayload)
  | found (work : Storing) (account : AccountPayload) (accounts : List AccountPayload)
      (existing : BankConnection)
  | reactivated (work : Storing) (account : AccountPayload) (accounts : List AccountPayload)
      (existing : BankConnection)
  | absent (work : Storing) (account : AccountPayload) (accounts : List AccountPayload)
  | completed (created : List CreatedAccount)
  | raised (error : ConnectionError)
  deriving DecidableEq

inductive DisconnectPhase where
  | requested
  | found (conn : BankConnection)
  | deleted (conn : BankConnection)
  | marked (conn : BankConnection)
  | returned (found : Bool)
  | raised (error : ConnectionError)
  deriving DecidableEq

inductive Session where
  | connect (authState : String) (phase : ConnectPhase)
  | disconnect (connectionId : String) (userId : Int) (phase : DisconnectPhase)
  deriving DecidableEq

/-- A statement on the database; reads and the calls of the bank write nothing. -/
inductive Statement where
  | reads
  | cleanupExpired (now : Instant)
  | consume (authState : String) (now : Instant)
  | updateStatus (connectionId : String) (status : ConnectionStatus)
  | updateConsent (connectionId sessionId : String) (expiresAt : Option Instant)
  | save (connection : BankConnection)
  | commit
  | rollback
  deriving DecidableEq

structure State where
  connections : Table ℕ BankConnection.id
  pendingAuths : Table ℕ PendingAuthorization.state
  calls : List Session := []

/-- What the environment of a step chooses: the clock, the answer of the bank, an id. -/
structure Choice where
  now : Instant := 0
  answer : Except BankError SessionPayload := .error .apiUnavailable
  id : String := ""

def taken (state : State) (id : String) : Bool :=
  state.connections.rows.any fun row => row.id = id

/-- The next statement of a `complete_connect` and how it goes on after it. -/
def nextConnect (fromisoformat : String → Option Instant) (state : State) (party : ℕ)
    (choice : Choice) (authState : String) : ConnectPhase → Statement × ConnectPhase
  | .requested => (.cleanupExpired choice.now, .cleaned)
  | .cleaned =>
    match (state.pendingAuths.view (some party)).find? fun row =>
        row.state = authState && isConsumable choice.now row with
    | none => (.rollback, .raised (.pendingAuthorizationNotFound authState))
    | some auth => (.consume authState choice.now, .consumed (auth.accountId, auth.userId))
  | .consumed auth => (.commit, .authorized auth)
  | .authorized auth =>
    match choice.answer with
    | .error error => (.reads, .raised (.bank error))
    | .ok session =>
      match session.sessionId with
      | none => (.reads, .raised .missingSessionId)
      | some sessionId =>
        (.reads, .storing { consent := consentOf fromisoformat auth sessionId session }
          session.accounts)
  | .storing work [] => (.commit, .completed work.created)
  | .storing work (account :: accounts) =>
    match getActiveByUid (state.connections.view (some party)) (account.uid.getD "")
        work.consent.accountId with
    | .error error => (.rollback, .raised error)
    | .ok (some existing) => (.reads, .found work account accounts existing)
    | .ok none => (.reads, .absent work account accounts)
  | .found work account accounts existing =>
    (.updateStatus existing.id .active, .reactivated work account accounts existing)
  | .reactivated work account accounts existing =>
    (.updateConsent existing.id work.consent.sessionId work.consent.expiresAt,
      .storing (work.add account existing.id "reconnected") accounts)
  | .absent work account accounts =>
    if taken state choice.id then (.rollback, .raised .refusedByDatabase)
    else (.save (newConnection work.consent choice.id account),
      .storing (work.add account choice.id "new") accounts)
  | .completed created => (.reads, .completed created)
  | .raised error => (.reads, .raised error)

def nextDisconnect (state : State) (party : ℕ) (connectionId : String) (userId : Int) :
    DisconnectPhase → Statement × DisconnectPhase
  | .requested =>
    match getById (state.connections.view (some party)) connectionId with
    | none => (.reads, .returned false)
    | some conn =>
      if conn.userId ≠ userId then (.reads, .raised (.bankAccountNotOwned conn.accountId))
      else (.reads, .found conn)
  -- Whatever `delete_session` does, the call goes on.
  | .found conn => (.reads, .deleted conn)
  | .deleted conn => (.updateStatus connectionId .disconnected, .marked conn)
  | .marked _ => (.commit, .returned true)
  | .returned found => (.reads, .returned found)
  | .raised error => (.reads, .raised error)

def nextStatement (fromisoformat : String → Option Instant) (state : State) (party : ℕ)
    (choice : Choice) : Session → Statement × Session
  | .connect authState phase =>
    let (statement, next) := nextConnect fromisoformat state party choice authState phase
    (statement, .connect authState next)
  | .disconnect connectionId userId phase =>
    let (statement, next) := nextDisconnect state party connectionId userId phase
    (statement, .disconnect connectionId userId next)

def hasId (connectionId : String) (row : BankConnection) : Bool := row.id = connectionId

def isState (authState : String) (now : Instant) (row : PendingAuthorization) : Bool :=
  row.state = authState && isConsumable now row

/-- A statement that writes a row waits for the transaction that has written it. -/
def blocked (state : State) (party : ℕ) : Statement → Bool
  | .cleanupExpired now => state.pendingAuths.blocked party (isObsolete now)
  | .consume authState now => state.pendingAuths.blocked party (isState authState now)
  | .updateStatus connectionId _ => state.connections.blocked party (hasId connectionId)
  | .updateConsent connectionId _ _ => state.connections.blocked party (hasId connectionId)
  | _ => false

def writeStatus (table : Table ℕ BankConnection.id) (party : ℕ) (connectionId : String)
    (status : ConnectionStatus) : Table ℕ BankConnection.id :=
  table.write party (hasId connectionId) (fun row => some { row with status := status }) (by
    intro _ _ changed
    cases changed
    rfl)

def writeConsent (table : Table ℕ BankConnection.id) (party : ℕ) (connectionId sessionId : String)
    (expiresAt : Option Instant) : Table ℕ BankConnection.id :=
  table.write party (hasId connectionId)
    (fun row => some { row with sessionId := sessionId, expiresAt := expiresAt }) (by
    intro _ _ changed
    cases changed
    rfl)

def writeConnection (table : Table ℕ BankConnection.id) (party : ℕ) (connection : BankConnection) :
    Table ℕ BankConnection.id :=
  if fresh : ∀ stored ∈ table.rows, stored.id ≠ connection.id then
    table.insert party connection fresh
  else table

def deleteObsolete (table : Table ℕ PendingAuthorization.state) (party : ℕ) (now : Instant) :
    Table ℕ PendingAuthorization.state :=
  table.write party (isObsolete now) (fun _ => none) (by
    intro _ _ changed
    cases changed)

def writeConsumed (table : Table ℕ PendingAuthorization.state) (party : ℕ) (authState : String)
    (now : Instant) : Table ℕ PendingAuthorization.state :=
  table.write party (isState authState now) (fun row => some { row with consumedAt := some now }) (by
    intro _ _ changed
    cases changed
    rfl)

def execute (state : State) (party : ℕ) : Statement → State
  | .reads => state
  | .cleanupExpired now =>
    { state with pendingAuths := deleteObsolete state.pendingAuths party now }
  | .consume authState now =>
    { state with pendingAuths := writeConsumed state.pendingAuths party authState now }
  | .updateStatus connectionId status =>
    { state with connections := writeStatus state.connections party connectionId status }
  | .updateConsent connectionId sessionId expiresAt =>
    { state with
      connections := writeConsent state.connections party connectionId sessionId expiresAt }
  | .save connection =>
    { state with connections := writeConnection state.connections party connection }
  | .commit =>
    { state with
      connections := state.connections.commit party
      pendingAuths := state.pendingAuths.commit party }
  | .rollback =>
    { state with
      connections := state.connections.rollback party
      pendingAuths := state.pendingAuths.rollback party }

/-- A call that has not ended raises. -/
def Session.abort : Session → Session
  | .connect authState (.completed created) => .connect authState (.completed created)
  | .connect authState (.raised error) => .connect authState (.raised error)
  | .connect authState _ => .connect authState (.raised .refusedByDatabase)
  | .disconnect connectionId userId (.returned found) =>
    .disconnect connectionId userId (.returned found)
  | .disconnect connectionId userId (.raised error) =>
    .disconnect connectionId userId (.raised error)
  | .disconnect connectionId userId _ =>
    .disconnect connectionId userId (.raised .refusedByDatabase)

inductive Label where
  | completeConnect (authState : String)
  | disconnect (connectionId : String) (userId : Int)
  | proceed (party : ℕ) (choice : Choice)
  | abort (party : ℕ)

def State.setCall (state : State) (party : ℕ) (session : Session) : State :=
  { state with calls := state.calls.set party session }

def proceed (fromisoformat : String → Option Instant) (state : State) (party : ℕ)
    (choice : Choice) (session : Session) : State :=
  let (statement, next) := nextStatement fromisoformat state party choice session
  if blocked state party statement then state
  else (execute state party statement).setCall party next

def step (fromisoformat : String → Option Instant) (state : State) : Label → State
  | .completeConnect authState =>
    { state with calls := state.calls ++ [.connect authState .requested] }
  | .disconnect connectionId userId =>
    { state with calls := state.calls ++ [.disconnect connectionId userId .requested] }
  | .proceed party choice =>
    match state.calls[party]? with
    | none => state
    | some session => proceed fromisoformat state party choice session
  | .abort party =>
    match state.calls[party]? with
    | none => state
    | some session => (execute state party .rollback).setCall party session.abort

/-- No call has begun. -/
def start (connections : List BankConnection) (distinct : DistinctKeys BankConnection.id connections)
    (auths : List PendingAuthorization)
    (distinctStates : DistinctKeys PendingAuthorization.state auths) : State where
  connections := Table.ofRows connections distinct
  pendingAuths := Table.ofRows auths distinctStates

end FinanceTracker.Banking.ConcurrentConnections
