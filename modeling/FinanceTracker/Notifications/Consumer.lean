import FinanceTracker.Notifications.Service

/-!
# Deliveries to the notification consumer

Instances of the consumer handle deliveries of one queue and interleave at their
statements. A delivery is validated and planned, the owner of an account is looked up,
the key is looked for, the row is inserted and committed and the e-mail is sent; then the
callback of the shared consumer settles the delivery. The unique constraint makes an
insert wait for another one of the same key that is not committed, and raise behind a
committed one. A call can fail at any statement, and an instance can crash at any; a
commit that was sent may have succeeded. The ids of the rows are left out.
-/

namespace FinanceTracker.Notifications.Consumer

open Library Columns Json Messaging.Callbacks
open Messaging.ConsumerBase (Consumer Failure onMessage)
open Domain Service

def notificationConsumer : Consumer where
  queueName := "notification_service.events"

/-- What `get_owner_user_id` does: the owner, `AccountNotFound`, or any other exception. -/
inductive OwnerAnswer where
  | owner (userId : Int)
  | notFound
  | failed
  deriving DecidableEq

/-- The ghost field `sourceKey` names the notification that the e-mail is for. -/
structure Email where
  userId : Int
  title : String
  body : String
  sourceKey : String
  deriving DecidableEq

inductive Phase where
  | received
  | resolving (accountId : Int) (request : Request)
  | checking (notification : Notification)
  | absent (notification : Notification)
  | inserted (notification : Notification)
  | committed (notification : Notification)
  | handled (result : Except Failure Unit)
  | unsettled
  | settled

/-- A delivery to an instance, with the id that its validation has drawn and the answer
that account-service has given. -/
structure Session where
  delivery : Delivery
  drawnId : String := ""
  asked : Option (Int × OwnerAnswer) := none
  phase : Phase := .received

/-- `acknowledged` are the deliveries that ended with an ack and without a copy. -/
structure State where
  rows : List Notification := []
  emails : List Email := []
  queue : List Delivery := []
  sessions : List Session := []
  acknowledged : List Session := []
  deadLettered : List Delivery := []

structure Choice where
  drawnId : String := ""
  owner : OwnerAnswer := .failed
  emailSent : Bool := true
  published : Bool := true

def sourceKeyExists (rows : List Notification) (sourceKey : String) : Bool :=
  rows.any fun row => row.sourceKey = sourceKey

def fitsColumns (row : Notification) : Bool :=
  fitsInteger row.userId && fitsVarchar 50 row.type.value && fitsVarchar 200 row.title &&
    fitsVarchar 200 row.sourceKey && row.body.toList.all fun char => char ≠ '\x00'

def Phase.insertedKey : Phase → Option String
  | .inserted notification => some notification.sourceKey
  | _ => none

/-- Another transaction has inserted the key and not yet committed. -/
def isLocked (state : State) (sourceKey : String) : Bool :=
  state.sessions.any fun session => session.phase.insertedKey = some sourceKey

def requested (userId : Int) (request : Request) : Phase :=
  .checking (Notification.fromContent userId request.content request.sourceKey)

def planned : Except Failure Plan → Phase
  | .error failure => .handled (.error failure)
  | .ok .ignored => .handled (.ok ())
  | .ok (.create userId request) => requested userId request
  | .ok (.resolve accountId request) => .resolving accountId request

def plan (validate : ModelValidate) (body : ByteArray) (drawnId : String) : Except Failure Plan :=
  match loads body with
  | some (.obj payload) => do handleEvent (← parseEvent validate payload drawnId)
  | _ => .error .poison

def resolved (request : Request) : OwnerAnswer → Phase
  | .owner userId => requested userId request
  | .notFound => .handled (.ok ())
  | .failed => .handled (.error .other)

/-- The flush of `add`; a second row of a key raises `IntegrityError`, which is acked. -/
def insertRow (state : State) (notification : Notification) : Phase :=
  if isLocked state notification.sourceKey then .absent notification
  else if sourceKeyExists state.rows notification.sourceKey then .handled (.ok ())
  else if fitsColumns notification then .inserted notification
  else .handled (.error .other)

def emailOf (notification : Notification) : Email where
  userId := notification.userId
  title := notification.title
  body := notification.body
  sourceKey := notification.sourceKey

def State.setSession (state : State) (index : ℕ) (session : Session) : State :=
  { state with sessions := state.sessions.set index session }

def Session.at (session : Session) (phase : Phase) : Session := { session with phase := phase }

/-- What the callback does with the delivery once `handle` has returned or raised. -/
def settle (state : State) (index : ℕ) (session : Session) (result : Except Failure Unit)
    (published : Bool) : State :=
  let callback := onMessage notificationConsumer session.delivery
    { handled := result, published := published }
  match fateAfter notificationConsumer.leadsBack session.delivery callback with
  | .queued copy =>
    { state with queue := state.queue ++ [copy] }.setSession index (session.at .settled)
  | .acked =>
    { state with acknowledged := state.acknowledged ++ [session] }.setSession index
      (session.at .settled)
  | .deadLettered =>
    { state with deadLettered := state.deadLettered ++ [session.delivery] }.setSession index
      (session.at .settled)
  | .unsettled => state.setSession index (session.at .unsettled)

def advance (validate : ModelValidate) (state : State) (index : ℕ) (choice : Choice)
    (session : Session) : State :=
  match session.phase with
  | .received =>
    state.setSession index
      { session with
        drawnId := choice.drawnId
        phase := planned (plan validate session.delivery.body choice.drawnId) }
  | .resolving accountId request =>
    state.setSession index
      { session with
        asked := some (accountId, choice.owner)
        phase := resolved request choice.owner }
  | .checking notification =>
    state.setSession index (session.at
      (if sourceKeyExists state.rows notification.sourceKey then .handled (.ok ())
      else .absent notification))
  | .absent notification => state.setSession index (session.at (insertRow state notification))
  | .inserted notification =>
    { state with rows := state.rows ++ [notification] }.setSession index
      (session.at (.committed notification))
  -- The sending is best effort: an exception is swallowed.
  | .committed notification =>
    { state with
      emails := if choice.emailSent then state.emails ++ [emailOf notification]
        else state.emails }.setSession index (session.at (.handled (.ok ())))
  | .handled result => settle state index session result choice.published
  | .unsettled => state
  | .settled => state

/-- The rows when the transaction of the session ends without an answer to its commit. -/
def rowsAfter (state : State) (session : Session) (committed : Bool) : List Notification :=
  match session.phase with
  | .inserted notification => if committed then state.rows ++ [notification] else state.rows
  | _ => state.rows

def isOpen : Phase → Bool
  | .unsettled => false
  | .settled => false
  | _ => true

def fail (state : State) (index : ℕ) (committed : Bool) (session : Session) : State :=
  if isOpen session.phase then
    { state with rows := rowsAfter state session committed }.setSession index
      (session.at (.handled (.error .other)))
  else state

def isSettled : Phase → Bool
  | .settled => true
  | _ => false

/-- The broker delivers again what a dead instance has not settled. -/
def crash (state : State) (index : ℕ) (committed : Bool) (session : Session) : State :=
  if isSettled session.phase then state
  else
    { state with
      rows := rowsAfter state session committed
      queue := state.queue ++ [session.delivery] }.setSession index (session.at .settled)

inductive Label where
  | publish (delivery : Delivery)
  | take (position : ℕ)
  | advance (index : ℕ) (choice : Choice)
  | fail (index : ℕ) (committed : Bool)
  | crash (index : ℕ) (committed : Bool)

def onSession (state : State) (index : ℕ) (move : Session → State) : State :=
  match state.sessions[index]? with
  | none => state
  | some session => move session

def step (validate : ModelValidate) (state : State) : Label → State
  | .publish delivery => { state with queue := state.queue ++ [delivery] }
  | .take position =>
    match state.queue[position]? with
    | none => state
    | some delivery =>
      { state with
        queue := state.queue.eraseIdx position
        sessions := state.sessions ++ [{ delivery := delivery }] }
  | .advance index choice => onSession state index (advance validate state index choice)
  | .fail index committed => onSession state index (fail state index committed)
  | .crash index committed => onSession state index (crash state index committed)

end FinanceTracker.Notifications.Consumer
