import Mathlib.Data.List.Infix
import FinanceTracker.Accounts.Service
import FinanceTracker.Library.Sessions

/-!
# The default account of a new user

Deliveries of `user.created` to the account creation consumer beside the calls of the
API that create and rename accounts, statement by statement under READ COMMITTED. An
uncommitted write keeps its row and, when it takes or gives up the name
`Default Account`, the user's slot of the partial unique index: who needs either waits.
A delivery that comes again is one more session.
-/

namespace FinanceTracker.Accounts.DefaultAccount

open Library KeyedRows Runs Sessions Service List

inductive Call where
  | userCreated (userId : Int)
  | createAccount (userId : Int) (data : AccountBase)
  | updateAccount (userId : Int) (accountId : Nat) (data : AccountBase)

/-- What a session has flushed: `before` is the row that the UPDATE found. -/
inductive Write where
  | insert (account : Account)
  | update (before account : Account)
  | unchanged (account : Account)
  deriving DecidableEq

/-- `skipped` is a delivery that returns without an account of its own. -/
inductive Phase where
  | started
  | absent
  | confirmed
  | loaded (existing : Account)
  | wrote (write : Write)
  | recorded (write : Write) (event : AccountEvent)
  | committed (write : Write)
  | skipped
  | rejected
  | raised (failure : AccountError)
  deriving DecidableEq

structure Session where
  call : Call
  phase : Phase := .started

structure State where
  db : AccountDb := {}
  sessions : List Session := []

def State.setPhase (state : State) (index : Nat) (session : Session) (phase : Phase) : State :=
  { state with sessions := state.sessions.set index { session with phase := phase } }

/-- The account that `_handle_user_created` asks for. -/
def defaultData : AccountBase where
  name := defaultName
  saldo := 0
  budgetStartDay := 1
  named := by decide

def Call.creates : Call → Option (Int × AccountBase)
  | .userCreated userId => some (userId, defaultData)
  | .createAccount userId data => some (userId, data)
  | .updateAccount _ _ _ => none

def containsText (needle text : String) : Bool :=
  decide (needle.toList <:+: text.toLower.toList)

def isDuplicateError (failure : AccountError) : Bool :=
  containsText "unique" failure.message || containsText "duplicate" failure.message

/-- `create_account` or `update_account` has raised; the session is rolled back. -/
def afterError (call : Call) (failure : AccountError) : Phase :=
  match call with
  | .userCreated _ => if isDuplicateError failure then .skipped else .raised failure
  | _ => .raised failure

def pending (session : Session) : Option Write :=
  match session.phase with
  | .wrote write => some write
  | .recorded write _ => some write
  | _ => none

def Write.touchesSlot (userId : Int) : Write → Bool
  | .insert account => account.userId = userId && account.name = defaultName
  | .update before account =>
    account.userId = userId && (before.name = defaultName || account.name = defaultName)
  | .unchanged _ => false

def Write.locksRow (accountId : Nat) : Write → Bool
  | .update before _ => before.idAccount = accountId
  | _ => false

def heldByOther (state : State) (index : Nat) (holds : Write → Bool) : Bool :=
  (List.range state.sessions.length).any fun other =>
    other ≠ index && (state.sessions[other]?.bind pending).any holds

def selectAccounts (state : State) (userId : Int) : Phase :=
  if state.db.accounts.any fun account => account.userId = userId then .skipped else .absent

def askUser (call : Call) (userId : Int) (answer : UserAnswer) : Phase :=
  let asked : Except AccountError Unit := do
    userExists userId answer
    requireUserId userId
  match asked with
  | .ok _ => .confirmed
  | .error failure => afterError call failure

/-- The INSERT; the sequence gives a number even to a row that is refused. -/
def insertAccount (state : State) (index : Nat) (session : Session) (userId : Int)
    (data : AccountBase) : State :=
  if data.name = defaultName && heldByOther state index (Write.touchesSlot userId) then state
  else
    let account := newAccount state.db.nextId userId data
    let drawn := { state with db := { state.db with nextId := state.db.nextId + 1 } }
    match checkDefault state.db.accounts account with
    | .error failure => drawn.setPhase index session (afterError session.call failure)
    | .ok _ => drawn.setPhase index session (.wrote (.insert account))

/-- The UPDATE sets the columns that differ from what the session has read. -/
def changedColumns (data : AccountBase) (existing row : Account) : Account :=
  { row with
    name := if data.name = existing.name then row.name else data.name
    saldo := if data.saldo = existing.saldo then row.saldo else data.saldo
    budgetStartDay :=
      if clampDay data.budgetStartDay = existing.budgetStartDay then row.budgetStartDay
      else clampDay data.budgetStartDay }

def selectAccount (state : State) (userId : Int) (accountId : Nat) : Phase :=
  match lookup Account.idAccount state.db.accounts accountId with
  | none => .rejected
  | some existing => if existing.userId = userId then .loaded existing else .rejected

/-- The flush of `update`: no UPDATE when nothing differs. -/
def updateRow (state : State) (index : Nat) (session : Session) (data : AccountBase)
    (existing : Account) : State :=
  match lookup Account.idAccount state.db.accounts existing.idAccount with
  | none => state.setPhase index session (.raised .staleRow)
  | some row =>
    if changedAccount data existing = existing then
      state.setPhase index session (.wrote (.unchanged row))
    else
      let account := changedColumns data existing row
      if heldByOther state index (Write.locksRow row.idAccount) then state
      else if account.name = defaultName &&
          heldByOther state index (Write.touchesSlot account.userId) then state
      else
        match checkDefault state.db.accounts account with
        | .error failure => state.setPhase index session (.raised failure)
        | .ok _ => state.setPhase index session (.wrote (.update row account))

def eventOf (write : Write) (now : Int) : AccountEvent :=
  match write with
  | .insert account => createdEvent account now
  | .update _ account => updatedEvent account now
  | .unchanged account => updatedEvent account now

def applyWrite (accounts : List Account) : Write → List Account
  | .insert account => accounts ++ [account]
  | .update before account =>
    replace Account.idAccount accounts before.idAccount fun row =>
      { row with
        name := account.name
        saldo := account.saldo
        budgetStartDay := account.budgetStartDay }
  | .unchanged _ => accounts

def commit (state : State) (index : Nat) (session : Session) (write : Write)
    (event : AccountEvent) : State :=
  { state with
    db := { state.db with
      accounts := applyWrite state.db.accounts write
      outbox := state.db.outbox ++ [event] } }.setPhase index session (.committed write)

structure Choice where
  answer : UserAnswer := .known
  now : Int := 0

inductive Label where
  | start (call : Call)
  | advance (index : Nat) (choice : Choice)
  | fail (index : Nat)

/-- The next statement of a session; a session that waits stays as it is. -/
def advance (state : State) (index : Nat) (choice : Choice) (session : Session) : State :=
  match session.phase with
  | .started =>
    match session.call with
    | .userCreated userId => state.setPhase index session (selectAccounts state userId)
    | .createAccount userId _ =>
      state.setPhase index session (askUser session.call userId choice.answer)
    | .updateAccount userId accountId _ =>
      state.setPhase index session (selectAccount state userId accountId)
  | .absent =>
    match session.call with
    | .userCreated userId =>
      state.setPhase index session (askUser session.call userId choice.answer)
    | _ => state
  | .confirmed =>
    match session.call.creates with
    | some (userId, data) => insertAccount state index session userId data
    | none => state
  | .loaded existing =>
    match session.call with
    | .updateAccount _ _ data => updateRow state index session data existing
    | _ => state
  | .wrote write =>
    state.setPhase index session (.recorded write (eventOf write choice.now))
  | .recorded write event => commit state index session write event
  | .committed _ => state
  | .skipped => state
  | .rejected => state
  | .raised _ => state

/-- The connection is lost before the commit. -/
def fail (state : State) (index : Nat) (session : Session) : State :=
  match session.phase with
  | .started => state.setPhase index session (.raised .connectionLost)
  | .committed _ => state
  | .skipped => state
  | .rejected => state
  | .raised _ => state
  | _ => state.setPhase index session (afterError session.call .connectionLost)

def step (state : State) : Label → State
  | .start call => { state with sessions := state.sessions ++ [{ call := call }] }
  | .advance index choice =>
    match state.sessions[index]? with
    | none => state
    | some session => advance state index choice session
  | .fail index =>
    match state.sessions[index]? with
    | none => state
    | some session => fail state index session

def accountRun (labels : List Label) : State :=
  runFrom step {} labels

/-- The user whose account a delivery has committed. -/
def insertedFor : Session → Option Int
  | ⟨.userCreated userId, .committed _⟩ => some userId
  | _ => none

def isCreated (accountId : Nat) (event : AccountEvent) : Bool :=
  event.eventType = "account.created" && event.accountId = accountId

structure DefaultAccountOnce (state : State) : Prop where
  once : Exclusive insertedFor state.sessions
  announced : ∀ account ∈ state.db.accounts,
    (state.db.outbox.filter (isCreated account.idAccount)).length = 1
  skipped : ∀ session ∈ state.sessions, ∀ userId, session.call = .userCreated userId →
    session.phase = .skipped → ∃ account ∈ state.db.accounts, account.userId = userId

/-- A delivery inserts an account although an earlier one did: the name is free again. -/
def insertsAnother (state : State) (index : Nat) : Bool :=
  match state.sessions[index]? with
  | some ⟨.userCreated userId, .confirmed⟩ =>
    state.sessions.any (fun session => insertedFor session = some userId) &&
      !heldByOther state index (Write.touchesSlot userId) &&
      !state.db.accounts.any fun account =>
        account.name = defaultName && account.userId = userId
  | _ => false

def NameStillTaken (state : State) : Label → Prop
  | .advance index _ => insertsAnother state index = false
  | _ => True

instance (state : State) (label : Label) : Decidable (NameStillTaken state label) :=
  match label with
  | .advance index _ => inferInstanceAs (Decidable (insertsAnother state index = false))
  | .start _ => isTrue trivial
  | .fail _ => isTrue trivial

theorem ask_user_failure {userId : Int} {answer : UserAnswer} {failure : AccountError}
    (asked : (do
      userExists userId answer
      requireUserId userId : Except AccountError Unit) = .error failure) :
    isDuplicateError failure = false := by
  cases answer with
  | known =>
    unfold requireUserId at asked
    simp only [userExists, ok_bind] at asked
    split at asked
    · cases asked
      decide +kernel
    · cases asked
  | missing =>
    simp only [userExists, error_bind] at asked
    cases asked
    change isDuplicateError (.userNotFoundForAccount 0) = false
    decide +kernel
  | unavailable =>
    simp only [userExists, error_bind] at asked
    cases asked
    decide +kernel

def createdIds (outbox : List AccountEvent) : List Nat :=
  (outbox.filter fun event => event.eventType = "account.created").map AccountEvent.accountId

/-- The number of a row that is inserted and not committed. -/
def drawnId (session : Session) : Option Nat :=
  match pending session with
  | some (.insert account) => some account.idAccount
  | _ => none

def insertsFor (session : Session) : Option Int :=
  match session.call with
  | .userCreated userId =>
    match session.phase with
    | .wrote _ => some userId
    | .recorded _ _ => some userId
    | .committed _ => some userId
    | _ => none
  | _ => none

/-- A write that the table can take. -/
structure FitsWrite (db : AccountDb) (call : Call) (write : Write) : Prop where
  new : ∀ account, write = .insert account → account.idAccount < db.nextId ∧
    ∀ stored ∈ db.accounts, stored.idAccount ≠ account.idAccount
  ofDelivery : ∀ userId, call = .userCreated userId → ∃ account, write = .insert account ∧
    account.userId = userId ∧ account.name = defaultName

def Fits (db : AccountDb) (session : Session) : Prop :=
  match session.phase with
  | .wrote write => FitsWrite db session.call write
  | .recorded write event => FitsWrite db session.call write ∧ ∃ now, event = eventOf write now
  | .skipped => ∀ userId, session.call = .userCreated userId →
      ∃ account ∈ db.accounts, account.userId = userId
  | _ => True

structure Inv (state : State) : Prop where
  ids : DistinctKeys Account.idAccount state.db.accounts
  below : ∀ account ∈ state.db.accounts, account.idAccount < state.db.nextId
  announced : createdIds state.db.outbox = state.db.accounts.map Account.idAccount
  fits : ∀ session ∈ state.sessions, Fits state.db session
  drawn : Exclusive drawnId state.sessions
  inserts : Exclusive insertsFor state.sessions

theorem held_by_other_false {state : State} {index other : Nat} {holds : Write → Bool}
    (free : heldByOther state index holds = false) {session : Session}
    (here : state.sessions[other]? = some session) (others : other ≠ index) {write : Write}
    (writes : pending session = some write) : holds write = false := by
  have apart := no_other free here others
  simpa [here, writes] using apart

section Moves

variable {state : State} {index : Nat} {session : Session}

theorem move_inv (invariant : Inv state) (db : AccountDb) (next : Session)
    (ids : DistinctKeys Account.idAccount db.accounts)
    (below : ∀ account ∈ db.accounts, account.idAccount < db.nextId)
    (announced : createdIds db.outbox = db.accounts.map Account.idAccount)
    (others : ∀ other found, other ≠ index → state.sessions[other]? = some found →
      Fits state.db found → Fits db found)
    (fits : Fits db next)
    (drawn : ∀ key, drawnId next = some key →
      Claims drawnId state.sessions index key ∨ ∀ other, ¬ Claims drawnId state.sessions other key)
    (inserts : ∀ key, insertsFor next = some key → Claims insertsFor state.sessions index key ∨
        ∀ other, ¬ Claims insertsFor state.sessions other key) :
    Inv { db := db, sessions := state.sessions.set index next } where
  ids := ids
  below := below
  announced := announced
  fits := by
    intro found member
    obtain ⟨other, got⟩ := mem_iff_getElem?.mp member
    rcases get_set_cases got with ⟨_, rfl⟩ | ⟨elsewhere, before⟩
    · exact fits
    · have fitted := invariant.fits found (mem_of_getElem? before)
      exact others other found elsewhere before fitted
  drawn := exclusive_set invariant.drawn drawn
  inserts := exclusive_set invariant.inserts inserts

variable {number other : Nat} {phase : Phase} {failure : AccountError}

theorem fits_drawn {found : Session} (later : state.db.nextId ≤ number) (fits : Fits state.db found) : Fits { state.db with nextId := number } found := by
  have write_fits {call : Call} {write : Write} (fitted : FitsWrite state.db call write) :
      FitsWrite { state.db with nextId := number } call write :=
    ⟨fun account inserted => ⟨Nat.lt_of_lt_of_le (fitted.new account inserted).1 later,
      (fitted.new account inserted).2⟩, fitted.ofDelivery⟩
  unfold Fits at fits ⊢
  split at fits
  · exact write_fits fits
  · exact ⟨write_fits fits.1, fits.2⟩
  · exact fits
  · trivial

def Phase.isIdle : Phase → Bool
  | .wrote _ => false
  | .recorded _ _ => false
  | .committed _ => false
  | _ => true

theorem idle_claims (idle : phase.isIdle = true) (call : Call) :
    drawnId ⟨call, phase⟩ = none ∧ insertsFor ⟨call, phase⟩ = none := by
  cases phase with
  | wrote | recorded | committed => cases idle
  | _ => cases call <;> exact ⟨rfl, rfl⟩

theorem idle_inv (invariant : Inv state) (later : state.db.nextId ≤ number)
    (idle : phase.isIdle = true)
    (skips : phase = .skipped → ∀ userId, session.call = .userCreated userId →
      ∃ account ∈ state.db.accounts, account.userId = userId) :
    Inv ({ state with db := { state.db with nextId := number } }.setPhase index session phase) := by
  obtain ⟨noDrawn, noInsert⟩ := idle_claims idle session.call
  apply move_inv invariant { state.db with nextId := number } { session with phase := phase }
    invariant.ids
  · exact fun account member => Nat.lt_of_lt_of_le (invariant.below account member) later
  · exact invariant.announced
  · exact fun _ found _ _ fits => fits_drawn later fits
  · unfold Fits
    dsimp only
    split
    · cases idle
    · cases idle
    · exact skips rfl
    · trivial
  · intro _ claimed
    rw [noDrawn] at claimed
    cases claimed
  · intro _ claimed
    rw [noInsert] at claimed
    cases claimed

variable {userId : Int} {accounts : List Account} {account : Account} {data : AccountBase}
  {write : Write}

theorem select_inv (invariant : Inv state) (call : session.call = .userCreated userId) :
    Inv (state.setPhase index session (selectAccounts state userId)) := by
  unfold selectAccounts
  split
  · next some =>
    apply idle_inv invariant (Nat.le_refl _) rfl
    intro _ _ same
    rw [call] at same
    cases same
    simpa using some
  · apply idle_inv invariant (Nat.le_refl _) rfl
    intro skipped
    cases skipped

theorem after_error_idle (call : Call) (failure : AccountError) :
    (afterError call failure).isIdle = true := by
  unfold afterError
  split
  · split <;> rfl
  · rfl

theorem after_error_raised (plain : isDuplicateError failure = false) (call : Call) :
    afterError call failure = .raised failure := by
  unfold afterError
  rw [plain]
  cases call <;> rfl

theorem ask_inv (invariant : Inv state) (userId : Int) (answer : UserAnswer) :
    Inv (state.setPhase index session (askUser session.call userId answer)) := by
  unfold askUser
  dsimp only
  split
  · apply idle_inv invariant (Nat.le_refl _) rfl
    intro skipped
    cases skipped
  · next failure asked =>
    rw [after_error_raised (ask_user_failure asked)]
    apply idle_inv invariant (Nat.le_refl _) rfl
    intro skipped
    cases skipped

theorem check_default_refused (refused : checkDefault accounts account = .error failure) :
    defaultTaken accounts account.idAccount account.userId = true := by
  unfold checkDefault at refused
  split at refused
  · next taken => exact taken.2
  · cases refused

theorem check_default_accepted {done : Unit} (accepted : checkDefault accounts account = .ok done) :
    ¬ (account.name = defaultName ∧
      defaultTaken accounts account.idAccount account.userId = true) := by
  unfold checkDefault at accepted
  split at accepted
  · cases accepted
  · next notBoth => exact notBoth

theorem drawn_below (invariant : Inv state) {key : Nat}
    (claims : Claims drawnId state.sessions other key) : key < state.db.nextId := by
  obtain ⟨found, got, claimed⟩ := claims
  have fits := invariant.fits found (mem_of_getElem? got)
  unfold drawnId pending at claimed
  unfold Fits at fits
  cases phase : found.phase with
  | wrote write =>
    rw [phase] at claimed fits
    cases write with
    | insert account =>
      cases claimed
      exact (fits.new account rfl).1
    | update => cases claimed
    | unchanged => cases claimed
  | recorded write =>
    rw [phase] at claimed fits
    cases write with
    | insert account =>
      cases claimed
      exact (fits.1.new account rfl).1
    | update => cases claimed
    | unchanged => cases claimed
  | _ => simp [phase] at claimed

theorem creates_default {key : Int} (creates : session.call.creates = some (userId, data))
    (inserts : insertsFor { session with phase := .wrote write } = some key) :
    session.call = .userCreated userId ∧ data = defaultData ∧ key = userId := by
  unfold insertsFor at inserts
  dsimp only at inserts
  split at inserts
  · next other call =>
    rw [call] at creates
    cases creates
    cases inserts
    exact ⟨call, rfl, rfl⟩
  · cases inserts

/-- No other delivery of the user has an account when this one's is accepted: an
uncommitted one holds the slot, a committed one leaves the name taken. -/
theorem no_other_insert (invariant : Inv state) (allowed : insertsAnother state index = false)
    (here : state.sessions[index]? = some session) (confirmed : session.phase = .confirmed)
    (call : session.call = .userCreated userId)
    (free : heldByOther state index (Write.touchesSlot userId) = false)
    (accepted : defaultTaken state.db.accounts state.db.nextId userId = false) :
    ¬ Claims insertsFor state.sessions other userId := by
  rintro ⟨found, got, claimed⟩
  have fits := invariant.fits found (mem_of_getElem? got)
  have apart : other ≠ index := by
    rintro rfl
    rw [here] at got
    cases got
    simp [insertsFor, call, confirmed] at claimed
  have holdsNot (write : Write) (writes : pending found = some write)
      (fitted : FitsWrite state.db found.call write) (same : found.call = .userCreated userId) :
      False := by
    obtain ⟨_, rfl, owner, name⟩ := fitted.ofDelivery userId same
    have slot := held_by_other_false free got apart writes
    simp [Write.touchesSlot, owner, name] at slot
  unfold insertsFor at claimed
  split at claimed
  · next foundUser foundCall =>
    unfold Fits at fits
    cases phase : found.phase with
    | wrote write =>
      rw [phase] at claimed fits
      cases claimed
      exact holdsNot write (by simp [pending, phase]) fits foundCall
    | recorded write =>
      rw [phase] at claimed fits
      cases claimed
      exact holdsNot write (by simp [pending, phase]) fits.1 foundCall
    | committed =>
      rw [phase] at claimed
      cases claimed
      have inserted : state.sessions.any
          (fun session => insertedFor session = some userId) = true := by
        refine any_eq_true.mpr ⟨found, mem_of_getElem? got, ?_⟩
        obtain ⟨_, _⟩ := found
        cases foundCall
        cases phase
        exact decide_eq_true rfl
      obtain ⟨_, _⟩ := session
      cases call
      cases confirmed
      unfold insertsAnother at allowed
      rw [here] at allowed
      simp only [inserted, free, Bool.not_false, Bool.and_true, Bool.true_and,
        Bool.not_eq_false'] at allowed
      obtain ⟨stored, member, named⟩ := any_eq_true.mp allowed
      have different := Nat.ne_of_lt (invariant.below stored member)
      refine any_eq_false.mp accepted stored member ?_
      simpa [different] using named
    | _ => simp [phase] at claimed
  · cases claimed

theorem insert_inv (invariant : Inv state) (allowed : insertsAnother state index = false)
    (here : state.sessions[index]? = some session) (confirmed : session.phase = .confirmed)
    (creates : session.call.creates = some (userId, data)) :
    Inv (insertAccount state index session userId data) := by
  unfold insertAccount
  split
  · exact invariant
  · next free =>
    dsimp only
    split
    · next failure refused =>
      apply idle_inv invariant (Nat.le_succ _) (after_error_idle _ _)
      intro _ _ call
      have taken := check_default_refused refused
      rw [call] at creates
      cases creates
      obtain ⟨stored, member, holds⟩ := any_eq_true.mp taken
      simp only [newAccount, Bool.and_eq_true, decide_eq_true_eq] at holds
      exact ⟨stored, member, of_decide_eq_true holds.1.2⟩
    · next accepted =>
      apply move_inv invariant { state.db with nextId := state.db.nextId + 1 }
        { session with phase := .wrote (.insert (newAccount state.db.nextId userId data)) }
        invariant.ids
      · exact fun account member => Nat.lt_succ_of_lt (invariant.below account member)
      · exact invariant.announced
      · exact fun _ found _ _ fits => fits_drawn (Nat.le_succ _) fits
      · refine ⟨?_, ?_⟩
        · intro _ written
          cases written
          exact ⟨Nat.lt_succ_self _, fun stored member =>
            Nat.ne_of_lt (invariant.below stored member)⟩
        · intro _ call
          dsimp only at call
          rw [call] at creates
          cases creates
          exact ⟨_, rfl, rfl, rfl⟩
      · intro _ drawn
        cases drawn
        right
        intro _ claims
        exact absurd (drawn_below invariant claims) (Nat.lt_irrefl _)
      · intro key inserts
        right
        intro _ claims
        obtain ⟨call, rfl, rfl⟩ := creates_default creates inserts
        have slotFree : heldByOther state index (Write.touchesSlot key) = false := by
          simpa [defaultData] using free
        have nameFree : defaultTaken state.db.accounts state.db.nextId key = false := by
          have notBoth := check_default_accepted accepted
          simpa [newAccount, defaultData] using notBoth
        exact no_other_insert invariant allowed here confirmed call slotFree nameFree claims

theorem update_inv (invariant : Inv state) {accountId : Nat}
    (call : session.call = .updateAccount userId accountId data) (existing : Account) :
    Inv (updateRow state index session data existing) := by
  have raises (failure : AccountError) : Inv (state.setPhase index session (.raised failure)) := by
    apply idle_inv invariant (Nat.le_refl _) rfl
    intro skipped
    cases skipped
  have writes (write : Write) (noInsert : ∀ account, write ≠ .insert account) :
      Inv (state.setPhase index session (.wrote write)) := by
    apply move_inv invariant state.db { session with phase := .wrote write } invariant.ids
      invariant.below invariant.announced
    · exact fun _ _ _ _ fits => fits
    · refine ⟨fun account inserted => absurd inserted (noInsert account), ?_⟩
      intro _ created
      rw [call] at created
      cases created
    · intro _ drawn
      cases write with
      | insert account => exact absurd rfl (noInsert account)
      | update | unchanged => cases drawn
    · intro _ inserts
      simp [insertsFor, call] at inserts
  unfold updateRow
  split
  · exact raises .staleRow
  · split
    · exact writes _ (fun _ same => by cases same)
    · dsimp only
      split
      · exact invariant
      · split
        · exact invariant
        · split
          · exact raises _
          · exact writes _ (fun _ same => by cases same)

theorem record_inv (invariant : Inv state) (here : state.sessions[index]? = some session)
    (wrote : session.phase = .wrote write) (now : Int) :
    Inv (state.setPhase index session (.recorded write (eventOf write now))) := by
  have fits := invariant.fits session (mem_of_getElem? here)
  unfold Fits at fits
  rw [wrote] at fits
  apply move_inv invariant state.db
    { session with phase := .recorded write (eventOf write now) } invariant.ids
    invariant.below invariant.announced
  · exact fun _ _ _ _ fitted => fitted
  · exact ⟨fits, now, rfl⟩
  · intro _ drawn
    refine Or.inl ⟨session, here, ?_⟩
    simpa [drawnId, pending, wrote] using drawn
  · intro _ inserts
    refine Or.inl ⟨session, here, ?_⟩
    simpa [insertsFor, wrote] using inserts

theorem created_ids_append (outbox : List AccountEvent) (event : AccountEvent) :
    createdIds (outbox ++ [event]) = createdIds outbox ++ createdIds [event] := by
  unfold createdIds
  rw [filter_append, map_append]

theorem created_ids_of_write (write : Write) (now : Int) : createdIds [eventOf write now] =
      match write with
      | .insert account => [account.idAccount]
      | _ => [] := by
  cases write with
  | insert | update | unchanged => rfl

/-- What an UPDATE leaves of the rows: their numbers and their users. -/
theorem update_mem {before row : Account}
    (member : row ∈ applyWrite accounts (.update before account)) :
    ∃ old ∈ accounts, old.idAccount = row.idAccount ∧ old.userId = row.userId := by
  rcases mem_replace.mp member with ⟨stored, _⟩ | ⟨old, stored, _, rfl⟩
  · exact ⟨row, stored, rfl, rfl⟩
  · exact ⟨old, stored, rfl, rfl⟩

theorem owner_stays (write : Write) (owns : ∃ account ∈ accounts, account.userId = userId) :
    ∃ account ∈ applyWrite accounts write, account.userId = userId := by
  obtain ⟨account, stored, owner⟩ := owns
  cases write with
  | insert => exact ⟨account, mem_append_left _ stored, owner⟩
  | unchanged => exact ⟨account, stored, owner⟩
  | update before =>
    by_cases here : account.idAccount = before.idAccount
    · exact ⟨_, mem_replace.mpr (Or.inr ⟨account, stored, here, rfl⟩), owner⟩
    · exact ⟨account, mem_replace.mpr (Or.inl ⟨stored, here⟩), owner⟩

theorem apply_write_ids (accounts : List Account) (write : Write) :
    (applyWrite accounts write).map Account.idAccount = accounts.map Account.idAccount ++
        match write with
        | .insert account => [account.idAccount]
        | _ => [] := by
  cases write with
  | insert => exact map_append
  | unchanged => exact (append_nil _).symm
  | update =>
    rw [append_nil]
    exact replace_keys fun _ _ _ => rfl

theorem commit_inv (invariant : Inv state) (here : state.sessions[index]? = some session)
    {event : AccountEvent} (recorded : session.phase = .recorded write event) :
    Inv (commit state index session write event) := by
  have fits := invariant.fits session (mem_of_getElem? here)
  unfold Fits at fits
  rw [recorded] at fits
  obtain ⟨fitted, now, rfl⟩ := fits
  have newIds (row : Account) (member : row ∈ applyWrite state.db.accounts write) :
      (∃ old ∈ state.db.accounts, old.idAccount = row.idAccount) ∨ write = .insert row := by
    cases write with
    | insert =>
      rcases mem_snoc.mp member with old | rfl
      · exact Or.inl ⟨row, old, rfl⟩
      · exact Or.inr rfl
    | unchanged => exact Or.inl ⟨row, member, rfl⟩
    | update =>
      obtain ⟨old, stored, same, _⟩ := update_mem member
      exact Or.inl ⟨old, stored, same⟩
  apply move_inv invariant
    { state.db with
      accounts := applyWrite state.db.accounts write
      outbox := state.db.outbox ++ [eventOf write now] }
    { session with phase := .committed write }
  · unfold DistinctKeys
    rw [apply_write_ids]
    cases write with
    | insert account =>
      have fresh := (fitted.new account rfl).2
      have distinct := append_distinct invariant.ids fresh
      simpa [DistinctKeys] using distinct
    | update | unchanged => simpa [DistinctKeys] using invariant.ids
  · intro row member
    rcases newIds row member with ⟨old, stored, same⟩ | inserted
    · rw [← same]
      exact invariant.below old stored
    · exact (fitted.new row inserted).1
  · dsimp only
    rw [created_ids_append, created_ids_of_write, apply_write_ids, invariant.announced]
  · intro other found elsewhere got fitsOther
    have staysNew {written : Write} (writes : pending found = some written)
        (others : FitsWrite state.db found.call written) (account : Account)
        (inserts : written = .insert account) :
        account.idAccount < state.db.nextId ∧
          ∀ row ∈ applyWrite state.db.accounts write, row.idAccount ≠ account.idAccount := by
      refine ⟨(others.new account inserts).1, ?_⟩
      intro row member
      rcases newIds row member with ⟨old, stored, same⟩ | inserted
      · rw [← same]
        exact (others.new account inserts).2 old stored
      · intro same
        apply elsewhere
        apply invariant.drawn other index row.idAccount
        · refine ⟨found, got, ?_⟩
          simp [drawnId, writes, inserts, same]
        · refine ⟨session, here, ?_⟩
          simp [drawnId, pending, recorded, inserted]
    unfold Fits at fitsOther ⊢
    split at fitsOther
    · next written phase =>
      exact ⟨staysNew (by simp [pending, phase]) fitsOther, fitsOther.ofDelivery⟩
    · next written noted phase =>
      obtain ⟨fitsWrite, noted⟩ := fitsOther
      exact ⟨⟨staysNew (by simp [pending, phase]) fitsWrite, fitsWrite.ofDelivery⟩, noted⟩
    · exact fun userId call => owner_stays write (fitsOther userId call)
    · trivial
  · trivial
  · intro _ drawn
    cases drawn
  · intro _ inserts
    refine Or.inl ⟨session, here, ?_⟩
    simpa [insertsFor, recorded] using inserts

theorem advance_inv (invariant : Inv state) (allowed : insertsAnother state index = false)
    (here : state.sessions[index]? = some session) (choice : Choice) :
    Inv (advance state index choice session) := by
  unfold advance
  split
  · split
    · next call => exact select_inv invariant call
    · exact ask_inv invariant _ _
    · unfold selectAccount
      split
      · exact idle_inv invariant (Nat.le_refl _) rfl (fun skipped => by cases skipped)
      · split
        · exact idle_inv invariant (Nat.le_refl _) rfl (fun skipped => by cases skipped)
        · exact idle_inv invariant (Nat.le_refl _) rfl (fun skipped => by cases skipped)
  · split
    · exact ask_inv invariant _ _
    · exact invariant
  · next confirmed =>
    split
    · next creates => exact insert_inv invariant allowed here confirmed creates
    · exact invariant
  · split
    · next call => exact update_inv invariant call _
    · exact invariant
  · next wrote => exact record_inv invariant here wrote _
  · next recorded => exact commit_inv invariant here recorded
  · exact invariant
  · exact invariant
  · exact invariant
  · exact invariant

theorem lost_not_duplicate : isDuplicateError .connectionLost = false := by
  decide +kernel

theorem fail_inv (invariant : Inv state) : Inv (fail state index session) := by
  have raises : Inv (state.setPhase index session (.raised .connectionLost)) := by
    apply idle_inv invariant (Nat.le_refl _) rfl
    intro skipped
    cases skipped
  unfold fail
  rw [after_error_raised lost_not_duplicate]
  split
  · exact raises
  · exact invariant
  · exact invariant
  · exact invariant
  · exact invariant
  · exact raises

end Moves

theorem step_inv (state : State) (label : Label) (allowed : NameStillTaken state label)
    (invariant : Inv state) : Inv (step state label) := by
  cases label with
  | start call =>
    refine ⟨invariant.ids, invariant.below, invariant.announced, ?_, ?_, ?_⟩
    · refine forall_snoc invariant.fits ?_
      trivial
    · exact exclusive_append invariant.drawn rfl
    · apply exclusive_append invariant.inserts
      cases call <;> rfl
  | advance index choice =>
    unfold step
    dsimp only
    split
    · exact invariant
    · next session here => exact advance_inv invariant allowed here choice
  | fail =>
    unfold step
    dsimp only
    split
    · exact invariant
    · exact fail_inv invariant

theorem start_inv : Inv {} where
  ids := nodup_nil
  below := fun _ member => absurd member not_mem_nil
  announced := rfl
  fits := fun _ member => absurd member not_mem_nil
  drawn := exclusive_nil
  inserts := exclusive_nil

theorem inserted_inserts {session : Session} {userId : Int}
    (inserted : insertedFor session = some userId) : insertsFor session = some userId := by
  unfold insertedFor at inserted
  split at inserted
  · cases inserted
    rfl
  · cases inserted

theorem inv_once {state : State} (invariant : Inv state) : DefaultAccountOnce state where
  once := by
    rintro first second userId ⟨firstSession, firstHere, firstInserted⟩
      ⟨secondSession, secondHere, secondInserted⟩
    exact invariant.inserts first second userId
      ⟨firstSession, firstHere, inserted_inserts firstInserted⟩
      ⟨secondSession, secondHere, inserted_inserts secondInserted⟩
  announced := by
    intro account stored
    have distinct : (createdIds state.db.outbox).Nodup := by
      rw [invariant.announced]
      exact invariant.ids
    have member : account.idAccount ∈ createdIds state.db.outbox := by
      rw [invariant.announced]
      exact mem_map_of_mem stored
    have one := count_eq_one_of_mem distinct member
    unfold createdIds at one
    rw [count_eq_countP, countP_map, countP_filter, countP_eq_length_filter]
      at one
    rw [← one]
    congr 2
    funext event
    rw [Function.comp_apply, isCreated, Bool.and_comm]
    rfl
  skipped := by
    intro session member userId call skipped
    have fits := invariant.fits session member
    unfold Fits at fits
    rw [skipped] at fits
    exact fits userId call

/-- A user gets one default account in every run in which no delivery inserts one after the
account of an earlier delivery has lost the name. -/
theorem one_default_account (labels : List Label)
    (steps : AllSteps step NameStillTaken {} labels) : DefaultAccountOnce (accountRun labels) := by
  apply inv_once
  exact allowed_run_keeps step step_inv start_inv labels steps

def savings : AccountBase := ⟨"Savings", 0, 1, by decide⟩

/-- Two deliveries overlap, and the second comes to its INSERT before the rename. -/
def overlapping : List Label :=
  [.start (.userCreated 7), .start (.userCreated 7), .advance 0 {}, .advance 1 {},
    .advance 0 {}, .advance 1 {}, .advance 0 {}, .advance 1 {}, .advance 0 {}, .advance 0 {},
    .advance 1 {}, .start (.updateAccount 7 1 savings), .advance 2 {}, .advance 2 {},
    .advance 2 {}, .advance 2 {}]

theorem overlapping_once : DefaultAccountOnce (accountRun overlapping) :=
  one_default_account overlapping (by decide +kernel)

/-- The first delivery has read no account; the account of the second is renamed before the
first inserts. -/
theorem renamed_inserted_again :
    let second : List Label :=
      [.start (.userCreated 7), .advance 0 {}, .start (.userCreated 7), .advance 1 {},
        .advance 1 {}, .advance 1 {}, .advance 1 {}, .advance 1 {}]
    let rename : List Label :=
      [.start (.updateAccount 7 1 savings), .advance 2 {}, .advance 2 {}, .advance 2 {},
        .advance 2 {}]
    let first : List Label := [.advance 0 {}, .advance 0 {}, .advance 0 {}, .advance 0 {}]
    ¬ DefaultAccountOnce (accountRun (second ++ rename ++ first)) := by
  intro second rename first holds
  have claims (index : Nat)
      (inserted : ((accountRun (second ++ rename ++ first)).sessions[index]?).bind insertedFor =
        some 7) : Claims insertedFor (accountRun (second ++ rename ++ first)).sessions index 7 :=
    Option.bind_eq_some_iff.mp inserted
  have same := holds.once 0 1 7 (claims 0 (by decide +kernel)) (claims 1 (by decide +kernel))
  exact absurd same (by decide)

end FinanceTracker.Accounts.DefaultAccount
