import FinanceTracker.Banking.ConsumedOnce

/-!
# One live connection per bank account

`get_active_by_uid` reads before `complete_connect` writes, and nothing in the table
holds between the two. There is one live connection per bank account as long as a row is
inserted, reactivated and committed only while no other live one of its account is
visible to the call or held by another.
-/

namespace FinanceTracker.Banking.OneConnection

open Library KeyedRows ReadCommitted Runs
open Connections hiding State step Call
open MarkSyncComplete (Instant)
open ConcurrentConnections ConsumedOnce

/-- `get_active_by_uid` does not find several rows. -/
def OneLive (rows : List BankConnection) : Prop :=
  ∀ uid accountId, (rows.filter (isActiveByUid uid accountId)).length ≤ 1

/-- The committed rows and those that a call sees. -/
def OnePerAccount (state : State) : Prop :=
  OneLive (state.connections.view none) ∧ ∀ party, OneLive (state.connections.view (some party))

def NoOtherLive (rows : List BankConnection) (row : BankConnection) : Prop :=
  ∀ other ∈ rows, isActiveByUid row.bankAccountUid row.accountId other = true → row.id = other.id

/-- What a statement may write: no row becomes live beside another one that the call sees,
and none is committed beside one that another call has written. -/
def LeavesOne (state : State) (party : ℕ) : Statement → Prop
  | .save connection => NoOtherLive (state.connections.view (some party)) connection
  | .updateStatus connectionId status =>
    status ≠ .disconnected → ∀ row ∈ state.connections.view (some party),
      row.id = connectionId → NoOtherLive (state.connections.view (some party)) row
  | .commit =>
    ∀ row ∈ state.connections.held party, row.status ≠ .disconnected →
      NoOtherLive (state.connections.heldByOthers party) row
  | _ => True

def Uncontested (fromisoformat : String → Option Instant) (state : State) : Label → Prop
  | .proceed party choice =>
    ∀ session ∈ state.calls[party]?,
      blocked state party (nextStatement fromisoformat state party choice session).1 = false →
        LeavesOne state party (nextStatement fromisoformat state party choice session).1
  | _ => True

instance (rows : List BankConnection) (row : BankConnection) : Decidable (NoOtherLive rows row) :=
  inferInstanceAs (Decidable (∀ other ∈ rows, _))

instance decidableLeavesOne (state : State) (party : ℕ) :
    ∀ statement, Decidable (LeavesOne state party statement)
  | .save _ => inferInstanceAs (Decidable (NoOtherLive _ _))
  | .updateStatus _ _ => inferInstanceAs (Decidable (_ → ∀ row ∈ _, _))
  | .commit => inferInstanceAs (Decidable (∀ row ∈ state.connections.held party, _))
  | .reads => isTrue trivial
  | .cleanupExpired _ => isTrue trivial
  | .consume _ _ => isTrue trivial
  | .updateConsent _ _ _ => isTrue trivial
  | .rollback => isTrue trivial

instance decidableUncontested (fromisoformat : String → Option Instant) (state : State) :
    ∀ label, Decidable (Uncontested fromisoformat state label)
  | .proceed party _ =>
    inferInstanceAs (Decidable (∀ session ∈ state.calls[party]?, _ → LeavesOne _ _ _))
  | .completeConnect _ => isTrue trivial
  | .disconnect _ _ => isTrue trivial
  | .abort _ => isTrue trivial

def OneAccount (first second : BankConnection) : Prop :=
  first.status ≠ .disconnected →
    isActiveByUid first.bankAccountUid first.accountId second = true → first.id = second.id

theorem is_active_by_uid_iff {uid : String} {accountId : Int} {row : BankConnection} :
    isActiveByUid uid accountId row = true ↔
      row.bankAccountUid = uid ∧ row.accountId = accountId ∧ row.status ≠ .disconnected := by
  simp [isActiveByUid, and_assoc]

theorem one_account_symmetric (first second : BankConnection) (related : OneAccount first second) :
    OneAccount second first := by
  intro live active
  obtain ⟨sameUid, sameAccount, firstLive⟩ := is_active_by_uid_iff.mp active
  exact (related firstLive (is_active_by_uid_iff.mpr ⟨sameUid.symm, sameAccount.symm, live⟩)).symm

theorem one_live_iff {rows : List BankConnection} (distinct : DistinctKeys BankConnection.id rows) :
    OneLive rows ↔ AllRelated OneAccount rows := by
  constructor
  · intro one first firstIn second secondIn live active
    have sameId := (filter_at_most_one_iff distinct _).mp
      (one first.bankAccountUid first.accountId)
    exact sameId first firstIn second secondIn (is_active_by_uid_iff.mpr ⟨rfl, rfl, live⟩) active
  · intro related _ _
    apply (filter_at_most_one_iff distinct _).mpr
    intro first firstIn second secondIn firstActive secondActive
    obtain ⟨rfl, rfl, live⟩ := is_active_by_uid_iff.mp firstActive
    exact related first firstIn second secondIn live secondActive

theorem one_per_account_iff (state : State) :
    OnePerAccount state ↔ EveryView OneAccount state.connections := by
  constructor
  · intro ⟨committed, seen⟩ viewer
    apply (one_live_iff view_distinct).mp
    cases viewer with
    | none => exact committed
    | some party => exact seen party
  · intro every
    exact ⟨(one_live_iff view_distinct).mpr (every none),
      fun party => (one_live_iff view_distinct).mpr (every (some party))⟩

section Statements

variable {state : State} {party : ℕ}

theorem view_write_status (table : Table ℕ BankConnection.id) (party : ℕ) (connectionId : String)
    (status : ConnectionStatus) :
    (writeStatus table party connectionId status).view (some party) =
      updateStatus (table.view (some party)) connectionId status := by
  unfold writeStatus updateStatus replace
  rw [view_write_owner]
  generalize table.view (some party) = rows
  induction rows with
  | nil => rfl
  | cons row rows ih =>
    rw [List.filterMap_cons, ih]
    by_cases here : row.id = connectionId
    · simp [hasId, here]
    · simp [hasId, here]

theorem view_write_consent (table : Table ℕ BankConnection.id) (party : ℕ)
    (connectionId sessionId : String) (expiresAt : Option Instant) :
    (writeConsent table party connectionId sessionId expiresAt).view (some party) =
      updateConsent (table.view (some party)) connectionId sessionId expiresAt := by
  unfold writeConsent updateConsent replace
  rw [view_write_owner]
  generalize table.view (some party) = rows
  induction rows with
  | nil => rfl
  | cons row rows ih =>
    rw [List.filterMap_cons, ih]
    by_cases here : row.id = connectionId
    · simp [hasId, here]
    · simp [hasId, here]

theorem update_status_related_iff {rows : List BankConnection} (related : AllRelated OneAccount rows)
    (connectionId : String) (status : ConnectionStatus) :
    AllRelated OneAccount (updateStatus rows connectionId status) ↔
      (status ≠ .disconnected → ∀ row ∈ rows, row.id = connectionId → NoOtherLive rows row) := by
  constructor
  · intro after live row member here other otherIn active
    by_cases same : other.id = connectionId
    · exact here.trans same.symm
    · have written : { row with status := status } ∈ updateStatus rows connectionId status :=
        mem_replace.mpr (Or.inr ⟨row, member, here, rfl⟩)
      have kept : other ∈ updateStatus rows connectionId status :=
        mem_replace.mpr (Or.inl ⟨otherIn, same⟩)
      exact after _ written _ kept live active
  · intro alone first firstIn second secondIn firstLive active
    obtain ⟨sameUid, sameAccount, secondLive⟩ := is_active_by_uid_iff.mp active
    rcases mem_update_status firstIn with ⟨firstOld, _⟩ | ⟨old, stored, here, rfl⟩
    · rcases mem_update_status secondIn with ⟨secondOld, _⟩ | ⟨old, stored, here, rfl⟩
      · exact related first firstOld second secondOld firstLive active
      · exact (alone secondLive old stored here first firstOld (is_active_by_uid_iff.mpr
          ⟨sameUid.symm, sameAccount.symm, firstLive⟩)).symm
    · rcases mem_update_status secondIn with ⟨secondOld, _⟩ | ⟨other, _, otherHere, rfl⟩
      · exact alone firstLive old stored here second secondOld active
      · exact here.trans otherHere.symm

theorem update_consent_related {rows : List BankConnection} (related : AllRelated OneAccount rows)
    (connectionId sessionId : String) (expiresAt : Option Instant) :
    AllRelated OneAccount (updateConsent rows connectionId sessionId expiresAt) := by
  have before : ∀ row ∈ updateConsent rows connectionId sessionId expiresAt, ∃ old ∈ rows,
      row.id = old.id ∧ row.bankAccountUid = old.bankAccountUid ∧ row.accountId = old.accountId ∧
        row.status = old.status := by
    intro row member
    rcases mem_update_consent member with ⟨stored, _⟩ | ⟨old, stored, _, rfl⟩
    · exact ⟨row, stored, rfl, rfl, rfl, rfl⟩
    · exact ⟨old, stored, rfl, rfl, rfl, rfl⟩
  intro first firstIn second secondIn live active
  obtain ⟨oldFirst, firstStored, firstId, firstUid, firstAccount, firstStatus⟩ := before first firstIn
  obtain ⟨oldSecond, secondStored, secondId, secondUid, secondAccount, secondStatus⟩ :=
    before second secondIn
  rw [firstId, secondId]
  apply related oldFirst firstStored oldSecond secondStored
  · rw [← firstStatus]
    exact live
  · rw [is_active_by_uid_iff] at active ⊢
    rw [← secondUid, ← secondAccount, ← secondStatus, ← firstUid, ← firstAccount]
    exact active

theorem write_status_every_view_iff (every : EveryView OneAccount state.connections)
    {connectionId : String} {status : ConnectionStatus}
    (free : blocked state party (.updateStatus connectionId status) = false) :
    EveryView OneAccount (writeStatus state.connections party connectionId status) ↔
      LeavesOne state party (.updateStatus connectionId status) := by
  have own := view_write_status state.connections party connectionId status
  unfold writeStatus at own ⊢
  rw [write_every_view_iff every free, own]
  exact update_status_related_iff (every (some party)) connectionId status

theorem write_consent_every_view (every : EveryView OneAccount state.connections)
    {connectionId sessionId : String} {expiresAt : Option Instant}
    (free : blocked state party (.updateConsent connectionId sessionId expiresAt) = false) :
    EveryView OneAccount
      (writeConsent state.connections party connectionId sessionId expiresAt) := by
  have own := view_write_consent state.connections party connectionId sessionId expiresAt
  unfold writeConsent at own ⊢
  rw [write_every_view_iff every free, own]
  exact update_consent_related (every (some party)) connectionId sessionId expiresAt

def NewRow (state : State) : Statement → Prop
  | .save connection => connection.status = .active ∧ taken state connection.id = false
  | _ => True

theorem save_every_view_iff (every : EveryView OneAccount state.connections)
    {connection : BankConnection} (new : NewRow state (.save connection)) :
    EveryView OneAccount (writeConnection state.connections party connection) ↔
      LeavesOne state party (.save connection) := by
  obtain ⟨active, free⟩ := new
  have fresh : ∀ stored ∈ state.connections.rows, stored.id ≠ connection.id := by
    intro stored member same
    exact List.any_eq_false.mp free stored member (by simpa using same)
  have live : connection.status ≠ .disconnected := by simp [active]
  unfold writeConnection
  rw [dif_pos fresh, insert_every_view_iff one_account_symmetric every (fun _ _ => rfl) fresh]
  constructor
  · intro related other member otherActive
    exact related other member live otherActive
  · intro alone other member _ otherActive
    exact alone other member otherActive

theorem commit_leaves_one_iff (every : EveryView OneAccount state.connections) :
    EveryView OneAccount (state.connections.commit party) ↔ LeavesOne state party .commit := by
  rw [commit_every_view_iff one_account_symmetric every]
  constructor
  · intro related row held live other theirs active
    exact related row held other theirs live active
  · intro alone row held other theirs live active
    exact alone row held live other theirs active

theorem execute_every_view_iff (every : EveryView OneAccount state.connections)
    {statement : Statement} (free : blocked state party statement = false)
    (new : NewRow state statement) :
    EveryView OneAccount (execute state party statement).connections ↔
      LeavesOne state party statement := by
  cases statement with
  | reads | cleanupExpired | consume => exact iff_of_true every trivial
  | updateStatus => exact write_status_every_view_iff every free
  | updateConsent =>
    exact iff_of_true (write_consent_every_view every free) trivial
  | save => exact save_every_view_iff every new
  | commit => exact commit_leaves_one_iff every
  | rollback => exact iff_of_true (rollback_every_view every) trivial

theorem next_statement_new (fromisoformat : String → Option Instant) (state : State) (party : ℕ)
    (choice : Choice) (session : Session) :
    NewRow state (nextStatement fromisoformat state party choice session).1 := by
  cases session with
  | connect authState phase =>
    cases phase with
    | cleaned =>
      unfold nextStatement nextConnect
      dsimp only
      split <;> trivial
    | authorized =>
      unfold nextStatement nextConnect
      dsimp only
      split
      · trivial
      · split <;> trivial
    | storing work accounts =>
      cases accounts with
      | nil => trivial
      | cons =>
        unfold nextStatement nextConnect
        dsimp only
        split <;> trivial
    | absent =>
      unfold nextStatement nextConnect
      dsimp only
      split
      · trivial
      · next free => exact ⟨rfl, eq_false_of_ne_true free⟩
    | _ => trivial
  | disconnect connectionId userId phase =>
    cases phase with
    | requested =>
      unfold nextStatement nextDisconnect
      dsimp only
      split
      · trivial
      · split <;> trivial
    | _ => trivial

end Statements

section Proceed

variable {fromisoformat : String → Option Instant} {state : State} {party : ℕ} {choice : Choice}

theorem step_absent (absent : state.calls[party]? = none) :
    step fromisoformat state (.proceed party choice) = state := by
  unfold step
  simp only [absent]

theorem step_proceed {session : Session} (found : state.calls[party]? = some session) :
    step fromisoformat state (.proceed party choice) =
      proceed fromisoformat state party choice session := by
  unfold step
  simp only [found]

theorem uncontested_absent (absent : state.calls[party]? = none) :
    Uncontested fromisoformat state (.proceed party choice) := by
  simp [Uncontested, absent]

theorem uncontested_proceed_iff {session : Session}
    (found : state.calls[party]? = some session) :
    Uncontested fromisoformat state (.proceed party choice) ↔
      (blocked state party (nextStatement fromisoformat state party choice session).1 = false →
        LeavesOne state party (nextStatement fromisoformat state party choice session).1) := by
  simp [Uncontested, found]

end Proceed

theorem step_one_per_account_iff (fromisoformat : String → Option Instant) {state : State}
    (label : Label) (one : OnePerAccount state) :
    OnePerAccount (step fromisoformat state label) ↔ Uncontested fromisoformat state label := by
  have every := (one_per_account_iff state).mp one
  rw [one_per_account_iff]
  cases label with
  | completeConnect | disconnect => exact iff_of_true every trivial
  | abort =>
    unfold step
    dsimp only
    split
    · exact iff_of_true every trivial
    · exact iff_of_true (rollback_every_view every) trivial
  | proceed party choice =>
    cases found : state.calls[party]? with
    | none =>
      rw [step_absent found]
      exact iff_of_true every (uncontested_absent found)
    | some session =>
      rw [step_proceed found, uncontested_proceed_iff found]
      unfold proceed
      have new := next_statement_new fromisoformat state party choice session
      generalize nextStatement fromisoformat state party choice session = result at new
      obtain ⟨statement, _⟩ := result
      dsimp only at new ⊢
      by_cases waits : blocked state party statement = true
      · rw [if_pos waits]
        exact iff_of_true every fun free => by simp [waits] at free
      · have free := eq_false_of_ne_true waits
        rw [if_neg waits, free]
        simp only [forall_const]
        exact execute_every_view_iff every free new

theorem start_one_per_account {connections : List BankConnection}
    (distinct : DistinctKeys BankConnection.id connections) {auths : List PendingAuthorization}
    (distinctStates : DistinctKeys PendingAuthorization.state auths) (one : OneLive connections) :
    OnePerAccount (start connections distinct auths distinctStates) := by
  have shown : ∀ viewer, (start connections distinct auths distinctStates).connections.view viewer =
      connections := by
    intro _
    simp [start, Table.ofRows, Table.view, Versioned.seenBy]
  refine ⟨?_, fun party => ?_⟩
  · rw [shown]
    exact one
  · rw [shown]
    exact one

/-- Every run of overlapping connects and disconnects completes at most one connect for a
state, and it keeps one live connection per bank account in what everybody sees exactly
when its statements are uncontested. -/
theorem one_live_connection_iff (fromisoformat : String → Option Instant)
    {connections : List BankConnection} (distinct : DistinctKeys BankConnection.id connections)
    {auths : List PendingAuthorization}
    (distinctStates : DistinctKeys PendingAuthorization.state auths) (one : OneLive connections)
    (labels : List Label) :
    CompletedOnce (runFrom (step fromisoformat) (start connections distinct auths distinctStates)
        labels) ∧
      ((∀ before, before <+: labels → OnePerAccount (runFrom (step fromisoformat)
          (start connections distinct auths distinctStates) before)) ↔
        AllSteps (step fromisoformat) (Uncontested fromisoformat)
          (start connections distinct auths distinctStates) labels) := by
  constructor
  · apply completed_once
    exact run_keeps (step fromisoformat) (step_inv fromisoformat)
      (start_inv distinct distinctStates) labels
  · exact run_kept_iff (step fromisoformat) (fun _ _ (_ : True) => trivial)
      (fun _ label _ kept => step_one_per_account_iff fromisoformat label kept) trivial
      (start_one_per_account distinct distinctStates one) labels

def twoAuths : List PendingAuthorization :=
  [{ state := "first", accountId := 1, userId := 7, expiresAt := 100 },
   { state := "second", accountId := 1, userId := 7, expiresAt := 100 }]

theorem two_states : DistinctKeys PendingAuthorization.state twoAuths := by
  unfold DistinctKeys
  decide

theorem no_connections : DistinctKeys BankConnection.id [] := List.nodup_nil

def salary : AccountPayload where
  uid := some "salary"
  iban := some "DK01"

def choiceOf (sessionId connectionId : String) : Choice where
  now := 1
  answer := .ok { sessionId := some sessionId, accounts := [salary] }
  id := connectionId

def firstProceeds (statements : ℕ) : List Label :=
  List.replicate statements (.proceed 0 (choiceOf "session-1" "connection-1"))

def secondProceeds (statements : ℕ) : List Label :=
  List.replicate statements (.proceed 1 (choiceOf "session-2" "connection-2"))

/-- The second callback comes after the first one, whose connection it renews. -/
def oneAfterTheOther : List Label :=
  [.completeConnect "first"] ++ firstProceeds 7 ++ [.completeConnect "second"] ++ secondProceeds 8

/-- Both callbacks look for the account before one of them stores it. -/
def overlapping : List Label :=
  [.completeConnect "first", .completeConnect "second"] ++ firstProceeds 5 ++ secondProceeds 7 ++
    firstProceeds 2

theorem later_callback_keeps_one :
    CompletedOnce (runFrom (step fun _ => none)
        (start [] no_connections twoAuths two_states) oneAfterTheOther) ∧
      ∀ before, before <+: oneAfterTheOther → OnePerAccount (runFrom (step fun _ => none)
        (start [] no_connections twoAuths two_states) before) := by
  have run := one_live_connection_iff (fun _ => none) no_connections two_states
    (fun _ _ => Nat.zero_le 1) oneAfterTheOther
  exact ⟨run.1, run.2.mpr (by decide +kernel)⟩

/-- Overlapping callbacks store the account twice. -/
theorem overlapping_callbacks_store_two :
    ¬ ∀ (fromisoformat : String → Option Instant) (connections : List BankConnection)
      (distinct : DistinctKeys BankConnection.id connections) (auths : List PendingAuthorization)
      (distinctStates : DistinctKeys PendingAuthorization.state auths) (labels : List Label),
      OneLive connections → OnePerAccount (runFrom (step fromisoformat)
        (start connections distinct auths distinctStates) labels) := by
  intro always
  have one := always (fun _ => none) [] no_connections twoAuths two_states overlapping
    (fun _ _ => Nat.zero_le 1)
  have committed := one.1 "salary" 1
  revert committed
  decide +kernel

end FinanceTracker.Banking.OneConnection
