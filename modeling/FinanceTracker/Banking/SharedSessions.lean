import FinanceTracker.Library.Runs
import FinanceTracker.Banking.Connections

/-!
# Sessions of active connections

The accounts of one consent are stored with one session, and a disconnect deletes the
session of its connection. An active connection keeps its session as long as no
disconnect deletes a session that another active connection still has.
-/

namespace FinanceTracker.Banking.SharedSessions

open Library KeyedRows Runs Connections
open MarkSyncComplete (Instant)

def SessionsKept (state : State) : Prop :=
  ∀ row ∈ state.tables.connections, row.status = .active → row.sessionId ∈ state.sessions

instance (state : State) : Decidable (SessionsKept state) :=
  inferInstanceAs (Decidable (∀ row ∈ state.tables.connections, _))

def LastOnSession (call : DisconnectCall) (rows : List BankConnection) (sessionId : String) : Prop :=
  ∀ row ∈ rows, row.status = .active → row.sessionId = sessionId →
    call.accepted = true ∧ row.id = call.connectionId

def LeavesSessions (state : State) : Call → Prop
  | .completeConnect _ => True
  | .disconnect call =>
    ∀ conn ∈ getById state.tables.connections call.connectionId, conn.userId = call.userId →
      call.deletion.removes = true → LastOnSession call state.tables.connections conn.sessionId

instance (call : DisconnectCall) (rows : List BankConnection) (sessionId : String) :
    Decidable (LastOnSession call rows sessionId) :=
  inferInstanceAs (Decidable (∀ row ∈ rows, _))

instance decidableLeavesSessions (state : State) : ∀ call, Decidable (LeavesSessions state call)
  | .completeConnect _ => isTrue trivial
  | .disconnect call =>
    inferInstanceAs (Decidable
      (∀ conn ∈ getById state.tables.connections call.connectionId, _))

variable {consent : Consent} {tables after : Tables} {row : BankConnection} {state : State}
  {call : DisconnectCall}

theorem connect_account_rows {account : AccountPayload} {id : String} {created : CreatedAccount}
    (connected : connectAccount consent tables account id = .ok (after, created))
    (member : row ∈ after.connections) :
    row ∈ tables.connections ∨ row.sessionId = consent.sessionId := by
  unfold connectAccount at connected
  obtain ⟨found, _, rest⟩ := bind_eq_ok.mp connected
  cases found with
  | some =>
    cases rest
    rcases mem_update_consent member with ⟨inReactivated, other⟩ | ⟨old, stored, here, rfl⟩
    · rcases mem_update_status inReactivated with ⟨inRows, elsewhere⟩ | ⟨old, stored, here, rfl⟩
      · exact Or.inl inRows
      · exact absurd here other
    · exact Or.inr rfl
  | none =>
    obtain ⟨_, saved, rest⟩ := bind_eq_ok.mp rest
    cases rest
    rw [save_rows saved] at member
    rcases mem_snoc.mp member with inRows | rfl
    · exact Or.inl inRows
    · exact Or.inr rfl

theorem connect_accounts_rows {accounts : List (AccountPayload × String)}
    {created : List CreatedAccount}
    (connected : connectAccounts consent tables accounts = .ok (after, created))
    (member : row ∈ after.connections) :
    row ∈ tables.connections ∨ row.sessionId = consent.sessionId := by
  induction accounts generalizing tables created with
  | nil =>
    cases connected
    exact Or.inl member
  | cons head accounts ih =>
    obtain ⟨⟨_, _⟩, here, rest⟩ := bind_eq_ok.mp connected
    obtain ⟨⟨_, _⟩, later, rest⟩ := bind_eq_ok.mp rest
    cases rest
    rcases ih later with inBetween | sameSession
    · exact connect_account_rows here inBetween
    · exact Or.inr sameSession

theorem store_accounts_rows {call : ConnectCall} {accounts : List AccountPayload}
    {created : List CreatedAccount}
    (stored : storeAccounts consent call accounts tables = .ok (after, created))
    (member : row ∈ after.connections) :
    row ∈ tables.connections ∨ row.sessionId = consent.sessionId := by
  unfold storeAccounts at stored
  obtain ⟨_, connected, rest⟩ := bind_eq_ok.mp stored
  split at rest
  · cases rest
    exact connect_accounts_rows connected member
  · cases rest

theorem complete_connect_kept (fromisoformat : String → Option Instant) (call : ConnectCall)
    (kept : SessionsKept state) :
    SessionsKept (completeConnect fromisoformat call state).1 := by
  unfold completeConnect
  split
  · exact kept
  · next auth pendingAuths consumed =>
    split
    · exact kept
    · next session answered =>
      split
      · exact kept
      · next sessionId given =>
        have keptLonger : SessionsKept
            { state with sessions := sessionId :: state.sessions } := by
          intro row member active
          exact List.mem_cons_of_mem sessionId (kept row member active)
        dsimp only
        split
        · exact keptLonger
        · next tables created stored =>
          intro row member active
          rcases store_accounts_rows stored member with inRows | sameSession
          · exact keptLonger row inRows active
          · rw [sameSession]
            exact List.mem_cons_self

theorem mem_delete_session {deletion : Deletion} {sessionId session : String} :
    session ∈ (deleteSession deletion sessionId state).sessions ↔
      session ∈ state.sessions ∧ (deletion.removes = true → session ≠ sessionId) := by
  unfold deleteSession
  split
  · next removes => simp [removes]
  · next remains => simp [remains]

theorem mark_disconnected_active {connectionId : String} {conn : BankConnection} :
    row ∈ (markDisconnected connectionId conn tables).connections ∧ row.status = .active ↔
      row ∈ tables.connections ∧ row.status = .active ∧ row.id ≠ connectionId := by
  constructor
  · intro ⟨member, active⟩
    rcases mem_update_status member with ⟨inRows, other⟩ | ⟨old, stored, here, rfl⟩
    · exact ⟨inRows, active, other⟩
    · cases active
  · intro ⟨member, active, other⟩
    exact ⟨mem_replace.mpr (Or.inl ⟨member, other⟩), active⟩

theorem delete_session_tables (deletion : Deletion) (sessionId : String) (state : State) :
    (deleteSession deletion sessionId state).tables = state.tables := by
  unfold deleteSession
  split <;> rfl

theorem leaves_sessions_absent (absent : getById state.tables.connections call.connectionId = none) :
    LeavesSessions state (.disconnect call) := by
  intro _ found
  rw [Option.mem_def, absent] at found
  cases found

theorem leaves_sessions_found {conn : BankConnection}
    (found : getById state.tables.connections call.connectionId = some conn) :
    LeavesSessions state (.disconnect call) ↔
      (conn.userId = call.userId → call.deletion.removes = true →
        LastOnSession call state.tables.connections conn.sessionId) := by
  simp [LeavesSessions, found]

/-- The mark has been written: the other active rows must not have the session. -/
theorem accepted_kept_iff (accepted : call.accepted = true) (conn : BankConnection)
    (kept : SessionsKept state) :
    SessionsKept
        { deleteSession call.deletion conn.sessionId state with
          tables := markDisconnected call.connectionId conn state.tables } ↔
      (call.deletion.removes = true →
        LastOnSession call state.tables.connections conn.sessionId) := by
  constructor
  · intro keptAfter removes row member active sameSession
    refine ⟨accepted, ?_⟩
    by_contra other
    have marked : row ∈ (markDisconnected call.connectionId conn state.tables).connections ∧
        row.status = .active := mark_disconnected_active.mpr ⟨member, active, other⟩
    exact (mem_delete_session.mp (keptAfter row marked.1 marked.2)).2 removes sameSession
  · intro last row member active
    obtain ⟨inRows, _, other⟩ := mark_disconnected_active.mp ⟨member, active⟩
    refine mem_delete_session.mpr ⟨kept row inRows active, ?_⟩
    intro removes sameSession
    exact other (last removes row inRows active sameSession).2

/-- The mark has been refused: no active row must have the session. -/
theorem refused_kept_iff (refused : call.accepted ≠ true) (conn : BankConnection)
    (kept : SessionsKept state) :
    SessionsKept (deleteSession call.deletion conn.sessionId state) ↔
      (call.deletion.removes = true →
        LastOnSession call state.tables.connections conn.sessionId) := by
  unfold SessionsKept
  rw [delete_session_tables]
  constructor
  · intro keptAfter removes row member active sameSession
    exact absurd sameSession ((mem_delete_session.mp (keptAfter row member active)).2 removes)
  · intro last row member active
    refine mem_delete_session.mpr ⟨kept row member active, ?_⟩
    intro removes sameSession
    exact refused (last removes row member active sameSession).1

theorem disconnect_kept_iff (call : DisconnectCall) (kept : SessionsKept state) :
    SessionsKept (disconnect call state).1 ↔ LeavesSessions state (.disconnect call) := by
  unfold disconnect
  cases found : getById state.tables.connections call.connectionId with
  | none => exact iff_of_true kept (leaves_sessions_absent found)
  | some conn =>
    rw [leaves_sessions_found found]
    dsimp only
    by_cases owned : conn.userId = call.userId
    · rw [if_neg (not_not.mpr owned), delete_session_tables]
      simp only [owned, forall_const]
      by_cases accepted : call.accepted = true
      · rw [if_pos accepted]
        exact accepted_kept_iff accepted conn kept
      · rw [if_neg accepted]
        exact refused_kept_iff accepted conn kept
    · rw [if_pos owned]
      exact iff_of_true kept fun isOwner => absurd isOwner owned

theorem step_kept_iff (fromisoformat : String → Option Instant) (call : Call)
    (kept : SessionsKept state) :
    SessionsKept (step fromisoformat state call) ↔ LeavesSessions state call := by
  cases call with
  | completeConnect call => simp [step, LeavesSessions, complete_connect_kept _ call kept]
  | disconnect call => exact disconnect_kept_iff call kept

/-- Every active connection has a session that is not deleted, in every state of a run,
exactly when every disconnect that deletes a session is of the last active connection
that has it. -/
theorem sessions_kept_iff (fromisoformat : String → Option Instant) {initial : State}
    (kept : SessionsKept initial) (calls : List Call) :
    (∀ before, before <+: calls → SessionsKept (runFrom (step fromisoformat) initial before)) ↔
      AllSteps (step fromisoformat) LeavesSessions initial calls :=
  run_kept_iff (step fromisoformat) (fun _ _ (_ : True) => trivial)
    (fun _ call _ kept => step_kept_iff fromisoformat call kept) trivial kept calls

def authorized : State where
  pendingAuths := [
    { state := "first", accountId := 1, userId := 7, expiresAt := 100 },
    { state := "second", accountId := 1, userId := 7, expiresAt := 100 }]

def salary : AccountPayload where
  uid := some "salary"
  iban := some "DK01"

def savings : AccountPayload where
  uid := some "savings"
  iban := some "DK02"

def connectBoth : Call :=
  .completeConnect
    { state := "first"
      now := 1
      answer := .ok { sessionId := some "session-1", accounts := [salary, savings] }
      uuid4 := fun index => if index = 0 then "connection-1" else "connection-2"
      accepted := true }

def reconnectSalary : Call :=
  .completeConnect
    { state := "second"
      now := 2
      answer := .ok { sessionId := some "session-2", accounts := [salary] }
      uuid4 := fun _ => "connection-3"
      accepted := true }

def disconnectSalary : Call :=
  .disconnect
    { connectionId := "connection-1"
      userId := 7
      deletion := .deleted
      accepted := true }

/-- A new consent for one account only: its disconnect leaves the other account's session. -/
theorem reconnected_account_kept :
    SessionsKept (runFrom (step fun _ => none) authorized
      [connectBoth, reconnectSalary, disconnectSalary]) :=
  (sessions_kept_iff (fun _ => none) (by decide) _).mpr (by decide +kernel) _
    (List.prefix_refl _)

/-- The disconnect of one account deletes the session of the other. -/
theorem disconnect_ends_shared_session :
    ¬ ∀ (fromisoformat : String → Option Instant) (initial : State) (calls : List Call),
      SessionsKept initial → SessionsKept (runFrom (step fromisoformat) initial calls) := by
  intro always
  have kept := always (fun _ => none) authorized [connectBoth, disconnectSalary] (by decide)
  revert kept
  decide +kernel

end FinanceTracker.Banking.SharedSessions
