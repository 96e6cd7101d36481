import FinanceTracker.Banking.SharedSessions

/-!
# The events of bank connections

A reader of the outbox knows the status of every connection from its last event.
-/

namespace FinanceTracker.Banking.ConnectionEvents

open Library KeyedRows Runs Connections
open MarkSyncComplete (Instant)
open SharedSessions (delete_session_tables)

def announcedStatus : ConnectionEvent → ConnectionStatus
  | .created .. => .active
  | .disconnected .. => .disconnected

/-- The status after the last event of the connection. -/
def announced (outbox : List OutboxRow) (connectionId : String) : Option ConnectionStatus :=
  (outbox.reverse.find? fun row => row.aggregateId = connectionId).map fun row =>
    announcedStatus row.event

def Announced (tables : Tables) : Prop :=
  ∀ row ∈ tables.connections, announced tables.outbox row.id = some row.status

section Append

variable {row : OutboxRow} {connectionId : String} (outbox : List OutboxRow)

theorem announced_own (own : row.aggregateId = connectionId) :
    announced (outbox ++ [row]) connectionId = some (announcedStatus row.event) := by
  simp [announced, own]

theorem announced_other (other : connectionId ≠ row.aggregateId) :
    announced (outbox ++ [row]) connectionId = announced outbox connectionId := by
  simp [announced, Ne.symm other]

end Append

variable {tables after : Tables} {consent : Consent}

theorem connect_account_announced {account : AccountPayload} {id : String}
    {created : CreatedAccount} (holds : Announced tables)
    (connected : connectAccount consent tables account id = .ok (after, created)) :
    Announced after := by
  unfold connectAccount at connected
  obtain ⟨found, _, rest⟩ := bind_eq_ok.mp connected
  intro row member
  cases found with
  | some existing =>
    cases rest
    rcases mem_update_consent member with ⟨reactivated, other⟩ | ⟨old, reactivated, here, rfl⟩
    · refine (announced_other _ other).trans ?_
      rcases mem_update_status reactivated with ⟨stored, _⟩ | ⟨_, _, here, rfl⟩
      · exact holds row stored
      · exact absurd here other
    · refine (announced_own _ here.symm).trans ?_
      rcases mem_update_status reactivated with ⟨_, other⟩ | ⟨_, _, _, rfl⟩
      · exact absurd here other
      · rfl
  | none =>
    obtain ⟨_, saved, rest⟩ := bind_eq_ok.mp rest
    cases rest
    unfold save at saved
    split at saved
    · cases saved
    · next absent =>
      cases saved
      rcases mem_snoc.mp member with stored | rfl
      · have other := lookup_none_iff.mp (Option.not_isSome_iff_eq_none.mp absent) row stored
        exact (announced_other _ other).trans (holds row stored)
      · exact announced_own _ rfl

theorem connect_accounts_announced {accounts : List (AccountPayload × String)}
    {created : List CreatedAccount} (holds : Announced tables)
    (connected : connectAccounts consent tables accounts = .ok (after, created)) :
    Announced after := by
  induction accounts generalizing tables created with
  | nil =>
    cases connected
    exact holds
  | cons head accounts ih =>
    obtain ⟨⟨_, _⟩, here, rest⟩ := bind_eq_ok.mp connected
    obtain ⟨⟨_, _⟩, later, rest⟩ := bind_eq_ok.mp rest
    cases rest
    exact ih (connect_account_announced holds here) later

theorem mark_disconnected_announced (connectionId : String) (conn : BankConnection)
    (holds : Announced tables) : Announced (markDisconnected connectionId conn tables) := by
  intro row member
  rcases mem_update_status member with ⟨stored, other⟩ | ⟨_, _, here, rfl⟩
  · exact (announced_other _ other).trans (holds row stored)
  · exact announced_own _ here.symm

theorem step_announced (fromisoformat : String → Option Instant) (state : State) (call : Call)
    (holds : Announced state.tables) : Announced (step fromisoformat state call).tables := by
  cases call with
  | completeConnect call =>
    unfold step completeConnect
    dsimp only
    split
    · exact holds
    · split
      · exact holds
      · split
        · exact holds
        · split
          · exact holds
          · next stored =>
            unfold storeAccounts at stored
            obtain ⟨_, connected, rest⟩ := bind_eq_ok.mp stored
            split at rest
            · cases rest
              exact connect_accounts_announced holds connected
            · cases rest
  | disconnect call =>
    unfold step disconnect
    dsimp only
    split
    · exact holds
    · split
      · exact holds
      · split
        · rw [delete_session_tables]
          exact mark_disconnected_announced _ _ holds
        · rw [delete_session_tables]
          exact holds

/-- In every run of connects and disconnects, any of which may fail. -/
theorem connections_announced (fromisoformat : String → Option Instant)
    (pendingAuths : List PendingAuthorization) (calls : List Call) :
    Announced (runFrom (step fromisoformat) { pendingAuths := pendingAuths } calls).tables :=
  run_keeps (step fromisoformat) (step_announced fromisoformat) (fun _ member => by cases member) calls

end FinanceTracker.Banking.ConnectionEvents
