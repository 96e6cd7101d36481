import FinanceTracker.Library.Sessions
import FinanceTracker.Banking.ConcurrentConnections

/-!
# Pending authorizations are consumed once

The UPDATE that consumes a pending authorization sees it unconsumed and keeps its row
locked until the commit, so the calls past this commit have different states, whatever
else interleaves.
-/

namespace FinanceTracker.Banking.ConsumedOnce

open Library KeyedRows ReadCommitted Sessions List
open Connections hiding State step Call
open MarkSyncComplete (Instant)
open ConcurrentConnections

/-- The state whose consumption is committed, of a call that has not raised since. -/
def consumedState : Session → Option String
  | .connect authState (.authorized _) => some authState
  | .connect authState (.storing _ _) => some authState
  | .connect authState (.found _ _ _ _) => some authState
  | .connect authState (.reactivated _ _ _ _) => some authState
  | .connect authState (.absent _ _ _) => some authState
  | .connect authState (.completed _) => some authState
  | _ => none

/-- The state whose consumption is written and not yet committed. -/
def consumingState : Session → Option String
  | .connect authState (.consumed _) => some authState
  | _ => none

abbrev HasConsumed (state : State) : ℕ → String → Prop := Claims consumedState state.calls

abbrev Consuming (state : State) : ℕ → String → Prop := Claims consumingState state.calls

abbrev AuthRow := Versioned ℕ String PendingAuthorization

/-- The row is not consumable any more. -/
def Spent (row : AuthRow) : Prop :=
  ∀ version, row.committed = some version → version.consumedAt ≠ none

def LockedBy (party : ℕ) (row : AuthRow) : Prop :=
  ∃ version, row.pending = some (party, some version)

def WritesConsumed (rows : List AuthRow) : Prop :=
  ∀ row ∈ rows, ∀ owner version, row.pending = some (owner, some version) →
    version.consumedAt ≠ none

structure ConsumeInv (state : State) : Prop where
  once : Exclusive consumedState state.calls
  spent : ∀ party authState, HasConsumed state party authState →
    ∀ row ∈ state.pendingAuths.rows, row.id = authState → Spent row
  written : WritesConsumed state.pendingAuths.rows
  locked : ∀ party authState, Consuming state party authState →
    ∃ row ∈ state.pendingAuths.rows, row.id = authState ∧ LockedBy party row
  alone : ∀ party authState, Consuming state party authState →
    ∀ other, ¬ HasConsumed state other authState

/-- A statement of `party`: spent rows stay spent, locks of others stay. -/
structure RowsStep (party : ℕ) (before after : List AuthRow) : Prop where
  spent : ∀ row ∈ after, ∃ old ∈ before, old.id = row.id ∧ (Spent old → Spent row)
  written : WritesConsumed after
  locked : ∀ row ∈ before, ∀ other, other ≠ party → LockedBy other row → row ∈ after

theorem rows_step_refl (party : ℕ) {rows : List AuthRow} (written : WritesConsumed rows) :
    RowsStep party rows rows where
  spent := fun row member => ⟨row, member, rfl, id⟩
  written := written
  locked := fun _ member _ _ _ => member

variable {table : Table ℕ PendingAuthorization.state}

theorem write_rows_step {party : ℕ} {wanted : PendingAuthorization → Bool}
    {change : PendingAuthorization → Option PendingAuthorization}
    (keeps : ∀ old next, change old = some next → next.state = old.state)
    (written : WritesConsumed table.rows) (free : table.blocked party wanted = false)
    (consumes : ∀ old next, change old = some next → next.consumedAt ≠ none) :
    RowsStep party table.rows (table.write party wanted change keeps).rows where
  spent := by
    intro _ member
    obtain ⟨old, stored, rfl⟩ := mem_map.mp member
    refine ⟨old, stored, (write_id party wanted change old).symm, ?_⟩
    intro spent version committed
    apply spent version
    unfold Versioned.write at committed
    split at committed
    · exact committed
    · split at committed <;> exact committed
  written := by
    intro _ member owner version pending
    obtain ⟨old, stored, rfl⟩ := mem_map.mp member
    unfold Versioned.write at pending
    split at pending
    · exact written old stored owner version pending
    · next shown seen =>
      split at pending
      · injection pending with lock
        injection lock with _ changed
        exact consumes shown version changed
      · exact written old stored owner version pending
  locked := by
    intro row member other others ⟨version, held⟩
    have same : row.write party wanted change = row := write_leaves_locked others held
      (eq_false_of_ne_true (any_eq_false.mp free row member))
    rw [← same]
    exact mem_map_of_mem member

theorem commit_rows_step (party : ℕ) (written : WritesConsumed table.rows) :
    RowsStep party table.rows (table.commit party).rows where
  spent := by
    intro _ member
    obtain ⟨old, stored, rfl⟩ := mem_map.mp member
    refine ⟨old, stored, (commit_id party old).symm, ?_⟩
    intro spent version committed
    unfold Versioned.commit at committed
    split at committed
    · next owner pending held =>
      split at committed
      · exact written old stored owner version (held.trans (by rw [← committed]))
      · exact spent version committed
    · exact spent version committed
  written := by
    intro _ member owner version pending
    obtain ⟨old, stored, rfl⟩ := mem_map.mp member
    unfold Versioned.commit at pending
    split at pending
    · split at pending
      · cases pending
      · exact written old stored owner version pending
    · exact written old stored owner version pending
  locked := by
    intro row member other others ⟨version, held⟩
    refine mem_map.mpr ⟨row, member, ?_⟩
    simp [Versioned.commit, held, others]

theorem rollback_rows_step (party : ℕ) (written : WritesConsumed table.rows) :
    RowsStep party table.rows (table.rollback party).rows where
  spent := by
    intro _ member
    obtain ⟨old, stored, rfl⟩ := mem_map.mp member
    refine ⟨old, stored, (rollback_id party old).symm, ?_⟩
    intro spent version committed
    apply spent version
    unfold Versioned.rollback at committed
    split at committed
    · split at committed <;> exact committed
    · exact committed
  written := by
    intro _ member owner version pending
    obtain ⟨old, stored, rfl⟩ := mem_map.mp member
    unfold Versioned.rollback at pending
    split at pending
    · split at pending
      · cases pending
      · exact written old stored owner version pending
    · exact written old stored owner version pending
  locked := by
    intro row member other others ⟨version, held⟩
    refine mem_map.mpr ⟨row, member, ?_⟩
    simp [Versioned.rollback, held, others]

theorem execute_rows_step {state : State} {party : ℕ} {statement : Statement}
    (written : WritesConsumed state.pendingAuths.rows)
    (free : blocked state party statement = false) :
    RowsStep party state.pendingAuths.rows (execute state party statement).pendingAuths.rows := by
  cases statement with
  | cleanupExpired =>
    apply write_rows_step (fun _ _ changed => by cases changed) written free
    intro _ _ changed
    cases changed
  | consume =>
    apply write_rows_step (fun _ _ changed => by cases changed; rfl) written free
    intro _ _ changed
    cases changed
    simp
  | commit => exact commit_rows_step party written
  | rollback => exact rollback_rows_step party written
  | reads | updateStatus | updateConsent | save => exact rows_step_refl party written

/-- A call comes past the consumption with its commit, and to the consumption with the
UPDATE of an unconsumed row that it sees. -/
inductive CallStep (state : State) (party : ℕ) (session : Session) :
    Statement × Session → Prop where
  | consumes (authState : String) (now : Instant) (next : Session) (auth : PendingAuthorization)
      (found : auth ∈ state.pendingAuths.view (some party))
      (consumable : isState authState now auth = true)
      (notYet : consumedState next = none) (consuming : consumingState next = some authState) :
      CallStep state party session (.consume authState now, next)
  | commits (authState : String) (next : Session)
      (before : consumingState session = some authState)
      (after : consumedState next = some authState) (noLonger : consumingState next = none) :
      CallStep state party session (.commit, next)
  | goesOn (statement : Statement) (next : Session)
      (before : ∀ authState, consumedState next = some authState →
        consumedState session = some authState)
      (consumesNot : consumingState next = none) :
      CallStep state party session (statement, next)

theorem next_connect_step (fromisoformat : String → Option Instant) (state : State) (party : ℕ)
    (choice : Choice) (authState : String) (phase : ConnectPhase) :
    CallStep state party (.connect authState phase)
      (nextStatement fromisoformat state party choice (.connect authState phase)) := by
  cases phase with
  | requested => exact .goesOn _ _ (fun _ past => by cases past) rfl
  | cleaned =>
    unfold nextStatement nextConnect
    dsimp only
    split
    · next none =>
      exact .goesOn _ _ (fun _ past => by cases past) rfl
    · next auth found =>
      exact .consumes authState choice.now _ auth (mem_of_find?_eq_some found)
        (List.find?_some (p := isState authState choice.now) found) rfl rfl
  | consumed => exact .commits authState _ rfl rfl rfl
  | authorized =>
    unfold nextStatement nextConnect
    dsimp only
    split
    · exact .goesOn _ _ (fun _ past => by cases past) rfl
    · split
      · exact .goesOn _ _ (fun _ past => by cases past) rfl
      · exact .goesOn _ _ (fun _ past => past) rfl
  | storing work accounts =>
    cases accounts with
    | nil => exact .goesOn _ _ (fun _ past => past) rfl
    | cons =>
      unfold nextStatement nextConnect
      dsimp only
      split
      · exact .goesOn _ _ (fun _ past => by cases past) rfl
      · exact .goesOn _ _ (fun _ past => past) rfl
      · exact .goesOn _ _ (fun _ past => past) rfl
  | found | reactivated | completed | raised => exact .goesOn _ _ (fun _ past => past) rfl
  | absent =>
    unfold nextStatement nextConnect
    dsimp only
    split
    · exact .goesOn _ _ (fun _ past => by cases past) rfl
    · exact .goesOn _ _ (fun _ past => past) rfl

theorem next_statement_step (fromisoformat : String → Option Instant) (state : State) (party : ℕ)
    (choice : Choice) (session : Session) :
    CallStep state party session (nextStatement fromisoformat state party choice session) := by
  cases session with
  | connect authState phase =>
    exact next_connect_step fromisoformat state party choice authState phase
  | disconnect => exact .goesOn _ _ (fun _ past => by cases past) rfl

theorem abort_step (state : State) (party : ℕ) (session : Session) :
    CallStep state party session (.rollback, session.abort) := by
  cases session with
  | connect authState phase =>
    cases phase with
    | completed => exact .goesOn _ _ (fun _ past => past) rfl
    | _ => exact .goesOn _ _ (fun _ past => by cases past) rfl
  | disconnect connectionId userId phase =>
    cases phase <;> exact .goesOn _ _ (fun _ past => by cases past) rfl

section Steps

variable {state after : State} {party other : ℕ} {session next : Session} {authState : String}

/-- The parts of the invariant that only speak of the rows are kept. -/
theorem spent_after (invariant : ConsumeInv state) {rowsAfter : List AuthRow}
    (rows : RowsStep party state.pendingAuths.rows rowsAfter)
    (consumed : HasConsumed state other authState) {row : AuthRow}
    (member : row ∈ rowsAfter) (named : row.id = authState) : Spent row := by
  obtain ⟨old, stored, sameId, stays⟩ := rows.spent row member
  exact stays (invariant.spent other authState consumed old stored (sameId.trans named))

theorem locked_after (invariant : ConsumeInv state) {rowsAfter : List AuthRow}
    (rows : RowsStep party state.pendingAuths.rows rowsAfter)
    (others : other ≠ party) (consuming : Consuming state other authState) :
    ∃ row ∈ rowsAfter, row.id = authState ∧ LockedBy other row := by
  obtain ⟨row, member, named, held⟩ := invariant.locked other authState consuming
  exact ⟨row, rows.locked row member other others held, named, held⟩

theorem goes_on_inv (invariant : ConsumeInv state)
    (rows : RowsStep party state.pendingAuths.rows after.pendingAuths.rows)
    (here : state.calls[party]? = some session)
    (calls : after.calls = state.calls.set party next)
    (before : ∀ authState, consumedState next = some authState →
      consumedState session = some authState)
    (consumesNot : consumingState next = none) : ConsumeInv after := by
  have consumedBefore : ∀ other authState, HasConsumed after other authState →
      HasConsumed state other authState := by
    intro _ authState has
    rw [HasConsumed, calls] at has
    rcases claims_set has with ⟨rfl, consumed⟩ | ⟨_, hadBefore⟩
    · exact ⟨session, here, before authState consumed⟩
    · exact hadBefore
  have consumingBefore : ∀ other authState, Consuming after other authState →
      other ≠ party ∧ Consuming state other authState := by
    intro _ _ consuming
    rw [Consuming, calls] at consuming
    rcases claims_set consuming with ⟨_, consumes⟩ | others
    · rw [consumesNot] at consumes
      cases consumes
    · exact others
  exact {
    once := fun first second authState firstHas secondHas =>
      invariant.once first second authState (consumedBefore _ _ firstHas)
        (consumedBefore _ _ secondHas)
    spent := fun other authState has row member named =>
      spent_after invariant rows (consumedBefore _ _ has) member named
    written := rows.written
    locked := fun other authState consuming =>
      locked_after invariant rows (consumingBefore _ _ consuming).1 (consumingBefore _ _ consuming).2
    alone := fun other authState consuming third has =>
      invariant.alone other authState (consumingBefore _ _ consuming).2 third
        (consumedBefore _ _ has) }

variable {now : Instant} {auth : PendingAuthorization}

/-- The UPDATE has seen the row unconsumed, so no call is past its consumption. -/
theorem unconsumed_alone (invariant : ConsumeInv state)
    (found : auth ∈ state.pendingAuths.view (some party))
    (consumable : isState authState now auth = true) (other : ℕ) :
    ¬ HasConsumed state other authState := by
  intro consumed
  obtain ⟨row, member, seen⟩ := mem_view.mp found
  have named : auth.state = authState ∧ auth.consumedAt = none := by
    simp only [isState, isConsumable, Bool.and_eq_true, decide_eq_true_eq] at consumable
    exact ⟨consumable.1, consumable.2.1⟩
  have rowId : row.id = authState :=
    (state.pendingAuths.labelled row member auth (seen_version seen)).symm.trans named.1
  rcases mem_versions.mp (seen_version seen) with committed | ⟨owner, pending⟩
  · exact invariant.spent other authState consumed row member rowId auth committed named.2
  · exact invariant.written row member owner auth pending named.2

theorem consume_locks (found : auth ∈ state.pendingAuths.view (some party))
    (consumable : isState authState now auth = true) :
    ∃ row ∈ (writeConsumed state.pendingAuths party authState now).rows,
      row.id = authState ∧ LockedBy party row := by
  obtain ⟨row, member, seen⟩ := mem_view.mp found
  have named : auth.state = authState := by
    simp only [isState, Bool.and_eq_true, decide_eq_true_eq] at consumable
    exact consumable.1
  refine ⟨_, mem_map_of_mem member, ?_, ?_⟩
  · rw [write_id]
    exact (state.pendingAuths.labelled row member auth (seen_version seen)).symm.trans named
  · exact ⟨{ auth with consumedAt := some now }, by simp [Versioned.write, seen, consumable]⟩

theorem consumes_inv (invariant : ConsumeInv state)
    (free : blocked state party (.consume authState now) = false)
    (found : auth ∈ state.pendingAuths.view (some party))
    (consumable : isState authState now auth = true) (notYet : consumedState next = none)
    (consuming : consumingState next = some authState) :
    ConsumeInv ((execute state party (.consume authState now)).setCall party next) := by
  have rows := execute_rows_step invariant.written free
  have consumedBefore : ∀ other wanted,
      HasConsumed ((execute state party (.consume authState now)).setCall party next) other wanted →
        HasConsumed state other wanted := by
    intro _ _ has
    rcases claims_set has with ⟨_, consumed⟩ | ⟨_, hadBefore⟩
    · rw [notYet] at consumed
      cases consumed
    · exact hadBefore
  exact {
    once := fun first second wanted firstHas secondHas =>
      invariant.once first second wanted (consumedBefore _ _ firstHas) (consumedBefore _ _ secondHas)
    spent := fun other wanted has row member named =>
      spent_after invariant rows (consumedBefore _ _ has) member named
    written := rows.written
    locked := by
      intro _ _ consumes
      rcases claims_set consumes with ⟨rfl, mine⟩ | ⟨others, consumesBefore⟩
      · rw [consuming] at mine
        cases mine
        exact consume_locks found consumable
      · exact locked_after invariant rows others consumesBefore
    alone := by
      intro other wanted consumes third has
      rcases claims_set consumes with ⟨rfl, mine⟩ | ⟨_, consumesBefore⟩
      · rw [consuming] at mine
        cases mine
        exact unconsumed_alone invariant found consumable third (consumedBefore _ _ has)
      · exact invariant.alone other wanted consumesBefore third (consumedBefore _ _ has) }

theorem consuming_owner (invariant : ConsumeInv state) (first : Consuming state party authState)
    (second : Consuming state other authState) : other = party := by
  obtain ⟨row, member, named, _, held⟩ := invariant.locked party authState first
  obtain ⟨row', member', named', _, held'⟩ := invariant.locked other authState second
  have same : row = row' :=
    inj_on_of_nodup_map state.pendingAuths.distinct member member' (named.trans named'.symm)
  rw [← same, held] at held'
  cases held'
  rfl

theorem commit_spends (invariant : ConsumeInv state) (consuming : Consuming state party authState)
    {row : AuthRow} (member : row ∈ (state.pendingAuths.commit party).rows)
    (named : row.id = authState) : Spent row := by
  obtain ⟨locked, inRows, lockedNamed, version, held⟩ := invariant.locked party authState consuming
  obtain ⟨old, stored, rfl⟩ := mem_map.mp member
  rw [commit_id] at named
  have same : old = locked :=
    inj_on_of_nodup_map state.pendingAuths.distinct stored inRows
      (named.trans lockedNamed.symm)
  intro _ committed
  rw [same] at committed
  simp only [Versioned.commit, held, if_true] at committed
  cases committed
  exact invariant.written locked inRows party version held

theorem commits_inv (invariant : ConsumeInv state) (mine : Consuming state party authState)
    (consumedNow : consumedState next = some authState) (noLonger : consumingState next = none) :
    ConsumeInv ((execute state party .commit).setCall party next) := by
  have rows : RowsStep party state.pendingAuths.rows
      ((execute state party .commit).setCall party next).pendingAuths.rows :=
    execute_rows_step invariant.written rfl
  have consumedBefore : ∀ other wanted,
      HasConsumed ((execute state party .commit).setCall party next) other wanted →
        (other = party ∧ wanted = authState) ∨ HasConsumed state other wanted := by
    intro _ _ has
    rcases claims_set has with ⟨rfl, consumed⟩ | ⟨_, hadBefore⟩
    · rw [consumedNow] at consumed
      exact Or.inl ⟨rfl, (Option.some.inj consumed).symm⟩
    · exact Or.inr hadBefore
  have consumingBefore : ∀ other wanted,
      Consuming ((execute state party .commit).setCall party next) other wanted →
        other ≠ party ∧ Consuming state other wanted := by
    intro _ _ consuming
    rcases claims_set consuming with ⟨_, consumes⟩ | others
    · rw [noLonger] at consumes
      cases consumes
    · exact others
  exact {
    once := by
      apply exclusive_set invariant.once
      intro _ consumed
      rw [consumedNow] at consumed
      cases consumed
      exact Or.inr (invariant.alone party authState mine)
    spent := by
      intro _ _ has _ member named
      rcases consumedBefore _ _ has with ⟨rfl, rfl⟩ | hadBefore
      · exact commit_spends invariant mine member named
      · exact spent_after invariant rows hadBefore member named
    written := rows.written
    locked := fun other wanted consuming =>
      locked_after invariant rows (consumingBefore _ _ consuming).1 (consumingBefore _ _ consuming).2
    alone := by
      intro other wanted consuming third has
      obtain ⟨others, consumedThen⟩ := consumingBefore _ _ consuming
      rcases consumedBefore _ _ has with ⟨rfl, rfl⟩ | hadBefore
      · exact others (consuming_owner invariant mine consumedThen)
      · exact invariant.alone other wanted consumedThen third hadBefore }

theorem call_step_inv (invariant : ConsumeInv state) (here : state.calls[party]? = some session)
    {statement : Statement} (free : blocked state party statement = false)
    (goes : CallStep state party session (statement, next)) :
    ConsumeInv ((execute state party statement).setCall party next) := by
  cases goes with
  | consumes authState now next auth found consumable notYet consuming =>
    exact consumes_inv invariant free found consumable notYet consuming
  | commits authState next before after noLonger =>
    exact commits_inv invariant ⟨session, here, before⟩ after noLonger
  | goesOn statement next before consumesNot =>
    exact goes_on_inv invariant (execute_rows_step invariant.written free) here
      (by cases statement <;> rfl) before consumesNot

theorem begin_inv (invariant : ConsumeInv state) {session : Session}
    (consumedNot : consumedState session = none) (consumesNot : consumingState session = none) :
    ConsumeInv { state with calls := state.calls ++ [session] } where
  once := exclusive_append invariant.once consumedNot
  spent := fun party authState has =>
    invariant.spent party authState (claims_append consumedNot has)
  written := invariant.written
  locked := fun party authState consuming =>
    invariant.locked party authState (claims_append consumesNot consuming)
  alone := fun party authState consuming other has =>
    invariant.alone party authState (claims_append consumesNot consuming) other
      (claims_append consumedNot has)

end Steps

theorem step_inv (fromisoformat : String → Option Instant) (state : State) (label : Label)
    (invariant : ConsumeInv state) : ConsumeInv (step fromisoformat state label) := by
  cases label with
  | completeConnect | disconnect => exact begin_inv invariant rfl rfl
  | proceed party choice =>
    unfold step
    dsimp only
    split
    · exact invariant
    · next session here =>
      have goes := next_statement_step fromisoformat state party choice session
      unfold proceed
      generalize nextStatement fromisoformat state party choice session = result at goes
      obtain ⟨_, next⟩ := result
      dsimp only
      split
      · exact invariant
      · next free => exact call_step_inv invariant here (eq_false_of_ne_true free) goes
  | abort party =>
    unfold step
    dsimp only
    split
    · exact invariant
    · next session here =>
      exact call_step_inv invariant here rfl (abort_step state party session)

theorem start_inv {connections : List BankConnection}
    (distinct : DistinctKeys BankConnection.id connections) {auths : List PendingAuthorization}
    (distinctStates : DistinctKeys PendingAuthorization.state auths) :
    ConsumeInv (start connections distinct auths distinctStates) where
  once := exclusive_nil
  spent := fun party authState ⟨session, got, _⟩ => by cases got
  written := by
    intro _ member _ _ pending
    obtain ⟨_, _, rfl⟩ := mem_map.mp member
    cases pending
  locked := fun party authState ⟨session, got, _⟩ => by cases got
  alone := fun party authState ⟨session, got, _⟩ => by cases got

def HasCompleted (state : State) (party : ℕ) (authState : String) : Prop :=
  ∃ created, state.calls[party]? = some (.connect authState (.completed created))

/-- Two completed connects have different states. -/
def CompletedOnce (state : State) : Prop :=
  ∀ first second authState, HasCompleted state first authState →
    HasCompleted state second authState → first = second

theorem completed_once {state : State} (invariant : ConsumeInv state) : CompletedOnce state := by
  intro first second authState ⟨created, firstCall⟩ ⟨createdThen, secondCall⟩
  exact invariant.once first second authState ⟨_, firstCall, rfl⟩ ⟨_, secondCall, rfl⟩

end FinanceTracker.Banking.ConsumedOnce
