import FinanceTracker.Analytics.Convergence
import FinanceTracker.Transaction.Categorization

/-!
# A manual category choice on both sides of the bus

The history of one transaction: user updates, which change the row and publish
it, and categorizations, which transaction-service applies to the row and the
analytics projection to the document. Both sides process the events in timestamp
order. The projection has no counterpart of the consumer's `manual` guard, so a
categorization the row refuses still reaches the document.
-/

namespace FinanceTracker.System.ManualChoice

open Library Deliveries Runs Shared.TransactionEvents Analytics.TransactionStore
  Analytics.Convergence Transaction.Domain Transaction.Categorization List

inductive Action where
  | update (timestamp : Int) (userId : Int) (dto : UpdateTransactionDTO)
  | categorized (event : CategorizedEvent)

def Action.timestamp : Action → Int
  | .update timestamp _ _ => timestamp
  | .categorized event => event.timestamp

/-- The row, and every event of the transaction with the row it found. -/
structure Ledger where
  row : Transaction
  log : List (Transaction × TransactionEvent)

def Ledger.events (ledger : Ledger) : List TransactionEvent := ledger.log.map Prod.snd

/-- An update that raises, or has no fields, changes and publishes nothing. -/
def recordUpdate (ledger : Ledger) (timestamp : Int) :
    Except TransactionError (Option Transaction) → Ledger
  | .ok (some updated) =>
    { row := updated
      log := ledger.log ++ [(ledger.row, .updated (coreEvent updated timestamp))] }
  | .ok none => ledger
  | .error _ => ledger

def step (copies : ReadCopies) (ledger : Ledger) : Action → Ledger
  | .update timestamp userId dto =>
    recordUpdate ledger timestamp (updateTransaction copies ledger.row userId dto)
  | .categorized event =>
    { row := consumerHandle copies ledger.row event
      log := ledger.log ++ [(ledger.row, .categorized event)] }

/-- A live row as it was created, and what happened to it in timestamp order. -/
structure TransactionHistory where
  created : Transaction
  live : created.deleted = false
  createdAt : Int
  actions : List Action
  ordered : (createdAt :: actions.map Action.timestamp).Pairwise (· ≤ ·)

def TransactionHistory.start (history : TransactionHistory) : Ledger where
  row := history.created
  log := [(history.created, .created (coreEvent history.created history.createdAt))]

def TransactionHistory.ledger (copies : ReadCopies) (history : TransactionHistory) : Ledger :=
  runFrom (step copies) history.start history.actions

/-- The document after the projection processed every event of the history. -/
def TransactionHistory.doc (copies : ReadCopies) (reads : ProjectorReads)
    (history : TransactionHistory) : Option TransactionDoc :=
  project reads history.created.id (history.ledger copies).events

def fieldsChoice (fields : CategorizationFields) : CategoryChoice where
  categoryId := fields.categoryId
  subcategoryId := fields.subcategoryId
  tier := fields.categorizationTier

def docChoice (doc : Option TransactionDoc) : Option CategoryChoice :=
  (doc.bind TransactionDoc.categorization).map fieldsChoice

/-- The document and the row name the same category, subcategory and tier. -/
def Agrees (copies : ReadCopies) (reads : ProjectorReads) (history : TransactionHistory) : Prop :=
  docChoice (history.doc copies reads) = some (rowChoice (history.ledger copies).row)

/-- A categorization the row takes over with a nonempty tier, or one that repeats
the choice pinned on the row. -/
def Honoured (found : Transaction) (event : CategorizedEvent) : Prop :=
  if found.categorizationTier = some "manual" then
    rowChoice found = ⟨some event.categoryId, some event.subcategoryId, some event.tier⟩
  else event.tier ≠ ""

def LastHonoured (copies : ReadCopies) (history : TransactionHistory) : Prop :=
  ∀ found event, (history.ledger copies).log.getLast? = some (found, .categorized event) →
    Honoured found event

def FollowsLast (copies : ReadCopies) (ledger : Ledger) : Prop :=
  ∃ before found last, ledger.log = before ++ [(found, last)] ∧
    match last with
    | .created event => ∃ timestamp, event = coreEvent ledger.row timestamp
    | .updated event => ∃ timestamp, event = coreEvent ledger.row timestamp
    | .categorized event =>
      found.deleted = false ∧ ledger.row = consumerHandle copies found event

structure LedgerInvariant (copies : ReadCopies) (createdAt : Int) (actions : List Action)
    (ledger : Ledger) : Prop where
  live : ledger.row.deleted = false
  follows : FollowsLast copies ledger
  timestamps : List.Sublist (ledger.events.map TransactionEvent.timestamp)
    (createdAt :: actions.map Action.timestamp)

variable {createdAt : Int} {actions : List Action} {before : List TransactionEvent}
  {last : TransactionEvent} {found : Transaction}

theorem step_keeps {copies : ReadCopies} {ledger : Ledger}
    (invariant : LedgerInvariant copies createdAt actions ledger) (action : Action) :
    LedgerInvariant copies createdAt (actions ++ [action]) (step copies ledger action) := by
  have unchanged : LedgerInvariant copies createdAt (actions ++ [action]) ledger := by
    refine ⟨invariant.live, invariant.follows, ?_⟩
    rw [map_append, ← cons_append]
    exact invariant.timestamps.trans (sublist_append_left _ _)
  have extended : ∀ found event, event.timestamp = action.timestamp →
      List.Sublist (((ledger.log ++ [(found, event)]).map Prod.snd).map TransactionEvent.timestamp)
        (createdAt :: (actions ++ [action]).map Action.timestamp) := by
    intro _ _ stamp
    rw [map_append, map_append, map_append, ← cons_append]
    apply List.Sublist.append invariant.timestamps
    simp [stamp]
  cases action with
  | update timestamp userId dto =>
    simp only [step]
    cases outcome : updateTransaction copies ledger.row userId dto with
    | error => exact unchanged
    | ok result =>
      cases result with
      | none => exact unchanged
      | some =>
        refine ⟨update_transaction_live outcome, ⟨ledger.log, ledger.row, _, rfl, ?_⟩, ?_⟩
        · exact ⟨timestamp, rfl⟩
        · exact extended _ _ rfl
  | categorized event =>
    refine ⟨consumer_handle_live invariant.live event,
      ⟨ledger.log, ledger.row, _, rfl, invariant.live, rfl⟩, ?_⟩
    exact extended _ _ rfl

variable (copies : ReadCopies) (reads : ProjectorReads)

theorem ledger_invariant (history : TransactionHistory) :
    LedgerInvariant copies history.createdAt history.actions (history.ledger copies) := by
  apply run_history_keeps (step copies)
  · exact ⟨history.live, ⟨[], _, _, rfl, history.createdAt, rfl⟩,
      by simp [TransactionHistory.start, Ledger.events, TransactionEvent.timestamp, coreEvent]⟩
  · intro _ _ action _ invariant
    exact step_keeps invariant action

theorem project_last_wins (transactionId : Int)
    (newest : ∀ event ∈ before, event.timestamp ≤ last.timestamp) :
    (project reads transactionId (before ++ [last])).bind TransactionDoc.categorization =
      some (categorizationFields reads last) := by
  have seen := guards_seen reads transactionId before
  have top : AtTop eventTs before last := fun event member => event_ts_mono (newest event member)
  rw [project_redelivered, deliver_top seen top]
  rfl

theorem ordered_last_newest (ordered : (createdAt :: actions.map Action.timestamp).Pairwise (· ≤ ·))
    (timestamps : List.Sublist ((before ++ [last]).map TransactionEvent.timestamp)
      (createdAt :: actions.map Action.timestamp)) :
    ∀ event ∈ before, event.timestamp ≤ last.timestamp := by
  intro event member
  have sorted := ordered.sublist timestamps
  rw [map_append, pairwise_append] at sorted
  exact sorted.2.2 event.timestamp (mem_map_of_mem member) last.timestamp (by simp)

theorem doc_choice_last (history : TransactionHistory)
    {before : List (Transaction × TransactionEvent)}
    (log : (history.ledger copies).log = before ++ [(found, last)]) :
    docChoice (history.doc copies reads) = some (fieldsChoice (categorizationFields reads last)) := by
  have events : (history.ledger copies).events = before.map Prod.snd ++ [last] := by
    simp [Ledger.events, log]
  have timestamps := (ledger_invariant copies history).timestamps
  rw [events] at timestamps
  have newest := ordered_last_newest history.ordered timestamps
  unfold docChoice TransactionHistory.doc
  rw [events, project_last_wins reads history.created.id newest]
  rfl

theorem core_event_choice (row : Transaction) (timestamp : Int) :
    fieldsChoice (coreParams reads (coreEvent row timestamp)).categorization = rowChoice row := rfl

/-- A categorization reaches both sides alike exactly when it is honoured. -/
theorem categorized_agrees_iff (live : found.deleted = false) (event : CategorizedEvent) :
    fieldsChoice (categorizationFields reads (.categorized event)) =
      rowChoice (consumerHandle copies found event) ↔ Honoured found event := by
  have handled : consumerHandle copies found event =
      applyCategorization found event (parentName copies event) := by
    simp [consumerHandle, live]
  have written : fieldsChoice (categorizationFields reads (.categorized event)) =
      ⟨some event.categoryId, some event.subcategoryId, orNone event.tier⟩ := rfl
  rw [handled, written]
  unfold Honoured
  by_cases pinned : found.categorizationTier = some "manual"
  · rw [if_pos pinned, apply_categorization_manual event _ pinned]
    have manual : ∀ text, orNone text = some "manual" ↔ some text = some "manual" := by
      intro _
      unfold orNone
      split
      · next empty => simp [empty]
      · rfl
    simp only [rowChoice, pinned, CategoryChoice.mk.injEq, manual]
    constructor
    · rintro ⟨category, subcategory, tier⟩
      exact ⟨category.symm, subcategory.symm, tier.symm⟩
    · rintro ⟨category, subcategory, tier⟩
      exact ⟨category.symm, subcategory.symm, tier.symm⟩
  · rw [if_neg pinned, apply_categorization_choice event _ pinned]
    simp [orNone]

/-- After every history the document and the row agree exactly when the last
event is no categorization, or one the row takes over with a nonempty tier, or
one that repeats the pinned choice. -/
theorem agrees_iff_last_honoured (copies : ReadCopies) (reads : ProjectorReads)
    (history : TransactionHistory) :
    Agrees copies reads history ↔ LastHonoured copies history := by
  obtain ⟨_, found, last, log, follows⟩ := (ledger_invariant copies history).follows
  have document := doc_choice_last copies reads history log
  have isLast : (history.ledger copies).log.getLast? = some (found, last) := by
    rw [log, List.getLast?_concat]
  unfold Agrees LastHonoured
  rw [document, isLast, Option.some.injEq]
  cases last with
  | created | updated =>
    obtain ⟨_, rfl⟩ := follows
    simp [categorizationFields, core_event_choice]
  | categorized event =>
    rw [follows.2, categorized_agrees_iff copies reads follows.1 event]
    constructor
    · intro honoured _ _ same
      cases same
      exact honoured
    · intro honoured
      exact honoured found event rfl

def plainCopies : ReadCopies where
  categoryName := fun _ => none
  subcategory := fun _ => none

def importedRow : Transaction where
  id := 1
  userId := 1
  accountId := 1
  accountName := "Lønkonto"
  amount := 12550
  transactionType := .expense
  description := some "NETTO"
  date := purchaseDate

/-- The user chooses category 3; the pipeline answers 5 afterwards. -/
def correctedThenCategorized : TransactionHistory where
  created := importedRow
  live := rfl
  createdAt := 0
  actions :=
    [.update 10000 1 { categoryId := some (some 3) },
     .categorized { categoryId := 5, subcategoryId := 12, tier := "rule", timestamp := 20000 }]
  ordered := by decide

/-- The row keeps the user's category 3 and the document shows 5. -/
theorem corrected_then_categorized_disagrees :
    ¬ Agrees plainCopies plainReads correctedThenCategorized := by
  unfold Agrees
  decide +kernel

end FinanceTracker.System.ManualChoice
