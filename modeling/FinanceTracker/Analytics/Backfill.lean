import Mathlib.Data.Finset.Card
import FinanceTracker.Analytics.Convergence

/-!
# The backfill of the transaction projection

`BackfillRunner` pages through the rows of an account and writes each with the
core script under `event_ts` 0. A live event is newer than that, so it passes a
guard the backfill has set and the backfill is refused by a guard the live event
has set. What the backfill wrote before the first live core event is overwritten
by it.
-/

namespace FinanceTracker.Analytics.Backfill

open Library Calendar Runs Shared.TransactionEvents TransactionStore Convergence

/-- A row as the transactions endpoint returns it; an absent key is none. -/
structure BackfillRow where
  id : Int
  accountId : Int
  userId : Option Int := none
  amount : String
  transactionType : Option String := none
  date : String
  description : Option String := none
  categoryId : Option Int := none
  categoryName : Option String := none
  subcategoryId : Option Int := none
  subcategoryName : Option String := none
  categorizationTier : Option String := none
  categorizationConfidence : Option String := none
  deriving DecidableEq

/-- `float(str(raw))`, `lower()` and `_parse_date`, which raises where it gives
none, and the names the taxonomy pass has collected. -/
structure BackfillReads where
  amount : String → Rat
  lower : String → String
  parseDate : String → Option Date
  categoryNames : Int → Option String
  subcategoryNames : Int → Option String

def backfillEventTs : Int := 0

def pageSize : Nat := 200

def textOr (first second : Option String) : Option String :=
  if first.getD "" = "" then second else first

def userIdOr (rowUserId : Option Int) (userId : Int) : Int :=
  if rowUserId.getD 0 = 0 then userId else rowUserId.getD 0

def resolvedName (names : Int → Option String) (id : Option Int) (rowName : Option String) :
    Option String :=
  id.bind fun id => textOr (names id) rowName

def backfillParams (reads : BackfillReads) (userId : Int) (row : BackfillRow) (txDate : Date) :
    CoreParams where
  core :=
    { accountId := row.accountId
      userId := userIdOr row.userId userId
      amount := reads.amount row.amount
      amountAbs := |reads.amount row.amount|
      transactionType := reads.lower (row.transactionType.getD "")
      txDate := txDate
      description := row.description.getD "" }
  categorization :=
    { categoryId := row.categoryId
      categoryName := resolvedName reads.categoryNames row.categoryId row.categoryName
      subcategoryId := row.subcategoryId
      subcategoryName :=
        resolvedName reads.subcategoryNames row.subcategoryId row.subcategoryName
      categorizationTier := row.categorizationTier
      categorizationConfidence := row.categorizationConfidence }
  eventTs := backfillEventTs

/-- The upsert of one row; a date that does not parse raises before the write. -/
def backfillRow (reads : BackfillReads) (userId transactionId : Int)
    (doc : Option TransactionDoc) (row : BackfillRow) : Option TransactionDoc :=
  match reads.parseDate row.date with
  | none => doc
  | some txDate => upsertCore transactionId (backfillParams reads userId row txDate) doc

structure Page where
  items : List BackfillRow
  totalCount : Nat

/-- The rows the paging loop writes, given the answers of the endpoint. A page
without a new id ends it, and so does a short page or a full count. -/
def pagedRows (seenIds : Finset Int) : List Page → List BackfillRow
  | [] => []
  | page :: pages =>
    let newRows := page.items.filter fun row => row.id ∉ seenIds
    if newRows = [] then []
    else
      let seenIds := seenIds ∪ (newRows.map BackfillRow.id).toFinset
      if page.items.length < pageSize then newRows
      else if page.totalCount ≤ seenIds.card then newRows
      else newRows ++ pagedRows seenIds pages

/-- `_backfill_transactions` as one document sees it. A row whose date does not
parse ends the run. -/
def backfillTransactions (reads : BackfillReads) (userId transactionId : Int)
    (doc : Option TransactionDoc) (pages : List Page) : Option TransactionDoc :=
  let written := (pagedRows ∅ pages).takeWhile fun row => (reads.parseDate row.date).isSome
  runFrom (backfillRow reads userId transactionId) doc
    (written.filter fun row => row.id = transactionId)

structure LiveEvent where
  reads : ProjectorReads
  event : TransactionEvent
  recent : backfillEventTs < eventTs event

inductive Write where
  | live (delivered : LiveEvent)
  | backfill (userId : Int) (row : BackfillRow)

def Write.isLive : Write → Bool
  | .live _ => true
  | .backfill _ _ => false

/-- A live created or updated event. -/
def Write.isCore : Write → Bool
  | .live delivered => !delivered.event.isCategorized
  | .backfill _ _ => false

def write (backfillReads : BackfillReads) (transactionId : Int)
    (doc : Option TransactionDoc) : Write → Option TransactionDoc
  | .live delivered => projectEvent delivered.reads transactionId doc delivered.event
  | .backfill userId row => backfillRow backfillReads userId transactionId doc row

/-- The document after the writes, starting with no document. -/
def written (backfillReads : BackfillReads) (transactionId : Int) (writes : List Write) :
    Option TransactionDoc :=
  runFrom (write backfillReads transactionId) none writes

def withoutBackfill (writes : List Write) : List Write := writes.filter Write.isLive

/-- The document a script runs on. -/
def docOrBody (transactionId : Int) (doc : Option TransactionDoc) : TransactionDoc :=
  doc.getD (upsertBody transactionId)

/-- What the core script leaves of a live document. -/
def applyCore (params : CoreParams) (doc : TransactionDoc) : TransactionDoc :=
  if admits doc.coreEventTs params.eventTs then
    { doc with
      core := some params.core
      coreEventTs := some params.eventTs
      categorization :=
        if admits doc.categorizationEventTs params.eventTs then some params.categorization
        else doc.categorization
      updatedAt := some params.eventTs }
  else doc

variable {transactionId : Int} {doc plain : Option TransactionDoc} {event : TransactionEvent}
  {settled : Bool} {params : CoreParams} {first second : Option TransactionDoc}

theorem upsert_core_live (live : (docOrBody transactionId doc).isDeleted = false)
    (created : doc = none → admits none params.eventTs = true) :
    upsertCore transactionId params doc =
      some (applyCore params (docOrBody transactionId doc)) := by
  cases doc with
  | none =>
    have accepted := created rfl
    unfold upsertCore scriptedUpsert coreScript applyCore docOrBody upsertBody
    simp [accepted, TransactionDoc.writeCore, TransactionDoc.writeCategorization]
  | some stored =>
    change stored.isDeleted = false at live
    unfold upsertCore scriptedUpsert coreScript applyCore docOrBody
    by_cases accepted : admits stored.coreEventTs params.eventTs = true
    · by_cases shared : admits stored.categorizationEventTs params.eventTs = true
      · simp [live, accepted, shared, TransactionDoc.writeCore,
          TransactionDoc.writeCategorization]
      · simp [live, accepted, shared, TransactionDoc.writeCore]
    · simp [live, accepted]

variable (reads : BackfillReads) (userId : Int)

theorem backfill_row_cases (live : (docOrBody transactionId doc).isDeleted = false)
    (row : BackfillRow) :
    backfillRow reads userId transactionId doc row = doc ∨
      ∃ params : CoreParams, params.eventTs = backfillEventTs ∧
        backfillRow reads userId transactionId doc row =
          some (applyCore params (docOrBody transactionId doc)) := by
  unfold backfillRow
  cases reads.parseDate row.date with
  | none => exact Or.inl rfl
  | some txDate =>
    apply Or.inr
    refine ⟨backfillParams reads userId row txDate, rfl, ?_⟩
    exact upsert_core_live live fun _ => rfl

theorem project_event_either (reads : ProjectorReads)
    (live : (docOrBody transactionId doc).isDeleted = false) (event : TransactionEvent) :
    projectEvent reads transactionId doc event =
      some (deliver reads (docOrBody transactionId doc) event) := by
  cases doc with
  | none =>
    rw [project_first]
    exact project_event_live reads transactionId rfl event
  | some => exact project_event_live reads transactionId live event

/-- Before the first live core event: the guards differ at most by the backfill's
own core stamp, and a live categorization is already in place. -/
structure Unsettled (plain doc : TransactionDoc) : Prop where
  identity : doc.transactionId = plain.transactionId
  plainLive : plain.isDeleted = false
  live : doc.isDeleted = false
  plainGuard : plain.coreEventTs = none
  coreGuard : doc.coreEventTs = none ∨ doc.coreEventTs = some backfillEventTs
  sameGuard : doc.categorizationEventTs = plain.categorizationEventTs
  shared : ∀ stamp, plain.categorizationEventTs = some stamp →
    backfillEventTs < stamp ∧ doc.categorization = plain.categorization

structure CoreSettled (doc : TransactionDoc) : Prop where
  live : doc.isDeleted = false
  guard : ∃ stamp, doc.coreEventTs = some stamp ∧ backfillEventTs < stamp

/-- The document without and with the backfill: the same from the first live core
event on. -/
def Absorbed (transactionId : Int) (settled : Bool) (plain doc : Option TransactionDoc) : Prop :=
  if settled then ∃ stored, plain = some stored ∧ doc = some stored ∧ CoreSettled stored
  else Unsettled (docOrBody transactionId plain) (docOrBody transactionId doc)

theorem unsettled_start (transactionId : Int) :
    Absorbed transactionId false none none :=
  ⟨rfl, rfl, rfl, rfl, Or.inl rfl, rfl, fun _ found => nomatch found⟩

theorem admits_none_or {guard : Option Int} {stamp : Int}
    (guarded : guard = none ∨ guard = some backfillEventTs) (recent : backfillEventTs < stamp) :
    admits guard stamp = true := by
  rcases guarded with none | backfilled
  · rw [none]
    rfl
  · rw [backfilled, admits_some]
    exact Int.le_of_lt recent

theorem deliver_core_settles (reads : ProjectorReads) {plain doc : TransactionDoc}
    (unsettled : Unsettled plain doc) (recent : backfillEventTs < eventTs event)
    (kind : event.isCategorized = false) :
    deliver reads doc event = deliver reads plain event ∧
      CoreSettled (deliver reads plain event) := by
  have plainAccepts : admits plain.coreEventTs (eventTs event) = true := by
    rw [unsettled.plainGuard]
    rfl
  have accepts := admits_none_or unsettled.coreGuard recent
  have plainDelivered : deliver reads plain event =
      { plain with
        core := coreFields reads event
        coreEventTs := some (eventTs event)
        categorization :=
          if admits plain.categorizationEventTs (eventTs event) then
            some (categorizationFields reads event)
          else plain.categorization
        updatedAt := some (eventTs event) } := by
    simp [deliver, ownGuard, kind, plainAccepts]
  constructor
  · rw [plainDelivered]
    apply TransactionDoc.ext
    · simpa [deliver, ownGuard, kind, accepts] using unsettled.identity
    · simp [deliver, ownGuard, kind, accepts, unsettled.live, unsettled.plainLive]
    · simp [deliver, ownGuard, kind, accepts]
    · simp [deliver, ownGuard, kind, accepts]
    · by_cases shared : admits plain.categorizationEventTs (eventTs event) = true
      · simp [deliver, ownGuard, kind, accepts, unsettled.sameGuard, shared]
      · -- a refused core event meets the categorization of a live event
        have stamped : ∃ stamp, plain.categorizationEventTs = some stamp := by
          cases guard : plain.categorizationEventTs with
          | none =>
            rw [guard] at shared
            exact absurd rfl shared
          | some stamp => exact ⟨stamp, rfl⟩
        obtain ⟨stamp, guard⟩ := stamped
        have same := (unsettled.shared stamp guard).2
        simp [deliver, ownGuard, kind, accepts, unsettled.sameGuard, shared, same]
    · simpa [deliver, ownGuard, kind, accepts] using unsettled.sameGuard
    · simp [deliver, ownGuard, kind, accepts]
  · rw [plainDelivered]
    exact ⟨unsettled.plainLive, eventTs event, rfl, recent⟩

theorem deliver_categorized_unsettled (reads : ProjectorReads) {plain doc : TransactionDoc}
    (unsettled : Unsettled plain doc) (recent : backfillEventTs < eventTs event)
    (kind : event.isCategorized = true) :
    Unsettled (deliver reads plain event) (deliver reads doc event) := by
  by_cases accepted : admits plain.categorizationEventTs (eventTs event) = true
  · have plainDelivered : deliver reads plain event =
        { plain with
          categorization := some (categorizationFields reads event)
          categorizationEventTs := some (eventTs event)
          updatedAt := some (eventTs event) } := by
      simp [deliver, ownGuard, kind, accepted]
    have docDelivered : deliver reads doc event =
        { doc with
          categorization := some (categorizationFields reads event)
          categorizationEventTs := some (eventTs event)
          updatedAt := some (eventTs event) } := by
      simp [deliver, ownGuard, kind, unsettled.sameGuard, accepted]
    rw [plainDelivered, docDelivered]
    refine ⟨unsettled.identity, unsettled.plainLive, unsettled.live, unsettled.plainGuard,
      unsettled.coreGuard, rfl, ?_⟩
    intro _ found
    cases found
    exact ⟨recent, rfl⟩
  · have plainSame : deliver reads plain event = plain := by
      simp [deliver, ownGuard, kind, accepted]
    have docSame : deliver reads doc event = doc := by
      simp [deliver, ownGuard, kind, unsettled.sameGuard, accepted]
    rw [plainSame, docSame]
    exact unsettled

theorem deliver_keeps_settled (reads : ProjectorReads) {doc : TransactionDoc}
    (settled : CoreSettled doc) (recent : backfillEventTs < eventTs event) :
    CoreSettled (deliver reads doc event) := by
  refine ⟨deliver_live settled.live event, ?_⟩
  unfold deliver
  split
  · cases kind : event.isCategorized with
    | true => simpa using settled.guard
    | false => exact ⟨eventTs event, by simp, recent⟩
  · exact settled.guard

theorem live_keeps_absorbed (reads : ProjectorReads)
    (absorbed : Absorbed transactionId settled plain doc) (live : LiveEvent) :
    Absorbed transactionId (settled || !live.event.isCategorized)
      (projectEvent reads transactionId plain live.event)
      (projectEvent reads transactionId doc live.event) := by
  cases settled with
  | true =>
    obtain ⟨_, rfl, rfl, coreSettled⟩ := absorbed
    rw [project_event_live reads transactionId coreSettled.live]
    exact ⟨_, rfl, rfl, deliver_keeps_settled reads coreSettled live.recent⟩
  | false =>
    have unsettled : Unsettled _ _ := absorbed
    rw [project_event_either reads unsettled.plainLive, project_event_either reads unsettled.live]
    cases kind : live.event.isCategorized with
    | false =>
      obtain ⟨same, coreSettled⟩ := deliver_core_settles reads unsettled live.recent kind
      rw [same]
      exact ⟨_, rfl, rfl, coreSettled⟩
    | true => exact deliver_categorized_unsettled reads unsettled live.recent kind

/-- A backfilled row is refused by the core guard of a live event, and before
there is one it touches nothing that a live event has written. -/
theorem backfill_keeps_absorbed (absorbed : Absorbed transactionId settled plain doc)
    (row : BackfillRow) :
    Absorbed transactionId settled plain (backfillRow reads userId transactionId doc row) := by
  cases settled with
  | true =>
    obtain ⟨stored, rfl, rfl, coreSettled⟩ := absorbed
    have live : (docOrBody transactionId (some stored)).isDeleted = false := coreSettled.live
    rcases backfill_row_cases reads userId live row with same | ⟨params, stamp, applied⟩
    · rw [same]
      exact ⟨stored, rfl, rfl, coreSettled⟩
    · obtain ⟨_, guard, _⟩ := coreSettled.guard
      have refused : ¬ admits stored.coreEventTs params.eventTs = true := by
        rw [guard, stamp, admits_some]
        omega
      have unchanged : applyCore params stored = stored := by
        unfold applyCore
        rw [if_neg refused]
      rw [applied]
      refine ⟨stored, rfl, ?_, coreSettled⟩
      exact congrArg some unchanged
  | false =>
    have unsettled : Unsettled _ _ := absorbed
    rcases backfill_row_cases reads userId unsettled.live row with
      same | ⟨params, stamp, applied⟩
    · rw [same]
      exact unsettled
    · rw [applied]
      change Unsettled _ (applyCore params _)
      unfold applyCore
      split
      · refine ⟨unsettled.identity, unsettled.plainLive, unsettled.live, unsettled.plainGuard,
          Or.inr (congrArg some stamp), unsettled.sameGuard, ?_⟩
        intro newer found
        obtain ⟨recent, same⟩ := unsettled.shared newer found
        refine ⟨recent, ?_⟩
        have refused : ¬ admits (docOrBody transactionId doc).categorizationEventTs
            params.eventTs = true := by
          rw [unsettled.sameGuard, found, stamp, admits_some]
          omega
        rw [if_neg refused]
        exact same
      · exact unsettled

theorem writes_keep_absorbed (writes : List Write)
    (absorbed : Absorbed transactionId settled plain doc) :
    Absorbed transactionId (settled || writes.any Write.isCore)
      (runFrom (write reads transactionId) plain (withoutBackfill writes))
      (runFrom (write reads transactionId) doc writes) := by
  induction writes generalizing settled plain doc with
  | nil =>
    rw [List.any_nil, Bool.or_false]
    exact absorbed
  | cons first writes ih =>
    rw [List.any_cons, ← Bool.or_assoc]
    cases first with
    | live live => exact ih (live_keeps_absorbed live.reads absorbed live)
    | backfill userId row =>
      rw [show Write.isCore (.backfill userId row) = false from rfl, Bool.or_false]
      exact ih (backfill_keeps_absorbed reads userId absorbed row)

/-- What the core script leaves where only backfills have written. -/
def backfilled (transactionId : Int) (params : CoreParams) : TransactionDoc where
  transactionId := transactionId
  core := some params.core
  coreEventTs := some backfillEventTs
  categorization := some params.categorization
  updatedAt := some backfillEventTs

/-- The document of an id that no live event has reached. -/
def NeverLive (transactionId : Int) (doc : Option TransactionDoc) : Prop :=
  doc = none ∨ ∃ params, doc = some (backfilled transactionId params)

theorem apply_core_never_live (neverLive : NeverLive transactionId doc)
    (stamp : params.eventTs = backfillEventTs) :
    upsertCore transactionId params doc = some (backfilled transactionId params) := by
  rcases neverLive with rfl | ⟨earlier, rfl⟩
  · rw [upsert_core_live rfl fun _ => rfl]
    simp [applyCore, docOrBody, upsertBody, backfilled, admits, stamp]
  · have live : (docOrBody transactionId (some (backfilled transactionId earlier))).isDeleted =
        false := rfl
    rw [upsert_core_live live (by simp)]
    simp [applyCore, docOrBody, backfilled, stamp, admits]

/-- A row either writes the same document over any backfilled state, or leaves
every state as it is. -/
theorem backfill_row_never_live (firstNever : NeverLive transactionId first)
    (secondNever : NeverLive transactionId second) (row : BackfillRow) :
    (backfillRow reads userId transactionId first row = first ∧
        backfillRow reads userId transactionId second row = second) ∨
      (backfillRow reads userId transactionId first row =
          backfillRow reads userId transactionId second row ∧
        NeverLive transactionId (backfillRow reads userId transactionId first row)) := by
  unfold backfillRow
  cases reads.parseDate row.date with
  | none => exact Or.inl ⟨rfl, rfl⟩
  | some txDate =>
    have stamp : (backfillParams reads userId row txDate).eventTs = backfillEventTs := rfl
    apply Or.inr
    dsimp only
    rw [apply_core_never_live firstNever stamp, apply_core_never_live secondNever stamp]
    exact ⟨rfl, Or.inr ⟨_, rfl⟩⟩

def backfillWrites (rows : List (Int × BackfillRow)) : List Write :=
  rows.map fun row => .backfill row.1 row.2

theorem backfills_never_live (rows : List (Int × BackfillRow))
    (firstNever : NeverLive transactionId first) (secondNever : NeverLive transactionId second) :
    (runFrom (write reads transactionId) first (backfillWrites rows) = first ∧
        runFrom (write reads transactionId) second (backfillWrites rows) = second) ∨
      runFrom (write reads transactionId) first (backfillWrites rows) =
        runFrom (write reads transactionId) second (backfillWrites rows) := by
  induction rows generalizing first second with
  | nil => exact Or.inl ⟨rfl, rfl⟩
  | cons row rows ih =>
    have step : ∀ doc, runFrom (write reads transactionId) doc
          (backfillWrites (row :: rows)) =
        runFrom (write reads transactionId)
          (backfillRow reads row.1 transactionId doc row.2) (backfillWrites rows) :=
      fun _ => rfl
    rw [step, step]
    rcases backfill_row_never_live reads row.1 firstNever secondNever row.2 with
      ⟨firstSame, secondSame⟩ | ⟨same, _⟩
    · rw [firstSame, secondSame]
      exact ih firstNever secondNever
    · apply Or.inr
      rw [same]

theorem backfills_keep_never_live (rows : List (Int × BackfillRow))
    (neverLive : NeverLive transactionId doc) :
    NeverLive transactionId
      (runFrom (write reads transactionId) doc (backfillWrites rows)) := by
  induction rows generalizing doc with
  | nil => exact neverLive
  | cons row rows ih =>
    apply ih
    rcases backfill_row_never_live reads row.1 neverLive neverLive row.2 with
      ⟨same, _⟩ | ⟨_, kept⟩
    · change NeverLive transactionId (backfillRow reads row.1 transactionId doc row.2)
      rw [same]
      exact neverLive
    · exact kept

theorem backfills_idempotent (transactionId : Int) (rows : List (Int × BackfillRow)) :
    written reads transactionId (backfillWrites rows ++ backfillWrites rows) =
      written reads transactionId (backfillWrites rows) := by
  have neverLive : NeverLive transactionId none := Or.inl rfl
  have once := backfills_keep_never_live reads rows neverLive
  unfold written
  rw [run_from_append]
  rcases backfills_never_live reads rows once neverLive with ⟨same, _⟩ | same
  · exact same
  · exact same

theorem backfill_transactions_writes (transactionId : Int) (pages : List Page) :
    ∃ rows, ∀ doc, backfillTransactions reads userId transactionId doc pages =
      runFrom (write reads transactionId) doc (backfillWrites rows) := by
  refine ⟨(((pagedRows ∅ pages).takeWhile fun row =>
    (reads.parseDate row.date).isSome).filter fun row =>
      row.id = transactionId).map fun row => (userId, row), ?_⟩
  intro _
  unfold backfillTransactions runFrom backfillWrites
  rw [List.map_map, List.foldl_map]
  rfl

/-- Backfills interleaved in any way into live events with a core event among
them leave no trace, and a backfill repeated with nothing live changes nothing. -/
theorem backfill_is_absorbed (reads : BackfillReads)
    (transactionId : Int) :
    (∀ writes : List Write, (∃ first ∈ writes, first.isCore = true) →
        written reads transactionId writes = written reads transactionId (withoutBackfill writes)) ∧
      (∀ rows : List (Int × BackfillRow),
        written reads transactionId (backfillWrites rows ++ backfillWrites rows) =
          written reads transactionId (backfillWrites rows)) ∧
      ∀ (userId : Int) (pages : List Page), backfillTransactions reads userId transactionId
            (backfillTransactions reads userId transactionId none pages) pages =
          backfillTransactions reads userId transactionId none pages := by
  refine ⟨?_, backfills_idempotent reads transactionId, ?_⟩
  · rintro writes ⟨first, member, core⟩
    have absorbed := writes_keep_absorbed reads writes (unsettled_start transactionId)
    have settled : writes.any Write.isCore = true := List.any_eq_true.mpr ⟨first, member, core⟩
    rw [settled, Bool.or_true] at absorbed
    obtain ⟨_, plain, doc, _⟩ := absorbed
    exact doc.trans plain.symm
  · intro userId pages
    obtain ⟨rows, same⟩ := backfill_transactions_writes reads userId
      transactionId pages
    rw [same, same, ← run_from_append]
    exact backfills_idempotent reads transactionId rows

def snapshotReads : BackfillReads where
  amount := fun _ => 7
  lower := id
  parseDate := fun text => if text = "" then none else some purchaseDate
  categoryNames := fun _ => none
  subcategoryNames := fun _ => none

def olderSnapshot : BackfillRow where
  id := 1
  accountId := 4
  amount := "7"
  date := "2026-05-20"
  categoryId := some 9
  categoryName := some "Mad"

def earlierLive : LiveEvent :=
  ⟨plainReads, .categorized earlierCategorization, by decide +kernel⟩

def correctedLive : LiveEvent := ⟨plainReads, .updated correctedCore, by decide +kernel⟩

/-- A snapshot before, between and after the categorization and the correction. -/
def interleavedWrites : List Write :=
  [.backfill 2 olderSnapshot, .live earlierLive, .backfill 2 olderSnapshot, .live correctedLive,
    .backfill 2 olderSnapshot]

theorem interleaved_writes_absorbed : written snapshotReads 1 interleavedWrites =
      written snapshotReads 1 [.live earlierLive, .live correctedLive] := by
  apply (backfill_is_absorbed snapshotReads 1).1 interleavedWrites
  exact ⟨.live correctedLive, by simp [interleavedWrites], rfl⟩

end FinanceTracker.Analytics.Backfill
