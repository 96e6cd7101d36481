import FinanceTracker.Library.Binary64
import FinanceTracker.Library.Runs
import FinanceTracker.Shared.TransactionEvents

/-!
# The transaction projection of analytics-service

One Elasticsearch document per transaction, written by scripted upserts. The
seven core fields are written together or not at all, and so are the six
categorization fields; each group is an option that is `none` while its fields
are missing from the document. The vector fields belong to another writer and
are left out.
-/

namespace FinanceTracker.Analytics.TransactionStore

open Library Binary64 Calendar Runs Shared.TransactionEvents

structure CoreFields where
  accountId : Int
  userId : Int
  amount : Rat
  amountAbs : Rat
  transactionType : String
  txDate : Date
  description : String
  deriving DecidableEq

structure CategorizationFields where
  categoryId : Option Int
  categoryName : Option String
  subcategoryId : Option Int
  subcategoryName : Option String
  categorizationTier : Option String
  categorizationConfidence : Option String
  deriving DecidableEq

@[ext]
structure TransactionDoc where
  transactionId : Int
  isDeleted : Bool := false
  core : Option CoreFields := none
  coreEventTs : Option Int := none
  categorization : Option CategorizationFields := none
  categorizationEventTs : Option Int := none
  updatedAt : Option Int := none
  deriving DecidableEq

structure CoreParams where
  core : CoreFields
  categorization : CategorizationFields
  eventTs : Int
  deriving DecidableEq

structure CategorizationParams where
  categorization : CategorizationFields
  eventTs : Int
  deriving DecidableEq

/-- `guard == null || params.event_ts >= guard`. -/
def admits (guard : Option Int) (eventTs : Int) : Bool :=
  guard.all fun stored => stored ≤ eventTs

def TransactionDoc.writeCore (doc : TransactionDoc) (params : CoreParams) : TransactionDoc :=
  { doc with
    core := some params.core
    coreEventTs := some params.eventTs
    updatedAt := some params.eventTs }

def TransactionDoc.writeCategorization (doc : TransactionDoc) (fields : CategorizationFields) :
    TransactionDoc :=
  { doc with categorization := some fields }

def TransactionDoc.stampCategorization (doc : TransactionDoc) (eventTs : Int) : TransactionDoc :=
  { doc with
    categorizationEventTs := some eventTs
    updatedAt := some eventTs }

/-- `_CORE_SCRIPT`; `none` is `ctx.op = 'noop'`. It reads the categorization
guard but does not set it. -/
def coreScript (params : CoreParams) (doc : TransactionDoc) : Option TransactionDoc :=
  if doc.isDeleted then none
  else if admits doc.coreEventTs params.eventTs then
    let written := doc.writeCore params
    if admits doc.categorizationEventTs params.eventTs then
      some (written.writeCategorization params.categorization)
    else some written
  else none

def categorizationScript (params : CategorizationParams) (doc : TransactionDoc) :
    Option TransactionDoc :=
  if doc.isDeleted then none
  else if admits doc.categorizationEventTs params.eventTs then
    some ((doc.writeCategorization params.categorization).stampCategorization params.eventTs)
  else none

/-- An update with `scripted_upsert`: the script runs on the stored document or,
when there is none, on the upsert body. -/
def scriptedUpsert (upsert : TransactionDoc) (script : TransactionDoc → Option TransactionDoc) :
    Option TransactionDoc → Option TransactionDoc
  | none => script upsert
  | some doc => some ((script doc).getD doc)

def upsertBody (transactionId : Int) : TransactionDoc := { transactionId := transactionId }

def upsertCore (transactionId : Int) (params : CoreParams) :
    Option TransactionDoc → Option TransactionDoc :=
  scriptedUpsert (upsertBody transactionId) (coreScript params)

def applyCategorization (transactionId : Int) (params : CategorizationParams) :
    Option TransactionDoc → Option TransactionDoc :=
  scriptedUpsert (upsertBody transactionId) (categorizationScript params)

def deleteScript (eventTs : Int) (doc : TransactionDoc) : TransactionDoc :=
  { doc with isDeleted := true, updatedAt := some eventTs }

def markDeleted (transactionId eventTs : Int) (stored : Option TransactionDoc) :
    Option TransactionDoc :=
  some (deleteScript eventTs (stored.getD (upsertBody transactionId)))

/-- `int(event.timestamp.timestamp() * 1000)`: a correctly rounded division and
a correctly rounded product, cut towards zero. -/
def eventTsMillis (timestamp : Int) : Int :=
  truncate (nearestDouble (nearestDouble ((timestamp : ℚ) / 1000000) * 1000))

/-- What the projector reads besides the event: `float(Decimal(raw))`, `lower()`
and the name lookup in the taxonomy projection. -/
structure ProjectorReads where
  amount : String → Rat
  lower : String → String
  getSubcategoryName : Int → Option String

def coreParams (reads : ProjectorReads) (event : CoreEvent) : CoreParams where
  core :=
    { accountId := event.accountId
      userId := event.userId
      amount := reads.amount event.amount
      amountAbs := |reads.amount event.amount|
      transactionType := reads.lower event.transactionType
      txDate := event.txDate
      description := event.description }
  categorization :=
    { categoryId := event.categoryId
      categoryName := orNone event.category
      subcategoryId := event.subcategoryId
      subcategoryName := event.subcategoryId.bind reads.getSubcategoryName
      categorizationTier := event.categorizationTier
      categorizationConfidence := event.categorizationConfidence }
  eventTs := eventTsMillis event.timestamp

def categorizationParams (event : CategorizedEvent) : CategorizationParams where
  categorization :=
    { categoryId := some event.categoryId
      categoryName := orNone event.categoryName
      subcategoryId := some event.subcategoryId
      subcategoryName := orNone event.subcategoryName
      categorizationTier := orNone event.tier
      categorizationConfidence := orNone event.confidence }
  eventTs := eventTsMillis event.timestamp

def handleCreatedOrUpdated (reads : ProjectorReads) (transactionId : Int) (event : CoreEvent) :
    Option TransactionDoc → Option TransactionDoc :=
  upsertCore transactionId (coreParams reads event)

def handleCategorized (transactionId : Int) (event : CategorizedEvent) :
    Option TransactionDoc → Option TransactionDoc :=
  applyCategorization transactionId (categorizationParams event)

def handleDeleted (transactionId timestamp : Int) : Option TransactionDoc → Option TransactionDoc :=
  markDeleted transactionId (eventTsMillis timestamp)

def projectEvent (reads : ProjectorReads) (transactionId : Int) (doc : Option TransactionDoc) :
    TransactionEvent → Option TransactionDoc
  | .created event => handleCreatedOrUpdated reads transactionId event doc
  | .updated event => handleCreatedOrUpdated reads transactionId event doc
  | .categorized event => handleCategorized transactionId event doc

/-- The document after the deliveries, starting with no document. -/
def project (reads : ProjectorReads) (transactionId : Int) (deliveries : List TransactionEvent) :
    Option TransactionDoc :=
  runFrom (projectEvent reads transactionId) none deliveries

def eventTs (event : TransactionEvent) : Int := eventTsMillis event.timestamp

def categorizationFields (reads : ProjectorReads) : TransactionEvent → CategorizationFields
  | .created event => (coreParams reads event).categorization
  | .updated event => (coreParams reads event).categorization
  | .categorized event => (categorizationParams event).categorization

def coreFields (reads : ProjectorReads) : TransactionEvent → Option CoreFields
  | .created event => some (coreParams reads event).core
  | .updated event => some (coreParams reads event).core
  | .categorized _ => none

theorem event_ts_millis_mono {earlier later : Int} (ordered : earlier ≤ later) :
    eventTsMillis earlier ≤ eventTsMillis later := by
  have cast : (earlier : ℚ) ≤ later := by exact_mod_cast ordered
  apply truncate_mono
  apply nearest_double_mono
  apply mul_le_mul_of_nonneg_right _ (by norm_num)
  apply nearest_double_mono
  exact div_le_div_of_nonneg_right cast (by norm_num)

theorem event_ts_mono {earlier later : TransactionEvent}
    (ordered : earlier.timestamp ≤ later.timestamp) : eventTs earlier ≤ eventTs later :=
  event_ts_millis_mono ordered

def ownGuard (doc : TransactionDoc) (event : TransactionEvent) : Option Int :=
  if event.isCategorized then doc.categorizationEventTs else doc.coreEventTs

/-- One delivery to a live document: refused when the own guard is newer;
otherwise the own group and its guard are written, and the six shared fields
unless the event is a core event behind the categorization guard. -/
def deliver (reads : ProjectorReads) (doc : TransactionDoc) (event : TransactionEvent) :
    TransactionDoc :=
  if admits (ownGuard doc event) (eventTs event) then
    { doc with
      core := if event.isCategorized then doc.core else coreFields reads event
      coreEventTs := if event.isCategorized then doc.coreEventTs else some (eventTs event)
      categorization :=
        if admits doc.categorizationEventTs (eventTs event) then
          some (categorizationFields reads event)
        else doc.categorization
      categorizationEventTs :=
        if event.isCategorized then some (eventTs event) else doc.categorizationEventTs
      updatedAt := some (eventTs event) }
  else doc

variable {doc : TransactionDoc} (reads : ProjectorReads) (transactionId : Int)

theorem project_core_live (live : doc.isDeleted = false) (core : CoreEvent)
    {event : TransactionEvent} (kind : event.isCategorized = false)
    (stamp : (coreParams reads core).eventTs = eventTs event)
    (group : coreFields reads event = some (coreParams reads core).core)
    (fields : categorizationFields reads event = (coreParams reads core).categorization) :
    handleCreatedOrUpdated reads transactionId core (some doc) =
      some (deliver reads doc event) := by
  have own : ownGuard doc event = doc.coreEventTs := by simp [ownGuard, kind]
  unfold handleCreatedOrUpdated upsertCore scriptedUpsert coreScript deliver
  by_cases accepted : admits doc.coreEventTs (eventTs event) = true
  · by_cases shared : admits doc.categorizationEventTs (eventTs event) = true
    · simp [own, stamp, live, kind, group, fields, accepted, shared, TransactionDoc.writeCore,
        TransactionDoc.writeCategorization]
    · simp [own, stamp, live, kind, group, accepted, shared, TransactionDoc.writeCore]
  · simp [own, stamp, live, accepted]

theorem project_categorized_live (live : doc.isDeleted = false) (event : CategorizedEvent) :
    handleCategorized transactionId event (some doc) =
      some (deliver reads doc (.categorized event)) := by
  have own : ownGuard doc (.categorized event) = doc.categorizationEventTs := rfl
  have stamp : (categorizationParams event).eventTs = eventTs (.categorized event) := rfl
  have kind : (TransactionEvent.categorized event).isCategorized = true := rfl
  unfold handleCategorized applyCategorization scriptedUpsert categorizationScript deliver
  by_cases accepted : admits doc.categorizationEventTs (eventTs (.categorized event)) = true
  · simp [own, stamp, live, kind, accepted, categorizationFields,
      TransactionDoc.writeCategorization, TransactionDoc.stampCategorization]
  · simp [own, stamp, live, accepted]

theorem project_event_live (live : doc.isDeleted = false) (event : TransactionEvent) :
    projectEvent reads transactionId (some doc) event = some (deliver reads doc event) := by
  cases event with
  | created core | updated core => exact project_core_live reads transactionId live core rfl rfl rfl rfl
  | categorized event => exact project_categorized_live reads transactionId live event

theorem deliver_live {reads : ProjectorReads} (live : doc.isDeleted = false)
    (event : TransactionEvent) :
    (deliver reads doc event).isDeleted = false := by
  unfold deliver
  by_cases accepted : admits (ownGuard doc event) (eventTs event) = true
  · rw [if_pos accepted]
    exact live
  · rw [if_neg accepted]
    exact live

theorem project_from_live (deliveries : List TransactionEvent) (live : doc.isDeleted = false) :
    runFrom (projectEvent reads transactionId) (some doc) deliveries =
      some (runFrom (deliver reads) doc deliveries) := by
  induction deliveries generalizing doc with
  | nil => rfl
  | cons event deliveries ih =>
    rw [run_from_cons, run_from_cons, project_event_live reads transactionId live]
    exact ih (deliver_live live event)

theorem project_first (event : TransactionEvent) : projectEvent reads transactionId none event =
      projectEvent reads transactionId (some (upsertBody transactionId)) event := by
  cases event <;> rfl

theorem project_eq {deliveries : List TransactionEvent} (nonempty : deliveries ≠ []) :
    project reads transactionId deliveries =
      some (runFrom (deliver reads) (upsertBody transactionId) deliveries) := by
  cases deliveries with
  | nil => contradiction
  | cons event deliveries =>
    unfold project
    rw [run_from_cons, project_first, ← run_from_cons]
    exact project_from_live reads transactionId (event :: deliveries) rfl

end FinanceTracker.Analytics.TransactionStore
