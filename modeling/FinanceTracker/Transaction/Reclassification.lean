import FinanceTracker.Reclassification.Writers
import FinanceTracker.Transaction.Domain

/-!
# The reclassification of transaction-service

`app/application/reclassification.py`: the scanner that proposes targets for the rows at
legacy categories, and the writer of an execution manifest. The categorizer that gives
evidence and the resolver of the taxonomy are ports. An object that is added to the
session is in its table at once, where the identities are unique.
-/

namespace FinanceTracker.Transaction.Reclassification

open Library.Binary64 (nearestDouble)
open Library.Calendar (Date)
open Library.Columns (fitsInteger)
open Library.IntText (intText)
open Library ColumnTypes Counters KeyedRows SortedBy Reclassification.Contracts
  Reclassification.Writers Domain

structure CategoryModel where
  id : ℤ
  name : String
  type : String
  publicId : Option String
  semanticKey : Option String
  lifecycle : Option String
  deriving DecidableEq

structure SubCategoryModel where
  id : ℤ
  name : String
  categoryId : ℤ
  publicId : Option String
  semanticKey : Option String
  lifecycle : Option String
  deriving DecidableEq

structure PlannedTransaction where
  id : IntegerColumn
  categoryId : Option ℤ
  amount : ℤ

structure TransactionUpdatedEvent where
  transactionId : ℤ
  accountId : ℤ
  userId : ℤ
  amount : String
  previousAmount : String
  transactionType : String
  txDate : Date
  categoryId : Option ℤ
  category : String
  previousCategory : String
  description : String
  accountName : String
  subcategoryId : Option ℤ
  categorizationTier : Option String
  categorizationConfidence : Option String
  deriving DecidableEq

/-- `updatedEvents` are those that the writer adds to the outbox; the last ids are what
the scanner reads of the outbox and of the inbox. -/
structure Database where
  categories : List CategoryModel
  subcategories : List SubCategoryModel
  transactions : List Transaction
  planned : List PlannedTransaction := []
  updatedEvents : List TransactionUpdatedEvent := []
  lastOutboxId : Option String := none
  lastInboxId : Option ℤ := none

/-- The primary key is an integer column. -/
structure StoredDatabase extends Database where
  distinct : DistinctKeys Transaction.id transactions
  ids : ∀ row ∈ transactions, fitsInteger row.id = true

structure ResolvedTaxonomyTarget where
  subcategoryId : ℤ
  subcategoryName : String
  subcategoryKey : String
  subcategoryPublicId : String
  categoryId : ℤ
  categoryName : String
  categoryType : String
  categoryKey : String
  categoryPublicId : String

/-- A port that raises fails the run. -/
abbrev TaxonomyResolver := String → String → Except WriterError (Option ResolvedTaxonomyTarget)

structure ApiCategory where
  id : ℤ
  name : String
  type : String
  semanticKey : Option String
  publicId : Option String
  lifecycle : Option String

structure ApiSubCategory where
  id : ℤ
  categoryId : ℤ
  name : String
  semanticKey : Option String
  publicId : Option String
  lifecycle : Option String

structure TaxonomyAnswer where
  categories : List ApiCategory
  subcategories : List ApiSubCategory

/-- `str` of a text or None. -/
def strOf (given : Option String) : String := given.getD "None"

def resolvedTarget (item : ApiSubCategory) (parent : ApiCategory) : ResolvedTaxonomyTarget where
  subcategoryId := item.id
  subcategoryName := item.name
  subcategoryKey := strOf item.semanticKey
  subcategoryPublicId := strOf item.publicId
  categoryId := parent.id
  categoryName := parent.name
  categoryType := parent.type
  categoryKey := strOf parent.semanticKey
  categoryPublicId := strOf parent.publicId

/-- none for a subcategory that is not active or whose parent is not. A missing parent raises. -/
def targetOfItem (categories : List ApiCategory) (item : ApiSubCategory) :
    Except WriterError (Option ResolvedTaxonomyTarget) :=
  match lookup ApiCategory.id categories.reverse item.categoryId with
  | none => .error .portFailed
  | some parent =>
    .ok (if item.lifecycle = some "active" ∧ parent.lifecycle = some "active"
      then some (resolvedTarget item parent) else none)

/-- `_TaxonomyResolver.resolve` on the answers of the API, which are none where a request fails.
A later item of an answer replaces an earlier one. -/
def taxonomyResolver (answer : Option TaxonomyAnswer) : TaxonomyResolver := fun semanticKey publicId =>
  match answer with
  | none => .error .portFailed
  | some answer => do
    let targets ← answer.subcategories.mapM (targetOfItem answer.categories)
    .ok ((targets.reduceOption.reverse).find? fun target =>
      target.subcategoryKey = semanticKey && target.subcategoryPublicId = publicId)

def ResolvedTaxonomyTarget.category (resolved : ResolvedTaxonomyTarget) : CategoryModel where
  id := resolved.categoryId
  name := resolved.categoryName
  type := resolved.categoryType
  publicId := some resolved.categoryPublicId
  semanticKey := some resolved.categoryKey
  lifecycle := some "active"

def ResolvedTaxonomyTarget.subcategory (resolved : ResolvedTaxonomyTarget) : SubCategoryModel where
  id := resolved.subcategoryId
  name := resolved.subcategoryName
  categoryId := resolved.categoryId
  publicId := some resolved.subcategoryPublicId
  semanticKey := some resolved.subcategoryKey
  lifecycle := some "active"

def getCategory (db : Database) (id : ℤ) : Option CategoryModel :=
  lookup CategoryModel.id db.categories id

def getSubcategory (db : Database) (id : ℤ) : Option SubCategoryModel :=
  lookup SubCategoryModel.id db.subcategories id

def hasIdentity (targetKey targetPublicId : String) (row : SubCategoryModel) : Bool :=
  row.semanticKey = some targetKey && row.publicId = some targetPublicId &&
    row.lifecycle = some "active"

def addCategory (db : Database) (row : CategoryModel) : Except WriterError Database :=
  if db.categories.any fun other =>
    other.publicId = row.publicId || other.semanticKey = row.semanticKey ||
      (other.lifecycle = some "active" && other.name = row.name)
  then .error .integrity
  else .ok { db with categories := db.categories ++ [row] }

def addSubcategory (db : Database) (row : SubCategoryModel) : Except WriterError Database :=
  if db.subcategories.any fun other =>
    other.publicId = row.publicId || other.semanticKey = row.semanticKey
  then .error .integrity
  else .ok { db with subcategories := db.subcategories ++ [row] }

/-- The parent of a resolved target; a missing one is added where the run executes. -/
def repairCategory (execute : Bool) (db : Database) (resolved : ResolvedTaxonomyTarget) :
    Except WriterError Database :=
  match getCategory db resolved.categoryId with
  | none => if execute then addCategory db resolved.category else .ok db
  | some parent =>
    if parent.publicId = some resolved.categoryPublicId ∧
      parent.semanticKey = some resolved.categoryKey then .ok db
    else .error (.categoryConflict resolved.categoryKey)

/-- The resolved target; a missing one is added where the run executes. -/
def repairSubcategory (execute : Bool) (db : Database) (resolved : ResolvedTaxonomyTarget) :
    Except WriterError (Database × SubCategoryModel) :=
  match getSubcategory db resolved.subcategoryId with
  | none =>
    if execute then do
      let repaired ← addSubcategory db resolved.subcategory
      .ok (repaired, resolved.subcategory)
    else .ok (db, resolved.subcategory)
  | some target =>
    if target.publicId = some resolved.subcategoryPublicId ∧
      target.semanticKey = some resolved.subcategoryKey ∧
      target.categoryId = resolved.categoryId then .ok (db, target)
    else .error (.subcategoryConflict resolved.subcategoryKey)

def resolveTarget (execute : Bool) (resolver : Option TaxonomyResolver) (db : Database)
    (row : ExecutionRow) : Except WriterError (Database × SubCategoryModel) := do
  let target ← scalarOneOrNone (db.subcategories.filter (hasIdentity row.targetKey row.targetPublicId))
  match target, resolver with
  | some target, _ => .ok (db, target)
  | none, none => .error (.targetNotFound row.targetKey)
  | none, some resolve => do
    match ← resolve row.targetKey row.targetPublicId with
    | none => .error (.targetNotFound row.targetKey)
    | some resolved => do
      let repaired ← repairCategory execute db resolved
      repairSubcategory execute repaired resolved

def activeParent (db : Database) (target : SubCategoryModel) (row : ExecutionRow) :
    Except WriterError CategoryModel :=
  match getCategory db target.categoryId with
  | none => .error (.parentNotFound row.targetKey)
  | some parent =>
    if parent.lifecycle = some "active" then .ok parent else .error (.parentNotFound row.targetKey)

def updatedEvent (model : Transaction) (parent : CategoryModel) (target : SubCategoryModel) :
    TransactionUpdatedEvent where
  transactionId := model.id
  accountId := model.accountId
  userId := model.userId
  amount := centsText model.amount
  previousAmount := centsText model.amount
  transactionType := model.transactionType.value
  txDate := model.date
  categoryId := some parent.id
  category := parent.name
  previousCategory := model.categoryName.getD ""
  description := model.description.getD ""
  accountName := model.accountName
  subcategoryId := some target.id
  categorizationTier := model.categorizationTier
  categorizationConfidence := model.categorizationConfidence

def assignTarget (db : Database) (model : Transaction) (parent : CategoryModel)
    (target : SubCategoryModel) : Database :=
  { db with
    transactions := replace Transaction.id db.transactions model.id fun row =>
      { row with
        categoryId := some parent.id
        categoryName := some parent.name
        subcategoryId := some target.id
        subcategoryName := some target.name }
    updatedEvents := db.updatedEvents ++ [updatedEvent model parent target] }

def getTransaction (db : Database) (id : ℤ) : Option Transaction :=
  db.transactions.find? fun row => (row.id : ℤ) = id

/-- What the row does to the transaction that it names. -/
def applyTo (execute : Bool) (db : Database) (row : ExecutionRow) (parent : CategoryModel)
    (target : SubCategoryModel) : Option Transaction → Database × Outcome
  | none => (db, .skippedMissing)
  | some model =>
    if model.deleted then (db, .skippedMissing)
    else if model.categoryId = some parent.id ∧ model.subcategoryId = some target.id then
      (db, .alreadyApplied)
    else if isProtectedTier (model.categorizationTier.getD "") then (db, .skippedProtected)
    else if ¬(model.categoryId = row.legacyCategoryId ∧ model.subcategoryId = row.legacySubcategoryId)
    then (db, .skippedChanged)
    else if execute then (assignTarget db model parent target, written execute)
    else (db, written execute)

def applyRow (execute : Bool) (resolver : Option TaxonomyResolver) (db : Database)
    (row : ExecutionRow) : Except WriterError (Database × Outcome) :=
  if row.sourceKind ≠ "transaction" then .error (.unsupportedSourceKind row.sourceKind)
  else do
    let (db, target) ← resolveTarget execute resolver db row
    let parent ← activeParent db target row
    let id ← sourceIdOf row
    .ok (applyTo execute db row parent target (getTransaction db id))

def applyReclassification (execute : Bool) (resolver : Option TaxonomyResolver) (db : Database)
    (manifest : ExecutionManifest) : Except WriterError (Database × Counter String ℕ) :=
  applyManifest (applyRow execute resolver) db manifest

structure CategorizationResult where
  subcategoryId : ℤ
  tier : String
  confidence : String
  targetKey : Option String

structure EvidenceInput where
  description : String
  amount : ℚ
  direction : String

/-- The answers to the numbered calls of `categorize_batch`; none where one raises. -/
abbrev EvidenceCategorizer := ℕ → List EvidenceInput → Option (List (Option CategorizationResult))

structure EvidenceResolution where
  targetKey : Option String
  reasonCode : String
  evidence : List String

def evidenceBatchSize : ℕ := 500

def directionOf : TransactionType → String
  | .income => "incoming"
  | .expense => "outgoing"

/-- `id or -1`. -/
def orMinusOne (id : Option ℤ) : ℤ := if id.getD 0 = 0 then -1 else id.getD 0

/-- Here the tier is compared as it is. -/
def needsEvidence (mapping : MappingRegistry) (model : Transaction) : Bool :=
  (model.subcategoryId.bind mapping.subcategory).any (fun entry => entry.disposition = .evidenceProposal) &&
    !(model.categorizationTier.any fun tier => tier ∈ ["manual", "user", "gold"])

def evidenceInput (model : Transaction) : EvidenceInput where
  description := model.description.getD ""
  amount := nearestDouble (model.amount / 100)
  direction := directionOf model.transactionType

def batchResults (categorizer : EvidenceCategorizer) (inputs : List EvidenceInput) :
    Option (List (Option CategorizationResult)) :=
  ((List.range ((inputs.length + evidenceBatchSize - 1) / evidenceBatchSize)).mapM fun index =>
    categorizer index ((inputs.drop (index * evidenceBatchSize)).take evidenceBatchSize)).map List.flatten

def resolution (mapping : MappingRegistry) (model : Transaction)
    (result : Option CategorizationResult) : EvidenceResolution :=
  let direction := "direction:" ++ directionOf model.transactionType
  match result with
  | none => ⟨none, "evidence_service_unavailable", [direction, "categorization:no_result"]⟩
  | some result =>
    let allowed := ((mapping.subcategory (orMinusOne model.subcategoryId)).map
      MappingEntry.targets).getD []
    let matched := result.targetKey.any (fun key => key ∈ allowed.map MappingTarget.key) &&
      result.tier = "rule"
    { targetKey := if matched then result.targetKey else none
      reasonCode := if matched then "constrained_rule_match" else "structured_evidence_conflicting"
      evidence :=
        [direction,
          "rule_target:" ++ (match result.targetKey with
            | none | some "" => "unknown"
            | some key => key),
          "tier:" ++ result.tier, "confidence:" ++ result.confidence] }

/-- The resolutions by transaction; none where the call raises. -/
def resolveEvidence (transactions : List Transaction) (mapping : MappingRegistry)
    (categorizer : Option EvidenceCategorizer) : Option (List (ℕ × EvidenceResolution)) :=
  let candidates := transactions.filter (needsEvidence mapping)
  match candidates, categorizer with
  | [], _ | _, none => some []
  | _, some categorizer =>
    (batchResults categorizer (candidates.map evidenceInput)).bind fun results =>
      if results.length ≠ candidates.length then none
      else
        some ((candidates.zip results).map fun pair => (pair.1.id, resolution mapping pair.1 pair.2))

def isLegacyLeaf (subcategoryId : Option ℤ) : Bool := subcategoryId.any fun id => 1 ≤ id && id ≤ 41

def isLegacyParent (categoryId subcategoryId : Option ℤ) : Bool :=
  subcategoryId.isNone && categoryId.any fun id => 1 ≤ id && id ≤ 10

def proposalOf (mapping : MappingRegistry) (categoryId subcategoryId : Option ℤ) :
    Option MappingEntry :=
  match subcategoryId with
  | some id => mapping.subcategory id
  | none => mapping.category (orMinusOne categoryId)

def evidenceTarget (proposal : MappingEntry) (evidence : Option EvidenceResolution) :
    Option MappingTarget :=
  (evidence.bind EvidenceResolution.targetKey).bind fun key =>
    proposal.targets.find? fun target => target.key = key

def isProtected (categorizationTier : Option String) : Bool := categorizationTier.any isProtectedTier

def dispositionOf (categorizationTier : Option String) (proposal : Option MappingEntry)
    (evidence : Option EvidenceResolution) : Disposition × String :=
  if isProtected categorizationTier then (.protectedRow, "manual_transaction_protected")
  else
    match proposal with
    | none => (.unresolved, "missing_or_target_taxonomy_reference")
    | some entry =>
      if entry.disposition = .evidenceProposal then
        match evidence with
        | none => (.unresolved, "structured_evidence_missing_or_conflicting")
        | some resolution =>
          if (evidenceTarget entry evidence).isSome then (.evidenceProposal, resolution.reasonCode)
          else (.unresolved, resolution.reasonCode)
      else (entry.disposition, entry.reasonCode)

def targetOf (disposition : Disposition) (proposal : Option MappingEntry)
    (evidence : Option EvidenceResolution) : Option MappingTarget :=
  proposal.bind fun entry =>
    if entry.targets.length = 1 ∧ disposition = .safeOneToOne then entry.targets.head?
    else if disposition = .evidenceProposal then evidenceTarget entry evidence
    else none

def typeChangingTargets : List String := ["investment", "cash_withdrawal", "own_accounts_savings"]

def proposalRow (sourceKind : String) (sourceId : ℤ) (categoryId subcategoryId : Option ℤ)
    (amount : ℤ) (categorizationTier : Option String) (mapping : MappingRegistry)
    (evidence : Option EvidenceResolution) : Option ReportRow :=
  if isLegacyLeaf subcategoryId || isLegacyParent categoryId subcategoryId then
    let proposal := proposalOf mapping categoryId subcategoryId
    let (disposition, reason) := dispositionOf categorizationTier proposal evidence
    let target := targetOf disposition proposal evidence
    some
      { sourceKind
        sourceId := intText sourceId
        legacyCategoryId := categoryId
        legacySubcategoryId := subcategoryId
        disposition
        reasonCode := reason
        targetKey := target.map MappingTarget.key
        targetPublicId := target.map MappingTarget.publicId
        amount := some (centsText amount)
        changesCategoryType := target.any fun target => target.key ∈ typeChangingTargets
        evidence := (evidence.map EvidenceResolution.evidence).getD [] }
  else none

def transactionRow (mapping : MappingRegistry) (evidence : List (ℕ × EvidenceResolution))
    (model : Transaction) : Option ReportRow :=
  proposalRow "transaction" model.id model.categoryId model.subcategoryId model.amount
    model.categorizationTier mapping ((lookup Prod.fst evidence model.id).map Prod.snd)

def plannedRow (mapping : MappingRegistry) (model : PlannedTransaction) : Option ReportRow :=
  proposalRow "planned_transaction" model.id.val model.categoryId none model.amount (some "user") mapping
    none

def idText : Option ℤ → String
  | none => "None"
  | some id => intText id

/-- `dict(sorted(Counter(texts).items()))`. -/
def histogram (texts : List String) : Counter String ℕ := sortedBy Prod.fst (tally texts)

def liveTransactions (db : Database) : List Transaction :=
  sortedBy Transaction.id (db.transactions.filter fun row => !row.deleted)

def plannedTransactions (db : Database) : List PlannedTransaction :=
  sortedBy (fun row => row.id.val) db.planned

def snapshotOf (db : Database) (capturedAt : String) : SnapshotBoundary where
  capturedAt := capturedAt
  tableCounts :=
    [("transactions", (liveTransactions db).length),
      ("planned_transactions", (plannedTransactions db).length)]
  referenceHistograms :=
    [("category_references",
        histogram ((liveTransactions db).map (fun row => idText row.categoryId) ++
          (plannedTransactions db).map fun row => idText row.categoryId)),
      ("subcategory_references",
        histogram ((liveTransactions db).filterMap fun row => row.subcategoryId.map intText))]
  outboxMaxId := db.lastOutboxId
  inboxMaxId := db.lastInboxId

/-- none where the scan raises. -/
def scanTransactions (db : Database) (runId capturedAt : String) (mapping : MappingRegistry)
    (categorizer : Option EvidenceCategorizer) : Option ServiceReport := do
  let evidence ← resolveEvidence (liveTransactions db) mapping categorizer
  let mappingSha256 ← mapping.sha256
  some
    { runId
      sourceService := "transaction-service"
      mappingVersion := mapping.mappingVersion
      mappingSha256
      snapshot := snapshotOf db capturedAt
      rows := (liveTransactions db).filterMap (transactionRow mapping evidence) ++
        (plannedTransactions db).filterMap (plannedRow mapping) }

end FinanceTracker.Transaction.Reclassification
