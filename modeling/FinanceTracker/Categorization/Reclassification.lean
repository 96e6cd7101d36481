import FinanceTracker.Reclassification.Registry
import FinanceTracker.Reclassification.Writers

/-!
# The reclassification of categorization-service

`app/application/reclassification.py`: the scanner of the categorization results and of
the rules, against the pinned proposals, and the writer of an execution manifest.
-/

namespace FinanceTracker.Categorization.Reclassification

open Library.IntText (intText)
open Library ColumnTypes Counters KeyedRows SortedBy Reclassification.Contracts
  Reclassification.Registry Reclassification.Writers

structure CategoryModel where
  id : ℤ
  lifecycle : String

structure SubCategoryModel where
  id : ℤ
  categoryId : ℤ
  publicId : Option String
  semanticKey : Option String
  lifecycle : String

structure CategorizationResultModel where
  id : IntegerColumn
  categoryId : ℤ
  subcategoryId : ℤ
  tier : String

structure CategorizationRuleModel where
  id : IntegerColumn
  userId : Option ℤ
  matchesSubcategoryId : ℤ

structure Database where
  categories : List CategoryModel
  subcategories : List SubCategoryModel
  results : List CategorizationResultModel
  rules : List CategorizationRuleModel
  lastOutboxId : Option String := none
  lastInboxId : Option ℤ := none

structure StoredDatabase extends Database where
  distinctResults : DistinctKeys CategorizationResultModel.id results
  distinctRules : DistinctKeys CategorizationRuleModel.id rules

def hasIdentity (targetKey targetPublicId : String) (row : SubCategoryModel) : Bool :=
  row.semanticKey = some targetKey && row.publicId = some targetPublicId && row.lifecycle = "active"

def activeTarget (db : Database) (row : ExecutionRow) : Except WriterError SubCategoryModel := do
  match ← scalarOneOrNone (db.subcategories.filter (hasIdentity row.targetKey row.targetPublicId)) with
  | none => .error (.targetNotFound row.targetKey)
  | some target => .ok target

def activeParent (db : Database) (target : SubCategoryModel) (row : ExecutionRow) :
    Except WriterError CategoryModel :=
  match lookup CategoryModel.id db.categories target.categoryId with
  | none => .error (.parentNotFound row.targetKey)
  | some parent =>
    if parent.lifecycle = "active" then .ok parent else .error (.parentNotFound row.targetKey)

def getResult (db : Database) (id : ℤ) : Option CategorizationResultModel :=
  db.results.find? fun row => row.id.val = id

def getRule (db : Database) (id : ℤ) : Option CategorizationRuleModel :=
  db.rules.find? fun row => row.id.val = id

def assignResult (db : Database) (model : CategorizationResultModel) (parent : CategoryModel)
    (target : SubCategoryModel) : Database :=
  { db with
    results := replace CategorizationResultModel.id db.results model.id fun row =>
      { row with categoryId := parent.id, subcategoryId := target.id } }

def assignRule (db : Database) (model : CategorizationRuleModel) (target : SubCategoryModel) :
    Database :=
  { db with
    rules := replace CategorizationRuleModel.id db.rules model.id fun row =>
      { row with matchesSubcategoryId := target.id } }

def applyResult (execute : Bool) (db : Database) (row : ExecutionRow) (parent : CategoryModel)
    (target : SubCategoryModel) : Except WriterError (Database × Outcome) := do
  let id ← sourceIdOf row
  match getResult db id with
  | none => .ok (db, .skippedMissing)
  | some model =>
    if isProtectedTier model.tier then .ok (db, .skippedProtected)
    else if model.categoryId = parent.id ∧ model.subcategoryId = target.id then
      .ok (db, .alreadyApplied)
    else if ¬(some model.categoryId = row.legacyCategoryId ∧
      some model.subcategoryId = row.legacySubcategoryId) then .ok (db, .skippedChanged)
    else if execute then .ok (assignResult db model parent target, written execute)
    else .ok (db, written execute)

def applyRule (execute : Bool) (db : Database) (row : ExecutionRow) (target : SubCategoryModel) :
    Except WriterError (Database × Outcome) := do
  let id ← sourceIdOf row
  match getRule db id with
  | none => .ok (db, .skippedMissing)
  | some model =>
    if model.userId.isSome then .ok (db, .skippedProtected)
    else if model.matchesSubcategoryId = target.id then .ok (db, .alreadyApplied)
    else if some model.matchesSubcategoryId ≠ row.legacySubcategoryId then .ok (db, .skippedChanged)
    else if execute then .ok (assignRule db model target, written execute)
    else .ok (db, written execute)

def applyRow (execute : Bool) (db : Database) (row : ExecutionRow) :
    Except WriterError (Database × Outcome) := do
  let target ← activeTarget db row
  let parent ← activeParent db target row
  if row.sourceKind = "categorization_result" then applyResult execute db row parent target
  else if row.sourceKind = "system_rule" then applyRule execute db row target
  else .error (.unsupportedSourceKind row.sourceKind)

def applyReclassification (execute : Bool) (db : Database) (manifest : ExecutionManifest) :
    Except WriterError (Database × Counter String ℕ) :=
  applyManifest (applyRow execute) db manifest

/-- `_SUBCATEGORIES.get(id)`. -/
def proposalOf (subcategoryId : ℤ) : Option LegacyProposal :=
  lookup LegacyProposal.legacyId subcategoryProposals subcategoryId

/-- The only key of an unprotected row. -/
def targetKeyOf (isProtected : Bool) (proposal : LegacyProposal) : Option String :=
  if proposal.targetKeys.length = 1 ∧ isProtected = false then proposal.targetKeys.head? else none

def resultRow (model : CategorizationResultModel) : Option ReportRow :=
  (proposalOf model.subcategoryId).map fun proposal =>
    let isProtected := isProtectedTier model.tier
    let target := targetKeyOf isProtected proposal
    { sourceKind := "categorization_result"
      sourceId := intText model.id.val
      legacyCategoryId := some model.categoryId
      legacySubcategoryId := some model.subcategoryId
      disposition := if isProtected then .protectedRow else proposal.disposition
      reasonCode := if isProtected then "manual_result_protected" else proposal.reasonCode
      targetKey := target
      targetPublicId := target.map pinnedUuid7 }

def ruleRow (model : CategorizationRuleModel) : Option ReportRow :=
  (proposalOf model.matchesSubcategoryId).map fun proposal =>
    let isProtected := model.userId.isSome
    let target := targetKeyOf isProtected proposal
    { sourceKind := if isProtected then "user_or_learned_rule" else "system_rule"
      sourceId := intText model.id.val
      legacyCategoryId := none
      legacySubcategoryId := some model.matchesSubcategoryId
      disposition := if isProtected then .protectedRow else proposal.disposition
      reasonCode := if isProtected then "user_rule_protected" else proposal.reasonCode
      targetKey := target
      targetPublicId := target.map pinnedUuid7 }

def sortedResults (db : Database) : List CategorizationResultModel :=
  sortedBy (fun row => row.id.val) db.results

def sortedRules (db : Database) : List CategorizationRuleModel :=
  sortedBy (fun row => row.id.val) db.rules

def snapshotOf (db : Database) (capturedAt : String) : SnapshotBoundary where
  capturedAt := capturedAt
  tableCounts :=
    [("categorization_results", db.results.length), ("categorization_rules", db.rules.length)]
  referenceHistograms :=
    [("subcategory_references",
      sortedBy Prod.fst (tally ((sortedResults db).map (fun row => intText row.subcategoryId) ++
        (sortedRules db).map fun row => intText row.matchesSubcategoryId)))]
  outboxMaxId := db.lastOutboxId
  inboxMaxId := db.lastInboxId

def scanCategorization (db : Database) (runId capturedAt : String) : Option ServiceReport := do
  let mappingSha256 ← mappingSha256
  some
    { runId
      sourceService := "categorization-service"
      mappingVersion := mappingVersion
      mappingSha256
      snapshot := snapshotOf db capturedAt
      rows := (sortedResults db).filterMap resultRow ++ (sortedRules db).filterMap ruleRow }

end FinanceTracker.Categorization.Reclassification
