import FinanceTracker.Library.Groups
import FinanceTracker.Reclassification.Writers

/-!
# The reclassification of budget-service

`app/application/reclassification.py`: the scanner of the legacy budgets and of the lines
of monthly budgets, and the writer of an execution manifest. The categories belong to
categorization-service and are asked for over the port.
-/

namespace FinanceTracker.Budget.Reclassification

open Library.IntText (intText)
open Library ColumnTypes Counters
open Library.Groups (groupsOf)
open Library KeyedRows SortedBy Reclassification.Contracts Reclassification.Writers

structure BudgetModel where
  id : IntegerColumn
  categoryId : ℤ
  amount : ℤ

structure BudgetLineModel where
  id : IntegerColumn
  monthlyBudgetId : ℤ
  categoryId : ℤ
  amount : ℤ

/-- `monthlyBudgets` has the ids of the monthly budgets. -/
structure Database where
  budgets : List BudgetModel
  lines : List BudgetLineModel
  monthlyBudgets : List ℤ
  lastOutboxId : Option String := none

structure StoredDatabase extends Database where
  distinctBudgets : DistinctKeys BudgetModel.id budgets
  distinctLines : DistinctKeys BudgetLineModel.id lines

structure ApiCategory where
  id : ℤ
  semanticKey : Option String
  publicId : Option String
  lifecycle : Option String

/-- `resolve_identity`, which asks for an active category. -/
abbrev CategoryPort := String → String → Option ℤ

/-- `CategoryPort.resolve_identity` on the answer of the API, which is none where the request fails. -/
def resolveIdentity (answer : Option (List ApiCategory)) : CategoryPort := fun semanticKey publicId =>
  match answer with
  | none => none
  | some categories =>
    match categories.filter fun category => category.semanticKey = some semanticKey &&
      category.publicId = some publicId && category.lifecycle = some "active" with
    | [category] => some category.id
    | _ => none

/-- The tables and the identities that the run has resolved. -/
structure WriterState where
  db : Database
  resolved : List ((String × String) × ℤ)

def resolve (port : CategoryPort) (state : WriterState) (row : ExecutionRow) :
    Except WriterError (WriterState × ℤ) :=
  match lookup Prod.fst state.resolved (row.targetKey, row.targetPublicId) with
  | some entry => .ok (state, entry.2)
  | none =>
    match port row.targetKey row.targetPublicId with
    | none => .error (.targetNotFound row.targetKey)
    | some targetId =>
      .ok ({ state with
        resolved := state.resolved ++ [((row.targetKey, row.targetPublicId), targetId)] }, targetId)

def getBudget (db : Database) (id : ℤ) : Option BudgetModel :=
  db.budgets.find? fun row => row.id.val = id

def getLine (db : Database) (id : ℤ) : Option BudgetLineModel :=
  db.lines.find? fun row => row.id.val = id

def assignBudget (db : Database) (model : BudgetModel) (targetId : ℤ) : Database :=
  { db with
    budgets := replace BudgetModel.id db.budgets model.id fun row => { row with categoryId := targetId } }

def assignLine (db : Database) (model : BudgetLineModel) (targetId : ℤ) : Database :=
  { db with
    lines := replace BudgetLineModel.id db.lines model.id fun row => { row with categoryId := targetId } }

def applyBudget (execute : Bool) (state : WriterState) (row : ExecutionRow) (targetId : ℤ) :
    Except WriterError (WriterState × Outcome) := do
  let id ← sourceIdOf row
  match getBudget state.db id with
  | none => .ok (state, .skippedMissing)
  | some model =>
    if model.categoryId = targetId then .ok (state, .alreadyApplied)
    else if some model.categoryId ≠ row.legacyCategoryId then .ok (state, .skippedChanged)
    else if execute then .ok ({ state with db := assignBudget state.db model targetId }, written execute)
    else .ok (state, written execute)

def isCollision (model : BudgetLineModel) (targetId : ℤ) (other : BudgetLineModel) : Bool :=
  other.monthlyBudgetId = model.monthlyBudgetId && other.categoryId = targetId && other.id ≠ model.id

def applyLine (execute : Bool) (state : WriterState) (row : ExecutionRow) (targetId : ℤ) :
    Except WriterError (WriterState × Outcome) := do
  let id ← sourceIdOf row
  match getLine state.db id with
  | none => .ok (state, .skippedMissing)
  | some model =>
    if model.categoryId = targetId then .ok (state, .alreadyApplied)
    else if some model.categoryId ≠ row.legacyCategoryId then .ok (state, .skippedChanged)
    else do
      match ← scalarOneOrNone (state.db.lines.filter (isCollision model targetId)) with
      | some _ => .ok (state, .skippedCollision)
      | none =>
        if execute then
          .ok ({ state with db := assignLine state.db model targetId }, written execute)
        else .ok (state, written execute)

def applyRow (execute : Bool) (port : CategoryPort) (state : WriterState) (row : ExecutionRow) :
    Except WriterError (WriterState × Outcome) := do
  let (state, targetId) ← resolve port state row
  if row.sourceKind = "legacy_budget" then applyBudget execute state row targetId
  else if row.sourceKind = "monthly_budget_line" then applyLine execute state row targetId
  else .error (.unsupportedSourceKind row.sourceKind)

def applyReclassification (execute : Bool) (port : CategoryPort) (db : Database)
    (manifest : ExecutionManifest) : Except WriterError (WriterState × Counter String ℕ) :=
  applyManifest (applyRow execute port) ⟨db, []⟩ manifest

def isLegacy (categoryId : ℤ) : Bool := 1 ≤ categoryId && categoryId ≤ 10

def safeTarget (proposal : Option MappingEntry) : Option MappingTarget :=
  proposal.bind fun entry =>
    if entry.targets.length = 1 ∧ entry.disposition = .safeOneToOne then entry.targets.head? else none

def budgetRow (sourceKind : String) (sourceId categoryId amount : ℤ) (mapping : MappingRegistry) :
    Option ReportRow :=
  if isLegacy categoryId then
    let proposal := mapping.category categoryId
    let target := safeTarget proposal
    some
      { sourceKind
        sourceId := intText sourceId
        legacyCategoryId := some categoryId
        legacySubcategoryId := none
        disposition := (proposal.map MappingEntry.disposition).getD .unresolved
        reasonCode := (proposal.map MappingEntry.reasonCode).getD "missing_or_target_taxonomy_reference"
        targetKey := target.map MappingTarget.key
        targetPublicId := target.map MappingTarget.publicId
        amount := some (centsText amount) }
  else none

def legacyBudgetRow (mapping : MappingRegistry) (model : BudgetModel) : Option ReportRow :=
  budgetRow "legacy_budget" model.id.val model.categoryId model.amount mapping

def lineRow (mapping : MappingRegistry) (model : BudgetLineModel) : Option ReportRow :=
  budgetRow "monthly_budget_line" model.id.val model.categoryId model.amount mapping

def collisionGroups (lineRows : List (BudgetLineModel × ReportRow)) : List ((ℤ × String) × List ℤ) :=
  groupsOf (fun pair => pair.2.targetKey.map fun targetKey => (pair.1.monthlyBudgetId, targetKey))
    (fun pair => pair.1.id.val) lineRows

/-- The groups of more than one line. -/
def collisionsOf (lineRows : List (BudgetLineModel × ReportRow)) : List (List ℤ) :=
  ((collisionGroups lineRows).map Prod.snd).filter fun ids => 1 < ids.length

/-- `int(row.source_id)` of a row of the scan is an id. -/
def inCollision (collisions : List (List ℤ)) (row : ReportRow) : Bool :=
  row.sourceKind = "monthly_budget_line" &&
    collisions.any fun ids => (FinanceTracker.Library.Texts.intOfText row.sourceId).any (· ∈ ids)

def reviewed (row : ReportRow) : ReportRow :=
  { row with
    disposition := .manualReview
    reasonCode := "budget_target_collision"
    changesCategoryType := false
    evidence := [] }

def sortedBudgets (db : Database) : List BudgetModel := sortedBy (fun row => row.id.val) db.budgets

def sortedLines (db : Database) : List BudgetLineModel := sortedBy (fun row => row.id.val) db.lines

/-- `zip(legacy_lines, line_rows, strict=True)`; none where it raises. -/
def linesWithRows (mapping : MappingRegistry) (lines : List BudgetLineModel) :
    Option (List (BudgetLineModel × ReportRow)) :=
  let legacyLines := lines.filter fun line => isLegacy line.categoryId
  let lineRows := lines.filterMap (lineRow mapping)
  if legacyLines.length = lineRows.length then some (legacyLines.zip lineRows) else none

def snapshotOf (db : Database) (capturedAt : String) : SnapshotBoundary where
  capturedAt := capturedAt
  tableCounts :=
    [("budgets", db.budgets.length), ("monthly_budgets", db.monthlyBudgets.length),
      ("budget_lines", db.lines.length)]
  referenceHistograms :=
    [("category_references",
      sortedBy Prod.fst (tally ((sortedBudgets db).map (fun row => intText row.categoryId) ++
        (sortedLines db).map fun row => intText row.categoryId)))]
  outboxMaxId := db.lastOutboxId
  inboxMaxId := none

/-- none where the scan raises. -/
def scanBudgets (db : Database) (runId capturedAt : String) (mapping : MappingRegistry) :
    Option ServiceReport := do
  let rows := (sortedBudgets db).filterMap (legacyBudgetRow mapping) ++
    (sortedLines db).filterMap (lineRow mapping)
  let lineRows ← linesWithRows mapping (sortedLines db)
  let collisions := collisionsOf lineRows
  let mappingSha256 ← mapping.sha256
  some
    { runId
      sourceService := "budget-service"
      mappingVersion := mapping.mappingVersion
      mappingSha256
      snapshot := snapshotOf db capturedAt
      rows := rows.map fun row => if inCollision collisions row then reviewed row else row }

end FinanceTracker.Budget.Reclassification
