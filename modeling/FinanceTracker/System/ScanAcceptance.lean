import FinanceTracker.Budget.ProposedTargets
import FinanceTracker.Categorization.ProposedTargets
import FinanceTracker.Reclassification.Acceptance
import FinanceTracker.System.ScanRuns
import FinanceTracker.Transaction.ProposedTargets

/-!
# Scans are accepted

The aggregator takes what the scanners write, where each row is one that it takes.
-/

namespace FinanceTracker.System.ScanAcceptance

open List Library Json JsonText SortedBy
open Budget.Reclassification (scanBudgets)
open Categorization.Reclassification (scanCategorization)
open Transaction.Reclassification (scanTransactions)
open Reclassification.Contracts Reclassification.Registry Reclassification.Aggregate
  Reclassification.Acceptance
open Reclassification.Manifests (registryObject)
open Reclassification.MappingFile Reclassification.ReportFiles Reclassification.Selection
  Reclassification.AcceptedReports ScanRuns

theorem value_short {value : ℤ} (small : value.natAbs ≤ 2 ^ 40) : (writeInt value).isSome = true := by
  rw [write_int_some_iff]
  have bounded : value.natAbs < 10 ^ 20 := by omega
  exact lt_of_lt_of_le bounded (Nat.pow_le_pow_right (by decide) (by decide))

/-- A report of a run that holds only what the aggregator takes. -/
structure Scanned (boundary : Boundary) (service : String) (kinds : List String)
    (report : ServiceReport) : Prop where
  service : report.sourceService = service
  schema : report.schemaVersion = schemaVersion
  runId : report.runId = boundary.runId
  mappingVersion : report.mappingVersion = boundary.mappingVersion
  mappingSha256 : report.mappingSha256 = boundary.mappingSha256
  capturedAt : report.snapshot.capturedAt = boundary.capturedAt
  detail : report.detail = none
  snapshot : ShortInts (.obj report.snapshot.asDict)
  rowCount : report.rows.length ≤ 2 ^ 40
  distinct : (report.rows.map pairOf).Nodup
  acceptable : ∀ row ∈ report.rows, Acceptable mappingRegistry report.sourceService kinds row

def boundaryOfRun (runId capturedAt sha256 : String) : Boundary where
  runId
  mappingVersion := mappingRegistry.mappingVersion
  mappingSha256 := sha256
  capturedAt

/-- The reports that a run of the scanners makes hold only what the aggregator takes. -/
structure TakesScans (services : Services) (runId capturedAt sha256 : String) : Prop where
  budgets : ∃ report,
    scanBudgets services.budgets.toDatabase runId capturedAt mappingRegistry = some report ∧
    Scanned (boundaryOfRun runId capturedAt sha256) "budget-service"
      FinanceTracker.Budget.ProposedTargets.writableKinds report
  categorization : ∃ report,
    scanCategorization services.categorization.toDatabase runId capturedAt = some report ∧
    Scanned (boundaryOfRun runId capturedAt sha256) "categorization-service"
      FinanceTracker.Categorization.ProposedTargets.writableKinds report
  transactions : ∃ report,
    scanTransactions services.transactions.toDatabase runId capturedAt mappingRegistry
      services.evidence = some report ∧
    Scanned (boundaryOfRun runId capturedAt sha256) "transaction-service" ["transaction"] report

section Written

variable {boundary : Boundary} {service : String} {kinds : List String} {report : ServiceReport}

theorem scanned_written (scanned : Scanned boundary service kinds report) :
    ∃ written : WrittenReport, written.report = report := by
  have rows : ∀ row ∈ report.rows, ShortInts (.obj row.asDict) := by
    intro row member
    have acceptable := scanned.acceptable row member
    have ints {given : Option ℤ} (short : ∀ id, given = some id → (writeInt id).isSome = true) :
        ShortInts (Reclassification.Contracts.optional JsonValue.int given) := by
      cases given with
      | none => trivial
      | some id => exact short id rfl
    have texts (given : Option String) :
        ShortInts (Reclassification.Contracts.optional JsonValue.str given) := by
      cases given <;> trivial
    have evidence : ShortInts (.arr (row.evidence.map .str)) := by
      rw [ShortInts, short_items_iff]
      intro _ inEvidence
      obtain ⟨_, _, rfl⟩ := mem_map.mp inEvidence
      trivial
    exact ⟨trivial, trivial, ints acceptable.categoryId, ints acceptable.subcategoryId, trivial, trivial,
      texts row.targetKey, texts row.targetPublicId, texts row.amount, trivial, evidence, trivial⟩
  have short : ShortReport report :=
    ⟨scanned.snapshot, rows, value_short scanned.rowCount, scanned.detail⟩
  obtain ⟨file, written⟩ := report_written short (by
    intro row member amount isAmount
    obtain ⟨text, value, isText, isValue⟩ := (scanned.acceptable row member).amount
    cases isText.symm.trans isAmount
    exact Option.isSome_iff_exists.mpr ⟨value, isValue⟩)
  exact ⟨⟨report, file, written⟩, rfl⟩

theorem normalized_scanned {normalized : ServiceReport} (normal : Normalizes report normalized)
    (scanned : Scanned boundary service kinds report) : Scanned boundary service kinds normalized where
  service := normal.sourceService.trans scanned.service
  schema := normal.schemaVersion.trans scanned.schema
  runId := normal.runId.trans scanned.runId
  mappingVersion := normal.mappingVersion.trans scanned.mappingVersion
  mappingSha256 := normal.mappingSha256.trans scanned.mappingSha256
  capturedAt := (congrArg SnapshotBoundary.capturedAt normal.snapshot).trans scanned.capturedAt
  detail := normal.detail.trans scanned.detail
  snapshot := by
    rw [normal.snapshot]
    exact scanned.snapshot
  rowCount := by
    rw [normal.rows, sorted_length]
    exact scanned.rowCount
  distinct := by
    rw [normal.rows]
    exact ((sorted_perm ReportRow.identity report.rows).map pairOf).nodup_iff.mpr scanned.distinct
  acceptable := by
    intro row member
    rw [normal.rows, mem_sorted_iff] at member
    rw [normal.sourceService]
    exact scanned.acceptable row member

end Written

section OneRun

variable {boundary : Boundary} {budgets categorization transactions : ReportFile}

theorem one_run
    (budgetScan : Scanned boundary "budget-service" Budget.ProposedTargets.writableKinds
      budgets.report)
    (categorizationScan : Scanned boundary "categorization-service"
      Categorization.ProposedTargets.writableKinds categorization.report)
    (transactionScan : Scanned boundary "transaction-service" ["transaction"] transactions.report) :
    OneRun mappingRegistry boundary [budgets, categorization, transactions] := by
  have all {holds : ServiceReport → Prop} (each : ∀ {service kinds report},
      Scanned boundary service kinds report → holds report) :
      ∀ given ∈ [budgets, categorization, transactions], holds given.report := by
    simp only [forall_mem_cons]
    exact ⟨each budgetScan, each categorizationScan, each transactionScan, by simp⟩
  refine ⟨?_, all Scanned.schema, all Scanned.runId, all Scanned.mappingVersion,
    all Scanned.mappingSha256, all Scanned.capturedAt, all Scanned.distinct, ?_⟩
  · simp only [map_cons, map_nil, budgetScan.service, categorizationScan.service,
      transactionScan.service]
  · simp only [forall_mem_cons]
    refine ⟨⟨_, ?_, budgetScan.acceptable⟩, ⟨_, ?_, categorizationScan.acceptable⟩,
      ⟨_, ?_, transactionScan.acceptable⟩, by simp⟩
    · rw [budgetScan.service]
      rfl
    · rw [categorizationScan.service]
      rfl
    · rw [transactionScan.service]
      rfl

end OneRun

section Run

theorem registry_sha {file : ByteArray} (isMapping : mappingBytes = some file) :
    mappingRegistry.sha256 = some (Library.Sha256.hexdigest file) := by
  rw [← mapping_sha_canonical, mappingSha256, isMapping]
  rfl

theorem service_files (mapping budgets categorization transactions : ByteArray) :
    shardFiles [("taxonomy-mapping.json", mapping), ("budget-service.json", budgets),
      ("categorization-service.json", categorization), ("transaction-service.json", transactions)] =
      [("budget-service.json", budgets), ("categorization-service.json", categorization),
        ("transaction-service.json", transactions)] := by
  have names : isShard "taxonomy-mapping.json" = false ∧ isShard "budget-service.json" = true ∧
      isShard "categorization-service.json" = true ∧ isShard "transaction-service.json" = true := by
    decide
  have ordered : ([("budget-service.json", budgets), ("categorization-service.json", categorization),
      ("transaction-service.json", transactions)].map Prod.fst).Pairwise (· ≤ ·) := by
    simp only [map_cons, map_nil]
    decide
  unfold shardFiles
  simp only [filter_cons, names, if_true, if_false, Bool.false_eq_true, filter_nil]
  rw [pairwise_map] at ordered
  exact sorted_of_pairwise _ ordered

variable {services : Services} (takes : ∀ runId capturedAt sha256,
  mappingRegistry.sha256 = some sha256 → TakesScans services runId capturedAt sha256)

include takes

theorem run_of_takes_accepted {directory : Directory} (run : Run services directory)
    (floatStr : String → String) : ∃ summary, aggregate floatStr directory none = .ok summary := by
  have isMapping := run_mapping run
  obtain ⟨budgets, categorization, transactions, budgetsHold, categorizationHolds, transactionsHold,
    shards, _⟩ := run_files run
  obtain ⟨⟨_, isBudgets, budgetScan⟩, ⟨_, isCategorization, categorizationScan⟩,
    ⟨_, isTransactions, transactionScan⟩⟩ :=
    takes run.runId run.capturedAt _ (registry_sha run.isMapping)
  have scannedBudgets := run.scannedBudgets
  have scannedTransactions := run.scannedTransactions
  rw [isMapping] at scannedBudgets scannedTransactions
  cases isBudgets.symm.trans scannedBudgets
  cases isCategorization.symm.trans run.scannedCategorization
  cases isTransactions.symm.trans scannedTransactions
  have oneRun := one_run (normalized_scanned budgetsHold.normal budgetScan)
    (normalized_scanned categorizationHolds.normal categorizationScan)
    (normalized_scanned transactionsHold.normal transactionScan)
  exact run_accepted oneRun floatStr run.stored (mapping_file_loads run.isMapping) rfl shards

theorem run_of_takes : ∃ directory, Nonempty (Run services directory) := by
  obtain ⟨mappingFile, isMapping⟩ := mapping_written
  obtain ⟨⟨_, scannedBudgets, budgetScan⟩, ⟨_, scannedCategorization, categorizationScan⟩,
    ⟨_, scannedTransactions, transactionScan⟩⟩ := takes "" "" _ (registry_sha isMapping)
  obtain ⟨budgets, rfl⟩ := scanned_written budgetScan
  obtain ⟨categorization, rfl⟩ := scanned_written categorizationScan
  obtain ⟨transactions, rfl⟩ := scanned_written transactionScan
  refine ⟨[("taxonomy-mapping.json", mappingFile), ("budget-service.json", budgets.file),
    ("categorization-service.json", categorization.file), ("transaction-service.json", transactions.file)],
    ⟨{ runId := "", capturedAt := "", mapping := mappingRegistry, mappingFile, isMapping
       loaded := load_mapping_file isMapping
       stored := rfl
       budgets, categorization, transactions, scannedBudgets, scannedCategorization
       scannedTransactions
       shards := ?_ }⟩⟩
  exact service_files _ _ _ _

end Run

end FinanceTracker.System.ScanAcceptance
