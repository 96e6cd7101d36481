import FinanceTracker.Budget.Reclassification
import FinanceTracker.Categorization.Reclassification
import FinanceTracker.Reclassification.AcceptedReports
import FinanceTracker.Reclassification.MappingFile
import FinanceTracker.Transaction.Reclassification

/-!
# Runs of the scanners

The three services, one run of their scanners over one mapping and the files that it
writes, and the dry runs of the services on what was scanned.
-/

namespace FinanceTracker.System.ScanRuns

open Library Counters SortedBy List
open Budget.Reclassification (CategoryPort scanBudgets)
open Categorization.Reclassification (scanCategorization)
open Transaction.Reclassification (EvidenceCategorizer TaxonomyResolver scanTransactions)
open Reclassification.Contracts Reclassification.Registry Reclassification.Aggregate
  Reclassification.Writers Reclassification.MappingFile Reclassification.ReportFiles
  Reclassification.AcceptedReports

structure Services where
  transactions : FinanceTracker.Transaction.Reclassification.StoredDatabase
  budgets : FinanceTracker.Budget.Reclassification.StoredDatabase
  categorization : FinanceTracker.Categorization.Reclassification.StoredDatabase
  evidence : Option EvidenceCategorizer
  taxonomy : Option TaxonomyResolver
  categories : CategoryPort

def Services.budgetDryRun (services : Services) :=
  FinanceTracker.Budget.Reclassification.applyReclassification false services.categories
    services.budgets.toDatabase

def Services.categorizationDryRun (services : Services) :=
  FinanceTracker.Categorization.Reclassification.applyReclassification false
    services.categorization.toDatabase

def Services.transactionDryRun (services : Services) :=
  FinanceTracker.Transaction.Reclassification.applyReclassification false services.taxonomy
    services.transactions.toDatabase

/-- A report with the file that `write_report` makes of it. -/
structure WrittenReport where
  report : ServiceReport
  file : ByteArray
  written : reportBytes report = some file

structure Run (services : Services) (directory : Directory) where
  runId : String
  capturedAt : String
  mapping : MappingRegistry
  mappingFile : ByteArray
  isMapping : mappingBytes = some mappingFile
  loaded : loadMapping mappingFile = some mapping
  stored : readFile directory "taxonomy-mapping.json" = some mappingFile
  budgets : WrittenReport
  categorization : WrittenReport
  transactions : WrittenReport
  scannedBudgets : scanBudgets services.budgets.toDatabase runId capturedAt mapping =
    some budgets.report
  scannedCategorization : scanCategorization services.categorization.toDatabase runId capturedAt =
    some categorization.report
  scannedTransactions : scanTransactions services.transactions.toDatabase runId capturedAt mapping
    services.evidence = some transactions.report
  shards : shardFiles directory =
    [("budget-service.json", budgets.file), ("categorization-service.json", categorization.file),
      ("transaction-service.json", transactions.file)]

theorem histogram_distinct (texts : List String) :
    ((sortedBy Prod.fst (tally texts)).map Prod.fst).Nodup :=
  sorted_keys_nodup _ (tally_distinct texts)

section Scans

variable {runId capturedAt : String} {mapping : MappingRegistry} {report : ServiceReport}

theorem budget_scan_file {db : Budget.Reclassification.Database}
    (scanned : scanBudgets db runId capturedAt mapping = some report) :
    report.sourceService = "budget-service" ∧ PlainSnapshot report.snapshot := by
  unfold scanBudgets at scanned
  obtain ⟨_, _, scanned⟩ := Option.bind_eq_some_iff.mp scanned
  obtain ⟨_, _, scanned⟩ := Option.bind_eq_some_iff.mp scanned
  cases scanned
  refine ⟨rfl, by simp [Budget.Reclassification.snapshotOf], by
    simp [Budget.Reclassification.snapshotOf], ?_⟩
  intro _ member
  rw [mem_singleton.mp member]
  exact histogram_distinct _

theorem categorization_scan_file {db : Categorization.Reclassification.Database}
    (scanned : scanCategorization db runId capturedAt = some report) :
    report.sourceService = "categorization-service" ∧ PlainSnapshot report.snapshot := by
  unfold scanCategorization at scanned
  obtain ⟨_, _, scanned⟩ := Option.bind_eq_some_iff.mp scanned
  cases scanned
  refine ⟨rfl, by simp [Categorization.Reclassification.snapshotOf], by
    simp [Categorization.Reclassification.snapshotOf], ?_⟩
  intro _ member
  rw [mem_singleton.mp member]
  exact histogram_distinct _

theorem transaction_scan_file {db : Transaction.Reclassification.Database}
    {categorizer : Option EvidenceCategorizer}
    (scanned : scanTransactions db runId capturedAt mapping categorizer = some report) :
    report.sourceService = "transaction-service" ∧ PlainSnapshot report.snapshot := by
  unfold scanTransactions at scanned
  obtain ⟨_, _, scanned⟩ := Option.bind_eq_some_iff.mp scanned
  obtain ⟨_, _, scanned⟩ := Option.bind_eq_some_iff.mp scanned
  cases scanned
  refine ⟨rfl, by simp [Transaction.Reclassification.snapshotOf], by
    simp [Transaction.Reclassification.snapshotOf], ?_⟩
  intro _ member
  rcases mem_cons.mp member with rfl | last
  · exact histogram_distinct _
  · rw [mem_singleton.mp last]
    exact histogram_distinct _

end Scans

structure HoldsReport (service filename : String) (written : WrittenReport) (given : ReportFile) :
    Prop where
  file : given.file = (filename, written.file)
  service : given.report.sourceService = service
  normal : Normalizes written.report given.report

theorem report_file {service : String} (filename : String) {written : WrittenReport}
    (scanned : written.report.sourceService = service ∧ PlainSnapshot written.report.snapshot) :
    ∃ given, HoldsReport service filename written given := by
  obtain ⟨normalized, same, holds⟩ := report_file_loads scanned.2 written.written
  exact ⟨⟨filename, written.file, normalized, holds⟩, rfl, same.sourceService.trans scanned.1, same⟩

section Run

variable {services : Services} {directory : Directory} (run : Run services directory)

theorem run_mapping : run.mapping = mappingRegistry :=
  Option.some.inj (run.loaded.symm.trans (load_mapping_file run.isMapping))

theorem run_files : ∃ budgets categorization transactions,
    HoldsReport "budget-service" "budget-service.json" run.budgets budgets ∧
    HoldsReport "categorization-service" "categorization-service.json" run.categorization
      categorization ∧
    HoldsReport "transaction-service" "transaction-service.json" run.transactions transactions ∧
    shardFiles directory = [budgets, categorization, transactions].map ReportFile.file ∧
    [budgets, categorization, transactions].map (fun given => given.report.sourceService) =
      ["budget-service", "categorization-service", "transaction-service"] := by
  obtain ⟨budgets, budgetsHold⟩ :=
    report_file "budget-service.json" (budget_scan_file run.scannedBudgets)
  obtain ⟨categorization, categorizationHolds⟩ :=
    report_file "categorization-service.json" (categorization_scan_file run.scannedCategorization)
  obtain ⟨transactions, transactionsHold⟩ :=
    report_file "transaction-service.json" (transaction_scan_file run.scannedTransactions)
  refine ⟨budgets, categorization, transactions, budgetsHold, categorizationHolds, transactionsHold, ?_, ?_⟩
  · simp only [map_cons, map_nil, budgetsHold.file, categorizationHolds.file,
      transactionsHold.file, run.shards]
  · simp only [map_cons, map_nil, budgetsHold.service, categorizationHolds.service,
      transactionsHold.service]

end Run

end FinanceTracker.System.ScanRuns
