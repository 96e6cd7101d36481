import FinanceTracker.Reclassification.Taxonomy
import FinanceTracker.System.ScanAcceptance
import Mathlib.Data.List.ReduceOption

/-!
# Scans, manifests and dry runs

One run of the three scanners, the aggregator on the files that they write, and the dry
run of each execution manifest on the database that was scanned.
-/

namespace FinanceTracker.System.ScanAgreement

open Library.Columns (fitsInteger)
open Library Counters Json KeyedRows Runs SortedBy ColumnTypes IntText JsonText List
open Budget.Reclassification (CategoryPort scanBudgets)
open Categorization.Reclassification (scanCategorization)
open Transaction.Domain (Transaction)
open Transaction.ProposedTargets (evidenceOf proposedTarget)
open Transaction.Reclassification Reclassification.Contracts Reclassification.Registry
  Reclassification.Aggregate Reclassification.Writers Reclassification.MappingFile
  Reclassification.ReportFiles Reclassification.Selection Reclassification.AcceptedReports
open Reclassification.Manifests (registryObject)
open Reclassification.Taxonomy Reclassification.Acceptance ScanAcceptance ScanRuns

/-- The dispositions that keep a row out of the manifests. -/
def Withheld (row : ReportRow) : Prop :=
  row.disposition = .manualReview ∨ row.disposition = .protectedRow ∨ row.disposition = .unresolved

/-- The execution file of a report loads for its service, is written again as it is, has no
withheld row, and the dry run does what is asked of it. -/
def FileAgrees (service : String) (report : ServiceReport) (validates : ExecutionManifest → Prop)
    (file : ByteArray) : Prop :=
  ∃ manifest, loadExecutionManifest file service = .ok manifest ∧
    executionManifestBytes manifest = some file ∧
    (∀ row ∈ report.rows, Withheld row → ∀ executed ∈ manifest.rows,
      (executed.sourceKind, executed.sourceId) ≠ (row.sourceKind, row.sourceId)) ∧
    validates manifest

def AllValidated {State : Type}
    (dryRun : ExecutionManifest → Except WriterError (State × Counter String ℕ))
    (manifest : ExecutionManifest) : Prop :=
  ∃ after, dryRun manifest = .ok (after, validatedCounts manifest.rows.length)

/-- Scan, aggregate and execute agree. -/
def Agrees {services : Services} {directory : Directory} (run : Run services directory) : Prop :=
  ∃ budgetFile categorizationFile transactionFile,
    writeExecutionManifests directory = .ok [("budget-service", budgetFile),
      ("categorization-service", categorizationFile), ("transaction-service", transactionFile)] ∧
    FileAgrees "budget-service" run.budgets.report (AllValidated services.budgetDryRun) budgetFile ∧
    FileAgrees "categorization-service" run.categorization.report
      (AllValidated services.categorizationDryRun) categorizationFile ∧
    FileAgrees "transaction-service" run.transactions.report
      (AllValidated services.transactionDryRun) transactionFile

theorem file_agrees_iff {given : ReportFile} {written : WrittenReport} {service filename : String}
    {kinds : List String} {file : ByteArray} {validates : ExecutionManifest → Prop}
    (holds : HoldsReport service filename written given) (made : MadeOf given kinds (service, file)) :
    FileAgrees service written.report validates file ↔
      validates (manifestOf kinds service given.report
        (Library.Sha256.hexdigest given.bytes)).normalized := by
  have loads := made.loads
  have reproduces := made.reproduces
  rw [holds.service] at loads reproduces
  constructor
  · rintro ⟨manifest, loaded, _, _, valid⟩
    cases loads.symm.trans loaded
    exact valid
  · intro valid
    refine ⟨_, loads, reproduces, ?_, valid⟩
    intro row stored withheld executed member
    have inFile : row ∈ given.report.rows := by
      rw [holds.normal.rows, mem_sorted_iff]
      exact stored
    refine excluded_not_carried made.distinct inFile ?_ executed ((mem_sorted_iff _).mp member)
    rcases withheld with is | is | is <;> simp [is]

section Manifests

variable {directory : Directory} {files : List ReportFile} {registry : JsonObject}
  {executions : List (String × ByteArray × ExecutionSummary)}

theorem made_of_service (accepted : Accepted directory files registry executions)
    (distinct : (files.map fun given => given.report.sourceService).Nodup)
    {given : ReportFile} (isFile : given ∈ files) {service : String} {kinds : List String}
    (isService : given.report.sourceService = service)
    (writable : writableSourceKinds service = some kinds) {entry : ByteArray × ExecutionSummary}
    (member : (service, entry) ∈ executions) : MadeOf given kinds (service, entry.1) := by
  obtain ⟨other, otherFile, _, made⟩ := made_of_report accepted member
  have same : other = given :=
    inj_on_of_nodup_map distinct otherFile isFile (made.service.symm.trans isService.symm)
  rw [same] at made
  have isKinds := made.writable
  rw [isService, writable, Option.some.injEq] at isKinds
  exact isKinds ▸ made

theorem three_entries {first second third : String}
    (services : executions.map Prod.fst = [first, second, third]) :
    ∃ firstEntry secondEntry thirdEntry,
      executions = [(first, firstEntry), (second, secondEntry), (third, thirdEntry)] := by
  match executions, services with
  | [(_, firstEntry), (_, secondEntry), (_, thirdEntry)], same =>
    simp only [map_cons, map_nil, List.cons.injEq, and_true] at same
    obtain ⟨rfl, rfl, rfl⟩ := same
    exact ⟨firstEntry, secondEntry, thirdEntry, rfl⟩

end Manifests

section Ready

variable {services : Services} {directory : Directory} (run : Run services directory)

/-- Every row that a manifest of the run carries can be carried out by its service. -/
structure Ready : Prop where
  budgets : FinanceTracker.Budget.ProposedTargets.Ready services.budgets.toDatabase services.categories
    run.mapping
  categorization : FinanceTracker.Categorization.ProposedTargets.Ready services.categorization.toDatabase
  transactions : FinanceTracker.Transaction.ProposedTargets.Ready services.transactions.toDatabase
    services.taxonomy run.mapping services.evidence

structure Manifests (budgets categorization transactions : ByteArray) : Prop where
  written : writeExecutionManifests directory = .ok [("budget-service", budgets),
    ("categorization-service", categorization), ("transaction-service", transactions)]
  budgetIff : FileAgrees "budget-service" run.budgets.report (AllValidated services.budgetDryRun)
    budgets ↔ FinanceTracker.Budget.ProposedTargets.Ready services.budgets.toDatabase
      services.categories run.mapping
  categorizationIff : FileAgrees "categorization-service" run.categorization.report
    (AllValidated services.categorizationDryRun) categorization ↔
      FinanceTracker.Categorization.ProposedTargets.Ready services.categorization.toDatabase
  transactionIff : FileAgrees "transaction-service" run.transactions.report
    (AllValidated services.transactionDryRun) transactions ↔
      FinanceTracker.Transaction.ProposedTargets.Ready services.transactions.toDatabase
        services.taxonomy run.mapping services.evidence

theorem services_ordered {files : List ReportFile}
    (names : files.map (fun given => given.report.sourceService) =
      ["budget-service", "categorization-service", "transaction-service"]) :
    sortedBy Shard.service (files.map ReportFile.shard) = files.map ReportFile.shard := by
  apply sorted_of_pairwise
  have ordered : (files.map fun given => given.report.sourceService).Pairwise (· ≤ ·) := by
    rw [names]
    decide
  rw [pairwise_map] at ordered ⊢
  exact ordered

theorem accepted_manifests {floatStr : String → String} {baseline : Option JsonValue}
    {summary : Summary} (accepted : aggregate floatStr directory baseline = .ok summary) :
    ∃ budgets categorization transactions, Manifests run budgets categorization transactions := by
  obtain ⟨budgets, categorization, transactions, budgetsHold, categorizationHolds, transactionsHold,
    shards, names⟩ := run_files run
  obtain ⟨_, _, made⟩ := accepted_files shards accepted
  have distinct : ([budgets, categorization, transactions].map fun given =>
      given.report.sourceService).Nodup := by
    rw [names]
    decide
  have executed := executed_services made
  rw [services_ordered names, map_map] at executed
  obtain ⟨budgetEntry, categorizationEntry, transactionEntry, rfl⟩ :=
    three_entries (executed.trans names)
  have budgetMade : MadeOf budgets Budget.ProposedTargets.writableKinds _ :=
    made_of_service made distinct (by simp) budgetsHold.service rfl mem_cons_self
  have categorizationMade : MadeOf categorization
      Categorization.ProposedTargets.writableKinds _ :=
    made_of_service made distinct (by simp) categorizationHolds.service rfl
      (mem_cons_of_mem _ mem_cons_self)
  have transactionMade : MadeOf transactions ["transaction"] _ :=
    made_of_service made distinct (by simp) transactionsHold.service rfl
      (mem_cons_of_mem _ (mem_cons_of_mem _ mem_cons_self))
  have named {entry : MappingEntry} (member : entry ∈ run.mapping.categories ++ run.mapping.subcategories) :
      ∀ target ∈ entry.targets, target.key ≠ "" ∧ target.publicId ≠ "" := by
    rw [run_mapping run] at member
    exact registry_named member
  refine ⟨budgetEntry.1, categorizationEntry.1, transactionEntry.1, made.written, ?_, ?_, ?_⟩
  · exact (file_agrees_iff budgetsHold budgetMade).trans
      (Budget.ProposedTargets.dry_run_validates_iff
        (fun entry member => named (mem_append_left _ member)) run.scannedBudgets budgetsHold.normal.rows)
  · exact (file_agrees_iff categorizationHolds categorizationMade).trans
      (Categorization.ProposedTargets.dry_run_validates_iff run.scannedCategorization
        categorizationHolds.normal.rows)
  · exact (file_agrees_iff transactionsHold transactionMade).trans
      (Transaction.ProposedTargets.dry_run_validates_iff
        (fun entry member => named member) run.scannedTransactions transactionsHold.normal.rows)

end Ready

/-- No subcategory of the read copy or of the taxonomy has the key of a category. -/
structure LeavesOnly (services : Services) : Prop where
  stored : ∀ row ∈ services.transactions.subcategories, ∀ key ∈ categoryKeys,
    row.semanticKey ≠ some key
  answered : ∀ resolve, services.taxonomy = some resolve → ∀ key ∈ categoryKeys,
    ∀ publicId resolved, resolve key publicId ≠ .ok (some resolved)

theorem safe_proposed {model : Transaction} {legacyId : ℤ} {reasonCode key : String}
    (legacy : (isLegacyLeaf model.subcategoryId ||
      isLegacyParent model.categoryId model.subcategoryId) = true)
    (unprotected : isProtected model.categorizationTier = false)
    (found : proposalOf mappingRegistry model.categoryId model.subcategoryId =
      some (LegacyProposal.entry ⟨legacyId, .safeOneToOne, reasonCode, [key]⟩))
    (evidence : Option EvidenceResolution) :
    proposedTarget mappingRegistry evidence model = some ⟨key, pinnedUuid7 key⟩ := by
  unfold proposedTarget
  rw [legacy, unprotected, found]
  rfl

structure AtParent (model : Transaction) : Prop where
  live : model.deleted = false
  unprotected : isProtected model.categorizationTier = false
  subcategory : model.subcategoryId = none
  category : ∃ entry ∈ safeCategoryTargets, model.categoryId = some entry.1

theorem safe_categories : ∀ entry ∈ safeCategoryTargets,
    (1 ≤ entry.1 ∧ entry.1 ≤ 10) ∧ entry.2 ∈ categoryKeys := by
  decide +kernel

theorem parent_proposed {model : Transaction} (parent : AtParent model)
    (evidence : Option EvidenceResolution) :
    ∃ key ∈ categoryKeys, proposedTarget mappingRegistry evidence model = some ⟨key, pinnedUuid7 key⟩ := by
  obtain ⟨entry, safe, isCategory⟩ := parent.category
  obtain ⟨bounds, isKey⟩ := safe_categories entry safe
  have distinct : DistinctKeys LegacyProposal.legacyId categoryProposals := by
    unfold DistinctKeys
    decide
  have found : lookup LegacyProposal.legacyId categoryProposals entry.1 =
      some ⟨entry.1, .safeOneToOne, "direct_parent_mapping", [entry.2]⟩ :=
    (lookup_iff distinct).mpr ⟨mem_append_left _ (mem_map_of_mem safe), rfl⟩
  have minusOne : orMinusOne (some entry.1) = entry.1 := by
    have some : entry.1 ≠ 0 := by omega
    simp [orMinusOne, some]
  have isProposal : proposalOf mappingRegistry model.categoryId model.subcategoryId =
      some (LegacyProposal.entry ⟨entry.1, .safeOneToOne, "direct_parent_mapping", [entry.2]⟩) := by
    unfold proposalOf
    rw [parent.subcategory, isCategory]
    dsimp only
    rw [minusOne, registry_category, found]
    rfl
  refine ⟨entry.2, isKey, safe_proposed ?_ parent.unprotected isProposal evidence⟩
  rw [parent.subcategory, isCategory]
  simp [isLegacyParent, bounds]

/-- One such transaction is enough: its target is a category, which no subcategory is. -/
theorem parent_transaction_disagrees {services : Services} {directory : Directory}
    (run : Run services directory) {floatStr : String → String} {baseline : Option JsonValue}
    {summary : Summary} (accepted : aggregate floatStr directory baseline = .ok summary)
    (leaves : LeavesOnly services) {model : Transaction}
    (stored : model ∈ services.transactions.transactions) (parent : AtParent model) : ¬Agrees run := by
  obtain ⟨_, _, _, made⟩ := accepted_manifests run accepted
  rintro ⟨_, _, _, isWritten, _, _, agrees⟩
  cases made.written.symm.trans isWritten
  have ready := made.transactionIff.mp agrees
  have scanned := run.scannedTransactions
  unfold scanTransactions at scanned
  obtain ⟨evidence, isEvidence, _⟩ := Option.bind_eq_some_iff.mp scanned
  obtain ⟨key, isKey, proposed⟩ := parent_proposed parent (evidenceOf evidence model)
  rw [← run_mapping run] at proposed
  obtain ⟨leaf, _, names, _⟩ := ready evidence isEvidence model stored parent.live _ proposed
  rcases names with only | ⟨_, resolve, resolved, isResolver, answered, _⟩
  · have member : leaf ∈ services.transactions.subcategories.filter (hasIdentity key (pinnedUuid7 key)) := by
      rw [only]
      exact mem_cons_self
    obtain ⟨isStored, identity⟩ := mem_filter.mp member
    simp only [hasIdentity, Bool.and_eq_true, decide_eq_true_eq] at identity
    exact leaves.stored leaf isStored key isKey identity.1.1
  · exact leaves.answered resolve isResolver key isKey _ resolved answered

def budgetCategory (item : ApiCategory) : FinanceTracker.Budget.Reclassification.ApiCategory where
  id := item.id
  semanticKey := item.semanticKey
  publicId := item.publicId
  lifecycle := item.lifecycle

/-- The keys of the taxonomy are active with their public ids, in the read copy, in
categorization-service and in the answers that both ports are given. -/
structure Present (services : Services) (answer : TaxonomyAnswer) : Prop where
  resolver : services.taxonomy = some (taxonomyResolver (some answer))
  port : services.categories = FinanceTracker.Budget.Reclassification.resolveIdentity
    (some (answer.categories.map budgetCategory))
  copiedCategories : ∀ key ∈ categoryKeys, ∃ row ∈ services.transactions.categories,
    row.semanticKey = some key ∧ row.publicId = some (pinnedUuid7 key) ∧ row.lifecycle = some "active"
  copiedSubcategories : ∀ key ∈ subcategoryKeys, ∃ row ∈ services.transactions.subcategories,
    row.semanticKey = some key ∧ row.publicId = some (pinnedUuid7 key) ∧ row.lifecycle = some "active"
  ownSubcategories : ∀ key ∈ subcategoryKeys, ∃ row ∈ services.categorization.subcategories,
    row.semanticKey = some key ∧ row.publicId = some (pinnedUuid7 key) ∧ row.lifecycle = "active"
  answeredCategories : ∀ key ∈ categoryKeys, ∃ item ∈ answer.categories,
    item.semanticKey = some key ∧ item.publicId = some (pinnedUuid7 key) ∧ item.lifecycle = some "active"
  answeredSubcategories : ∀ key ∈ subcategoryKeys, ∃ item ∈ answer.subcategories,
    item.semanticKey = some key ∧ item.publicId = some (pinnedUuid7 key) ∧ item.lifecycle = some "active"

/-- The taxonomy comes after the legacy categories. -/
def categoryIdOf (key : String) : ℤ := 11 + categoryKeys.idxOf key

def subcategoryIdOf (key : String) : ℤ := 42 + subcategoryKeys.idxOf key

def parentIdOf (key : String) : ℤ := ((parentOf key).map categoryIdOf).getD 0

def seededCategory (entry : String × String) : CategoryModel where
  id := categoryIdOf entry.1
  name := entry.1
  type := entry.2
  publicId := some (pinnedUuid7 entry.1)
  semanticKey := some entry.1
  lifecycle := some "active"

def seededSubcategory (key : String) : SubCategoryModel where
  id := subcategoryIdOf key
  name := key
  categoryId := parentIdOf key
  publicId := some (pinnedUuid7 key)
  semanticKey := some key
  lifecycle := some "active"

def seededAnswer : TaxonomyAnswer where
  categories := parents.map fun entry =>
    { id := categoryIdOf entry.1, name := entry.1, type := entry.2, semanticKey := some entry.1
      publicId := some (pinnedUuid7 entry.1), lifecycle := some "active" }
  subcategories := subcategoryKeys.map fun key =>
    { id := subcategoryIdOf key, categoryId := parentIdOf key, name := key, semanticKey := some key
      publicId := some (pinnedUuid7 key), lifecycle := some "active" }

def seeded (model : Transaction) (fits : fitsInteger model.id = true) : Services where
  transactions :=
    { categories := parents.map seededCategory
      subcategories := subcategoryKeys.map seededSubcategory
      transactions := [model]
      distinct := List.nodup_singleton model.id
      ids := by
        intro _ member
        rw [List.mem_singleton.mp member]
        exact fits }
  budgets :=
    { budgets := [], lines := [], monthlyBudgets := [], distinctBudgets := List.nodup_nil
      distinctLines := List.nodup_nil }
  categorization :=
    { categories := parents.map fun entry => ⟨categoryIdOf entry.1, "active"⟩
      subcategories := subcategoryKeys.map fun key =>
        ⟨subcategoryIdOf key, parentIdOf key, some (pinnedUuid7 key), some key, "active"⟩
      results := [], rules := [], distinctResults := List.nodup_nil, distinctRules := List.nodup_nil }
  evidence := none
  taxonomy := some (taxonomyResolver (some seededAnswer))
  categories := FinanceTracker.Budget.Reclassification.resolveIdentity
    (some (seededAnswer.categories.map budgetCategory))

section Seeded

variable {model : Transaction} {fits : fitsInteger model.id = true}

theorem seeded_present : Present (seeded model fits) seededAnswer := by
  refine ⟨rfl, rfl, ?_, ?_, ?_, ?_, ?_⟩
  · intro _ member
    obtain ⟨_, stored, rfl⟩ := mem_map.mp member
    exact ⟨_, mem_map_of_mem stored, rfl, rfl, rfl⟩
  · exact fun key member => ⟨_, mem_map_of_mem member, rfl, rfl, rfl⟩
  · exact fun key member => ⟨_, mem_map_of_mem member, rfl, rfl, rfl⟩
  · intro _ member
    obtain ⟨_, stored, rfl⟩ := mem_map.mp member
    exact ⟨_, mem_map_of_mem stored, rfl, rfl, rfl⟩
  · exact fun key member => ⟨_, mem_map_of_mem member, rfl, rfl, rfl⟩

theorem resolver_answer {answer : TaxonomyAnswer} {key publicId : String}
    {resolved : ResolvedTaxonomyTarget}
    (returned : taxonomyResolver (some answer) key publicId = .ok (some resolved)) :
    ∃ item ∈ answer.subcategories, strOf item.semanticKey = key := by
  unfold taxonomyResolver at returned
  obtain ⟨_, isTargets, returned⟩ := bind_eq_ok.mp returned
  have found := Except.ok.inj returned
  have isKey := List.find?_some found
  simp only [Bool.and_eq_true, decide_eq_true_eq] at isKey
  have member := mem_reverse.mp (mem_of_find?_eq_some found)
  obtain ⟨item, stored, made⟩ := map_m_mem isTargets (some resolved) (reduceOption_mem_iff.mp member)
  refine ⟨item, stored, ?_⟩
  unfold targetOfItem at made
  split at made
  · contradiction
  · have isTarget := Except.ok.inj made
    split at isTarget
    · rw [← isKey.1, ← Option.some.inj isTarget]
      rfl
    · contradiction

theorem seeded_leaves_only : LeavesOnly (seeded model fits) := by
  constructor
  · intro _ member key isCategory isKey
    obtain ⟨_, stored, rfl⟩ := mem_map.mp member
    exact category_not_subcategory key isCategory (Option.some.inj isKey ▸ stored)
  · intro _ isResolver key isCategory _ _ returned
    cases isResolver
    obtain ⟨_, stored, isKey⟩ := resolver_answer returned
    obtain ⟨_, isSubcategory, rfl⟩ := mem_map.mp stored
    exact category_not_subcategory key isCategory (isKey ▸ isSubcategory)

end Seeded

structure AtLeaf (model : Transaction) : Prop where
  live : model.deleted = false
  unprotected : isProtected model.categorizationTier = false
  subcategory : ∃ entry ∈ safeSubcategoryTargets, model.subcategoryId = some entry.1

theorem safe_subcategories : ∀ entry ∈ safeSubcategoryTargets,
    (1 ≤ entry.1 ∧ entry.1 ≤ 41) ∧ entry.2 ∈ subcategoryKeys := by
  decide +kernel

theorem leaf_proposed {model : Transaction} (leaf : AtLeaf model) (evidence : Option EvidenceResolution) :
    ∃ key ∈ subcategoryKeys,
      proposedTarget mappingRegistry evidence model = some ⟨key, pinnedUuid7 key⟩ := by
  obtain ⟨entry, safe, isSubcategory⟩ := leaf.subcategory
  obtain ⟨bounds, isKey⟩ := safe_subcategories entry safe
  have distinct : DistinctKeys LegacyProposal.legacyId subcategoryProposals := by
    unfold DistinctKeys
    decide
  have found : lookup LegacyProposal.legacyId subcategoryProposals entry.1 =
      some ⟨entry.1, .safeOneToOne, "direct_leaf_mapping", [entry.2]⟩ :=
    (lookup_iff distinct).mpr ⟨mem_append_left _ (mem_map_of_mem safe), rfl⟩
  have isProposal : proposalOf mappingRegistry model.categoryId model.subcategoryId =
      some (LegacyProposal.entry ⟨entry.1, .safeOneToOne, "direct_leaf_mapping", [entry.2]⟩) := by
    unfold proposalOf
    rw [isSubcategory]
    dsimp only
    rw [registry_subcategory, found]
    rfl
  refine ⟨entry.2, isKey, safe_proposed ?_ leaf.unprotected isProposal evidence⟩
  rw [isSubcategory]
  simp [isLegacyLeaf, bounds]

section SeededLeaf

variable {model : Transaction} {fits : fitsInteger model.id = true}

theorem seeded_category {entry : String × String} (stored : entry ∈ parents) :
    getCategory (seeded model fits).transactions.toDatabase (categoryIdOf entry.1) =
      some (seededCategory entry) := by
  have ids : (parents.map fun entry => categoryIdOf entry.1).Nodup := by decide +kernel
  have distinct : DistinctKeys CategoryModel.id (parents.map seededCategory) := by
    unfold DistinctKeys
    rw [map_map]
    exact ids
  exact (lookup_iff distinct).mpr ⟨mem_map_of_mem stored, rfl⟩

theorem seeded_names {key : String} (isKey : key ∈ subcategoryKeys) (resolver : Option TaxonomyResolver) :
    Transaction.ProposedTargets.Names (seeded model fits).transactions.toDatabase resolver key
      (pinnedUuid7 key) (seededSubcategory key) := by
  have same : ∀ other ∈ subcategoryKeys,
      (hasIdentity key (pinnedUuid7 key) ∘ seededSubcategory) other = (other == key) := by
    intro other _
    by_cases isSame : other = key
    · simp [hasIdentity, seededSubcategory, isSame]
    · simp [hasIdentity, seededSubcategory, isSame]
  left
  simp only [seeded]
  rw [filter_map, filter_congr same, filter_beq,
    count_eq_one_of_mem subcategory_keys_distinct isKey]
  rfl

theorem seeded_ready (leaf : AtLeaf model) :
    Transaction.ProposedTargets.Ready (seeded model fits).transactions.toDatabase
      (seeded model fits).taxonomy mappingRegistry none := by
  intro evidence _ _ stored _ _ proposed
  rw [mem_singleton.mp stored] at proposed ⊢
  obtain ⟨key, isKey, isTarget⟩ := leaf_proposed leaf (evidenceOf evidence model)
  cases isTarget.symm.trans proposed
  obtain ⟨_, isParent, isCategory⟩ := parent_known key isKey
  obtain ⟨entry, isEntry, rfl⟩ := mem_map.mp isCategory
  have parentId : (seededSubcategory key).categoryId = categoryIdOf entry.1 := by
    simp only [seededSubcategory, parentIdOf, isParent]
    rfl
  refine ⟨seededSubcategory key, seededCategory entry, seeded_names isKey _, ?_, rfl, ?_⟩
  · rw [parentId]
    exact seeded_category isEntry
  · rintro ⟨_, there⟩
    obtain ⟨legacy, safe, isSubcategory⟩ := leaf.subcategory
    obtain ⟨_, _⟩ := safe_subcategories legacy safe
    rw [isSubcategory] at there
    have same : legacy.1 = subcategoryIdOf key := Option.some.inj there
    unfold subcategoryIdOf at same
    omega

end SeededLeaf

section Agreement

variable {services : Services} {directory : Directory} (run : Run services directory)

/-- Accepted reports agree with the dry runs exactly where every row can be carried out. -/
theorem scans_agree_iff {floatStr : String → String} {baseline : Option JsonValue} {summary : Summary}
    (accepted : aggregate floatStr directory baseline = .ok summary) : Agrees run ↔ Ready run := by
  obtain ⟨budgets, categorization, transactions, made⟩ := accepted_manifests run accepted
  constructor
  · rintro ⟨budgetFile, categorizationFile, transactionFile, isWritten, budgetAgrees,
      categorizationAgrees, transactionAgrees⟩
    cases made.written.symm.trans isWritten
    exact ⟨made.budgetIff.mp budgetAgrees, made.categorizationIff.mp categorizationAgrees,
      made.transactionIff.mp transactionAgrees⟩
  · intro ready
    exact ⟨budgets, categorization, transactions, made.written, made.budgetIff.mpr ready.budgets,
      made.categorizationIff.mpr ready.categorization, made.transactionIff.mpr ready.transactions⟩

end Agreement

/-- At the legacy category 2, with or without a subcategory of it. -/
def rentOfJuly (subcategoryId : Option ℤ) : Transaction where
  id := 1
  userId := 7
  accountId := 1
  accountName := "Budget account"
  categoryId := some 2
  categoryName := some "Bolig"
  amount := -895000
  transactionType := .expense
  description := some "Husleje juli"
  date := ⟨2026, 7, 14, by decide⟩
  subcategoryId
  categorizationTier := some "rule"

def rentRow (subcategoryId : Option ℤ) (key reasonCode : String) : ReportRow where
  sourceKind := "transaction"
  sourceId := intText 1
  legacyCategoryId := some 2
  legacySubcategoryId := subcategoryId
  disposition := .safeOneToOne
  reasonCode
  targetKey := some key
  targetPublicId := some (pinnedUuid7 key)
  amount := some (centsText (-895000))

section Rent

variable {subcategoryId : Option ℤ} {legacyId : ℤ} {key reasonCode : String}

theorem rent_row
    (legacy : (isLegacyLeaf subcategoryId || isLegacyParent (some 2) subcategoryId) = true)
    (proposed : proposalOf mappingRegistry (some 2) subcategoryId =
      some (LegacyProposal.entry ⟨legacyId, .safeOneToOne, reasonCode, [key]⟩))
    (sameType : key ∉ typeChangingTargets) :
    transactionRow mappingRegistry [] (rentOfJuly subcategoryId) =
      some (rentRow subcategoryId key reasonCode) := by
  have unprotected : isProtected (some "rule") = false := by decide +kernel
  have disposition : dispositionOf (some "rule")
      (some (LegacyProposal.entry ⟨legacyId, .safeOneToOne, reasonCode, [key]⟩)) none =
        (.safeOneToOne, reasonCode) := by
    unfold dispositionOf
    rw [unprotected]
    rfl
  have isTarget : targetOf .safeOneToOne
      (some (LegacyProposal.entry ⟨legacyId, .safeOneToOne, reasonCode, [key]⟩)) none =
        some ⟨key, pinnedUuid7 key⟩ := rfl
  have noEvidence : Option.map Prod.snd (lookup Prod.fst ([] : List (ℕ × EvidenceResolution)) 1) =
      none := rfl
  unfold transactionRow proposalRow rentOfJuly
  rw [if_pos legacy, proposed]
  dsimp only
  rw [noEvidence, disposition, isTarget]
  simp [rentRow, sameType]

theorem rent_row_acceptable (explained : reasonCode ≠ "")
    (selected : (selectRow "transaction-service" ["transaction"] (registryObject mappingRegistry)
      (rowObject (rentRow subcategoryId key reasonCode)) ("transaction", intText 1)).isOk = true)
    (unmoved : beforeGroup (rowObject (rentRow subcategoryId key reasonCode)) =
      afterGroup (rowObject (rentRow subcategoryId key reasonCode)))
    (short : ∀ id, subcategoryId = some id → (writeInt id).isSome = true) :
    Acceptable mappingRegistry "transaction-service" ["transaction"]
      (rentRow subcategoryId key reasonCode) where
  explained
  amount := ⟨_, -8950, rfl, by decide +kernel⟩
  unmoved
  selected
  categoryId := by
    intro _ isCategory
    cases isCategory
    decide
  subcategoryId := short

theorem rent_takes
    (isRow : transactionRow mappingRegistry [] (rentOfJuly subcategoryId) =
      some (rentRow subcategoryId key reasonCode))
    (acceptable : Acceptable mappingRegistry "transaction-service" ["transaction"]
      (rentRow subcategoryId key reasonCode))
    (runId capturedAt : String) {sha256 : String} (isSha : mappingRegistry.sha256 = some sha256) :
    TakesScans (seeded (rentOfJuly subcategoryId) rfl) runId capturedAt sha256 := by
  have zero : (writeInt 0).isSome = true := value_short (by decide)
  have one : (writeInt 1).isSome = true := value_short (by decide)
  constructor
  · refine ⟨_, by
      unfold scanBudgets
      rw [Budget.ProposedTargets.lines_with_rows, isSha]
      rfl, rfl, rfl, rfl, rfl, rfl, rfl, rfl, ?_, Nat.zero_le _, ?_, ?_⟩
    · exact ⟨trivial, ⟨zero, zero, zero, trivial⟩, ⟨trivial, trivial⟩, trivial, trivial, trivial⟩
    · exact nodup_nil
    · exact fun _ member => (by cases member)
  · refine ⟨_, by
      unfold scanCategorization
      rw [mapping_sha_canonical, isSha]
      rfl, rfl, rfl, rfl, rfl, rfl, rfl, rfl, ?_, Nat.zero_le _, ?_, ?_⟩
    · exact ⟨trivial, ⟨zero, zero, trivial⟩, ⟨trivial, trivial⟩, trivial, trivial, trivial⟩
    · exact nodup_nil
    · exact fun _ member => (by cases member)
  · have isLive : liveTransactions (seeded (rentOfJuly subcategoryId) rfl).transactions.toDatabase =
        [rentOfJuly subcategoryId] := rfl
    have isSnapshot : ShortInts (.obj (SnapshotBoundary.asDict (snapshotOf
        (seeded (rentOfJuly subcategoryId) rfl).transactions.toDatabase capturedAt))) := by
      refine ⟨trivial, ⟨one, zero, trivial⟩, ⟨⟨one, trivial⟩, ?_, trivial⟩, trivial, trivial, trivial⟩
      cases subcategoryId with
      | none => exact trivial
      | some _ => exact ⟨one, trivial⟩
    have resolved : resolveEvidence [rentOfJuly subcategoryId] mappingRegistry none = some [] := by
      unfold resolveEvidence
      dsimp only
      split <;> first | rfl | contradiction
    have isRows : [rentOfJuly subcategoryId].filterMap (transactionRow mappingRegistry []) ++ [] =
        [rentRow subcategoryId key reasonCode] := by
      rw [filterMap_cons_some isRow]
      rfl
    refine ⟨_, by
      unfold scanTransactions
      rw [isLive, show (seeded (rentOfJuly subcategoryId) rfl).evidence = none from rfl, resolved,
        isSha]
      rfl, rfl, rfl, rfl, rfl, rfl, rfl, rfl, isSnapshot, ?_, ?_, ?_⟩
    · change (_ ++ []).length ≤ _
      rw [isRows]
      exact Nat.one_le_two_pow
    · change ((_ ++ []).map pairOf).Nodup
      rw [isRows]
      exact nodup_singleton _
    · change ∀ row ∈ _ ++ [], _
      rw [isRows]
      exact forall_mem_singleton.mpr acceptable

theorem rent_run
    (isRow : transactionRow mappingRegistry [] (rentOfJuly subcategoryId) =
      some (rentRow subcategoryId key reasonCode))
    (acceptable : Acceptable mappingRegistry "transaction-service" ["transaction"]
      (rentRow subcategoryId key reasonCode)) :
    ∃ (directory : Directory) (_ : Run (seeded (rentOfJuly subcategoryId) rfl) directory)
      (summary : Summary), aggregate (fun text => text) directory none = .ok summary := by
  have takes (runId capturedAt sha256 : String) (isSha : mappingRegistry.sha256 = some sha256) :=
    rent_takes isRow acceptable runId capturedAt isSha
  obtain ⟨directory, ⟨run⟩⟩ := run_of_takes takes
  obtain ⟨summary, accepted⟩ := run_of_takes_accepted takes run fun text => text
  exact ⟨directory, run, summary, accepted⟩

end Rent

/-- With its subcategory the transaction is moved to the rent of the seeded taxonomy. -/
theorem rent_with_subcategory_agrees :
    ∃ (directory : Directory) (run : Run (seeded (rentOfJuly (some 6)) rfl) directory) (summary : Summary),
      aggregate (fun text => text) directory none = .ok summary ∧ Agrees run := by
  obtain ⟨directory, run, summary, accepted⟩ := rent_run
    (rent_row (by decide) rfl (by decide) : _ = some (rentRow (some 6) "rent" "direct_leaf_mapping"))
    (rent_row_acceptable (by decide) (by decide +kernel) (by decide +kernel) (by decide))
  have leaf : AtLeaf (rentOfJuly (some 6)) := ⟨rfl, by decide +kernel, (6, "rent"), by decide, rfl⟩
  refine ⟨directory, run, summary, accepted, (scans_agree_iff run accepted).mpr ⟨?_, ?_, ?_⟩⟩
  · exact ⟨fun _ member => (by cases member), fun _ member => (by cases member)⟩
  · exact ⟨fun _ member => (by cases member), fun _ member => (by cases member)⟩
  · rw [run_mapping run]
    exact seeded_ready leaf

/-- Without one its target is the category of the seeded taxonomy, and the dry run raises. -/
theorem rent_without_subcategory_disagrees :
    ∃ (directory : Directory) (run : Run (seeded (rentOfJuly none) rfl) directory) (summary : Summary),
      Present (seeded (rentOfJuly none) rfl) seededAnswer ∧
        aggregate (fun text => text) directory none = .ok summary ∧ ¬Agrees run := by
  obtain ⟨directory, run, summary, accepted⟩ := rent_run
    (rent_row (by decide) rfl (by decide) : _ = some (rentRow none "housing" "direct_parent_mapping"))
    (rent_row_acceptable (by decide) (by decide +kernel) (by decide +kernel) (by decide))
  have parent : AtParent (rentOfJuly none) := ⟨rfl, by decide +kernel, rfl, (2, "housing"), by decide, rfl⟩
  exact ⟨directory, run, summary, seeded_present, accepted,
    parent_transaction_disagrees run accepted seeded_leaves_only mem_cons_self parent⟩

end FinanceTracker.System.ScanAgreement
