import FinanceTracker.Reclassification.Selection
import FinanceTracker.Transaction.Reclassification

/-!
# The targets that the transaction scan proposes

Which transactions the execution manifest of a scan carries, and when a dry run on the
scanned database validates such a row.
-/

namespace FinanceTracker.Transaction.ProposedTargets

open Library ColumnTypes IntText KeyedRows Runs SortedBy Reclassification.Contracts
  Reclassification.Selection Reclassification.Writers Domain Transaction.Reclassification

def proposedTarget (mapping : MappingRegistry) (evidence : Option EvidenceResolution)
    (model : Transaction) : Option MappingTarget :=
  if (isLegacyLeaf model.subcategoryId || isLegacyParent model.categoryId model.subcategoryId) &&
    !isProtected model.categorizationTier then
    (proposalOf mapping model.categoryId model.subcategoryId).bind fun entry =>
      match entry.disposition with
      | .safeOneToOne => if entry.targets.length = 1 then entry.targets.head? else none
      | .evidenceProposal => evidenceTarget entry evidence
      | _ => none
  else none

def evidenceOf (evidence : List (ℕ × EvidenceResolution)) (model : Transaction) :
    Option EvidenceResolution :=
  (lookup Prod.fst evidence model.id).map Prod.snd

def NamedTargets (mapping : MappingRegistry) : Prop :=
  ∀ entry ∈ mapping.categories ++ mapping.subcategories, ∀ target ∈ entry.targets,
    target.key ≠ "" ∧ target.publicId ≠ ""

theorem proposal_entry {mapping : MappingRegistry} {categoryId subcategoryId : Option ℤ}
    {entry : MappingEntry} (found : proposalOf mapping categoryId subcategoryId = some entry) :
    entry ∈ mapping.categories ++ mapping.subcategories := by
  unfold proposalOf at found
  split at found
  · exact List.mem_append_right _ (lookup_mem found).1
  · exact List.mem_append_left _ (lookup_mem found).1

theorem evidence_target_mem {entry : MappingEntry} {evidence : Option EvidenceResolution}
    {target : MappingTarget} (found : evidenceTarget entry evidence = some target) :
    target ∈ entry.targets := by
  unfold evidenceTarget at found
  obtain ⟨_, _, found⟩ := Option.bind_eq_some_iff.mp found
  exact List.mem_of_find?_eq_some found

theorem target_mem {disposition : Disposition} {proposal : Option MappingEntry}
    {evidence : Option EvidenceResolution} {target : MappingTarget}
    (found : targetOf disposition proposal evidence = some target) :
    ∃ entry, proposal = some entry ∧ target ∈ entry.targets := by
  unfold targetOf at found
  obtain ⟨entry, isEntry, found⟩ := Option.bind_eq_some_iff.mp found
  refine ⟨entry, isEntry, ?_⟩
  split at found
  · exact List.mem_of_mem_head? found
  split at found
  · exact evidence_target_mem found
  · contradiction

/-- The row of a transaction is one to write exactly where a target is proposed for it. -/
theorem decided_target {categorizationTier : Option String} {proposal : Option MappingEntry}
    {evidence : Option EvidenceResolution} {target : MappingTarget} :
    (let disposition := (dispositionOf categorizationTier proposal evidence).1
    (disposition = .safeOneToOne ∨ disposition = .evidenceProposal) ∧
      targetOf disposition proposal evidence = some target) ↔
    isProtected categorizationTier = false ∧ ∃ entry, proposal = some entry ∧
      (match entry.disposition with
      | .safeOneToOne => if entry.targets.length = 1 then entry.targets.head? else none
      | .evidenceProposal => evidenceTarget entry evidence
      | _ => none) = some target := by
  unfold dispositionOf
  cases protectedTier : isProtected categorizationTier with
  | true => simp [targetOf]
  | false =>
    cases proposal with
    | none => simp [targetOf]
    | some entry =>
      cases isDisposition : entry.disposition with
      | evidenceProposal =>
        cases evidence with
        | none => simp [evidenceTarget, targetOf, isDisposition]
        | some resolution =>
          cases found : evidenceTarget entry (some resolution) <;>
            simp [targetOf, isDisposition, found]
      | _ => simp [targetOf, isDisposition]

structure Proposes (model : Transaction) (target : MappingTarget) (executed : ExecutionRow) :
    Prop where
  kind : executed.sourceKind = "transaction"
  sourceId : executed.sourceId = intText model.id
  legacyCategoryId : executed.legacyCategoryId = model.categoryId
  legacySubcategoryId : executed.legacySubcategoryId = model.subcategoryId
  targetKey : executed.targetKey = target.key
  targetPublicId : executed.targetPublicId = target.publicId

section Scan

variable {mapping : MappingRegistry} {evidence : List (ℕ × EvidenceResolution)}
  {model : Transaction}

theorem transaction_carried {row : ReportRow} {executed : ExecutionRow}
    (scanned : transactionRow mapping evidence model = some row)
    (carries : Carries ["transaction"] row executed) :
    ∃ target, proposedTarget mapping (evidenceOf evidence model) model = some target ∧
      Proposes model target executed := by
  unfold transactionRow proposalRow at scanned
  split at scanned
  · next legacy =>
    cases scanned
    obtain ⟨target, isTarget, isKey⟩ := Option.map_eq_some_iff.mp carries.targetKey.1
    have isPublicId := carries.targetPublicId.1
    rw [isTarget] at isPublicId
    obtain ⟨unprotected, decided⟩ := decided_target.mp ⟨carries.executable, isTarget⟩
    obtain ⟨entry, isEntry, chosen⟩ := decided
    refine ⟨target, ?_, carries.kind, carries.sourceId, carries.legacyCategoryId,
      carries.legacySubcategoryId, isKey.symm, (Option.some.inj isPublicId).symm⟩
    unfold proposedTarget
    rw [legacy, unprotected]
    exact Option.bind_eq_some_iff.mpr ⟨entry, isEntry, chosen⟩
  · contradiction

theorem proposed_carried (named : NamedTargets mapping) {target : MappingTarget}
    (proposed : proposedTarget mapping (evidenceOf evidence model) model = some target) :
    ∃ row executed, transactionRow mapping evidence model = some row ∧
      Carries ["transaction"] row executed ∧ Proposes model target executed ∧
        isProtected model.categorizationTier = false := by
  unfold proposedTarget at proposed
  split at proposed
  · next conditions =>
    obtain ⟨legacy, unprotected⟩ := Bool.and_eq_true_iff.mp conditions
    rw [Bool.not_eq_true'] at unprotected
    obtain ⟨entry, isEntry, chosen⟩ := Option.bind_eq_some_iff.mp proposed
    obtain ⟨executable, isTarget⟩ := decided_target.mpr ⟨unprotected, entry, isEntry, chosen⟩
    obtain ⟨_, sameEntry, member⟩ := target_mem isTarget
    cases isEntry.symm.trans sameEntry
    obtain ⟨keyGiven, publicIdGiven⟩ := named entry (proposal_entry isEntry) target member
    unfold evidenceOf at executable isTarget
    refine ⟨_, ⟨"transaction", intText model.id, model.categoryId, model.subcategoryId, _, _,
      target.key, target.publicId⟩, if_pos legacy, ⟨rfl, List.mem_singleton_self _, rfl, rfl, rfl,
        rfl, executable, rfl, ⟨?_, keyGiven⟩, ⟨?_, publicIdGiven⟩⟩, ⟨rfl, rfl, rfl, rfl, rfl, rfl⟩,
        unprotected⟩
    · exact congrArg (Option.map MappingTarget.key) isTarget
    · exact congrArg (Option.map MappingTarget.publicId) isTarget
  · contradiction

theorem proposal_row_kind {sourceKind : String} {sourceId amount : ℤ}
    {categoryId subcategoryId : Option ℤ} {categorizationTier : Option String}
    {resolution : Option EvidenceResolution} {row : ReportRow}
    (scanned : proposalRow sourceKind sourceId categoryId subcategoryId amount categorizationTier mapping
      resolution = some row) : row.sourceKind = sourceKind := by
  unfold proposalRow at scanned
  split at scanned
  · cases scanned
    rfl
  · contradiction

theorem planned_not_carried {planned : PlannedTransaction} {row : ReportRow} {executed : ExecutionRow}
    (scanned : plannedRow mapping planned = some row) : ¬Carries ["transaction"] row executed := by
  intro carries
  have writable := carries.writable
  rw [proposal_row_kind scanned] at writable
  exact absurd writable (by decide)

end Scan

theorem manifest_row_iff (service digest : String) {db : Database} {runId capturedAt : String}
    {mapping : MappingRegistry} {categorizer : Option EvidenceCategorizer} {report : ServiceReport}
    {normalized : ServiceReport} (scanned : scanTransactions db runId capturedAt mapping categorizer =
      some report) (rows : normalized.rows = sortedBy ReportRow.identity report.rows) :
    ∃ evidence, resolveEvidence (liveTransactions db) mapping categorizer = some evidence ∧
      ∀ executed, executed ∈ (manifestOf ["transaction"] service normalized digest).rows ↔
        ∃ model ∈ db.transactions, model.deleted = false ∧ ∃ row,
          transactionRow mapping evidence model = some row ∧ Carries ["transaction"] row executed := by
  unfold scanTransactions at scanned
  obtain ⟨evidence, isEvidence, scanned⟩ := Option.bind_eq_some_iff.mp scanned
  obtain ⟨_, _, scanned⟩ := Option.bind_eq_some_iff.mp scanned
  cases scanned
  refine ⟨evidence, isEvidence, fun executed => ?_⟩
  have live (model : Transaction) : model ∈ liveTransactions db ↔
      model ∈ db.transactions ∧ model.deleted = false := by
    unfold liveTransactions
    rw [mem_sorted_iff, List.mem_filter, Bool.not_eq_true']
  unfold manifestOf
  rw [List.mem_filterMap, rows]
  constructor
  · rintro ⟨row, stored, found⟩
    have carries := carries_iff.mp found
    rw [mem_sorted_iff, List.mem_append, List.mem_filterMap, List.mem_filterMap] at stored
    rcases stored with ⟨model, isLive, isRow⟩ | ⟨planned, _, isRow⟩
    · obtain ⟨member, notDeleted⟩ := (live model).mp isLive
      exact ⟨model, member, notDeleted, row, isRow, carries⟩
    · exact absurd carries (planned_not_carried isRow)
  · rintro ⟨model, member, notDeleted, row, isRow, carries⟩
    refine ⟨row, ?_, carries_iff.mpr carries⟩
    rw [mem_sorted_iff, List.mem_append, List.mem_filterMap]
    exact Or.inl ⟨model, (live model).mpr ⟨member, notDeleted⟩, isRow⟩

/-- The subcategory that the resolved target is or would be; nothing stored contradicts it. -/
structure Agreed (db : Database) (resolved : ResolvedTaxonomyTarget) (leaf : SubCategoryModel) :
    Prop where
  parents : ∀ parent, getCategory db resolved.categoryId = some parent →
    parent.publicId = some resolved.categoryPublicId ∧ parent.semanticKey = some resolved.categoryKey
  stored : leaf = (getSubcategory db resolved.subcategoryId).getD resolved.subcategory
  identity : leaf.publicId = some resolved.subcategoryPublicId ∧
    leaf.semanticKey = some resolved.subcategoryKey ∧ leaf.categoryId = resolved.categoryId

/-- The subcategory of a key and a public id: the only active one of the read copy, or where
there is none the one that the taxonomy answers. -/
def Names (db : Database) (resolver : Option TaxonomyResolver) (targetKey targetPublicId : String)
    (leaf : SubCategoryModel) : Prop :=
  db.subcategories.filter (hasIdentity targetKey targetPublicId) = [leaf] ∨
    (db.subcategories.filter (hasIdentity targetKey targetPublicId) = [] ∧
      ∃ resolve resolved, resolver = some resolve ∧
        resolve targetKey targetPublicId = .ok (some resolved) ∧ Agreed db resolved leaf)

/-- A target that the transaction can be moved to: an active category and subcategory that
are not its own. -/
def Reachable (db : Database) (resolver : Option TaxonomyResolver) (target : MappingTarget)
    (categoryId subcategoryId : Option ℤ) : Prop :=
  ∃ leaf parent, Names db resolver target.key target.publicId leaf ∧
    getCategory db leaf.categoryId = some parent ∧ parent.lifecycle = some "active" ∧
      ¬(categoryId = some parent.id ∧ subcategoryId = some leaf.id)

section DryRun

variable {db after : Database} {resolver : Option TaxonomyResolver} {row : ExecutionRow}

theorem repair_category_dry {resolved : ResolvedTaxonomyTarget} :
    repairCategory false db resolved = .ok after ↔ after = db ∧
      ∀ parent, getCategory db resolved.categoryId = some parent →
        parent.publicId = some resolved.categoryPublicId ∧
          parent.semanticKey = some resolved.categoryKey := by
  unfold repairCategory
  cases found : getCategory db resolved.categoryId with
  | none => simp [eq_comm]
  | some parent =>
    by_cases same : parent.publicId = some resolved.categoryPublicId ∧
      parent.semanticKey = some resolved.categoryKey
    · simp [same, eq_comm]
    · simp [same]

variable {leaf : SubCategoryModel} {target : MappingTarget}

theorem repair_subcategory_dry {resolved : ResolvedTaxonomyTarget} :
    repairSubcategory false db resolved = .ok (after, leaf) ↔ after = db ∧
      leaf = (getSubcategory db resolved.subcategoryId).getD resolved.subcategory ∧
      leaf.publicId = some resolved.subcategoryPublicId ∧
        leaf.semanticKey = some resolved.subcategoryKey ∧ leaf.categoryId = resolved.categoryId := by
  unfold repairSubcategory
  cases found : getSubcategory db resolved.subcategoryId with
  | none =>
    simp only [Bool.false_eq_true, if_false, Except.ok.injEq, Prod.mk.injEq, Option.getD_none]
    constructor
    · rintro ⟨rfl, rfl⟩
      exact ⟨rfl, rfl, rfl, rfl, rfl⟩
    · rintro ⟨rfl, rfl, _⟩
      exact ⟨rfl, rfl⟩
  | some =>
    simp only [Option.getD_some]
    split
    · next same =>
      simp only [Except.ok.injEq, Prod.mk.injEq]
      constructor
      · rintro ⟨rfl, rfl⟩
        exact ⟨rfl, rfl, same⟩
      · rintro ⟨rfl, rfl, _⟩
        exact ⟨rfl, rfl⟩
    · next other =>
      constructor
      · intro returned
        cases returned
      · rintro ⟨_, rfl, same⟩
        exact absurd same other

theorem resolve_target_dry : resolveTarget false resolver db row = .ok (after, leaf) ↔
      after = db ∧ Names db resolver row.targetKey row.targetPublicId leaf := by
  unfold resolveTarget Names
  cases found : db.subcategories.filter (hasIdentity row.targetKey row.targetPublicId) with
  | cons stored others =>
    cases others with
    | nil => simp [scalarOneOrNone, ok_bind, eq_comm]
    | cons => simp [scalarOneOrNone, error_bind]
  | nil =>
    cases resolver with
    | none => simp [scalarOneOrNone, ok_bind]
    | some resolve =>
      simp only [scalarOneOrNone, ok_bind, reduceCtorEq, false_or, true_and, Option.some.injEq]
      constructor
      · intro returned
        obtain ⟨answer, isAnswer, returned⟩ := bind_eq_ok.mp returned
        cases answer with
        | none => cases returned
        | some resolved =>
          obtain ⟨_, isRepaired, isLeaf⟩ := bind_eq_ok.mp returned
          obtain ⟨rfl, parents⟩ := repair_category_dry.mp isRepaired
          obtain ⟨rfl, stored, identity⟩ := repair_subcategory_dry.mp isLeaf
          exact ⟨rfl, resolve, resolved, rfl, isAnswer, parents, stored, identity⟩
      · rintro ⟨rfl, _, resolved, rfl, isAnswer, parents, stored, identity⟩
        exact bind_eq_ok.mpr ⟨some resolved, isAnswer,
          bind_eq_ok.mpr ⟨after, repair_category_dry.mpr ⟨rfl, parents⟩,
            repair_subcategory_dry.mpr ⟨rfl, stored, identity⟩⟩⟩

theorem active_parent_ok {parent : CategoryModel} : activeParent db leaf row = .ok parent ↔
      getCategory db leaf.categoryId = some parent ∧ parent.lifecycle = some "active" := by
  unfold activeParent
  cases getCategory db leaf.categoryId with
  | none => simp
  | some =>
    simp only [Option.some.injEq]
    split
    · next active =>
      simp only [Except.ok.injEq]
      exact ⟨fun same => ⟨same, same ▸ active⟩, And.left⟩
    · next inactive =>
      constructor
      · intro returned
        cases returned
      · rintro ⟨rfl, active⟩
        exact absurd active inactive

theorem proposed_found {db : StoredDatabase} {model : Transaction}
    (stored : model ∈ db.transactions) (proposes : Proposes model target row) :
    sourceIdOf row = .ok (model.id : ℤ) ∧ getTransaction db.toDatabase model.id = some model := by
  constructor
  · unfold sourceIdOf
    rw [proposes.sourceId, int_of_column_text ⟨model.id, db.ids model stored⟩]
  · have found := (lookup_iff db.distinct).mpr ⟨stored, rfl⟩
    unfold getTransaction
    simpa only [lookup, Nat.cast_inj] using found

theorem applied_dry {db : StoredDatabase} {model : Transaction} {outcome : Outcome}
    (stored : model ∈ db.transactions) (live : model.deleted = false)
    (unprotected : isProtected model.categorizationTier = false)
    (proposes : Proposes model target row) :
    applyRow false resolver db.toDatabase row = .ok (after, outcome) ↔
      after = db.toDatabase ∧ ∃ leaf parent,
        Names db.toDatabase resolver target.key target.publicId leaf ∧
        getCategory db.toDatabase leaf.categoryId = some parent ∧ parent.lifecycle = some "active" ∧
        outcome = if model.categoryId = some parent.id ∧ model.subcategoryId = some leaf.id
          then .alreadyApplied else .validated := by
  obtain ⟨isId, found⟩ := proposed_found stored proposes
  have tier : isProtectedTier (model.categorizationTier.getD "") = false := by
    cases given : model.categorizationTier with
    | none => decide +kernel
    | some =>
      rw [given] at unprotected
      exact unprotected
  have unchanged (leaf : SubCategoryModel) (parent : CategoryModel) :
      applyTo false db.toDatabase row parent leaf (some model) = (db.toDatabase,
        if model.categoryId = some parent.id ∧ model.subcategoryId = some leaf.id
          then Outcome.alreadyApplied else .validated) := by
    simp only [applyTo, live, tier, proposes.legacyCategoryId, proposes.legacySubcategoryId,
      Bool.false_eq_true, if_false, and_self, not_true_eq_false, written]
    split <;> rfl
  unfold applyRow
  rw [if_neg (not_not.mpr proposes.kind)]
  constructor
  · intro returned
    obtain ⟨⟨_, leaf⟩, isLeaf, returned⟩ := bind_eq_ok.mp returned
    obtain ⟨rfl, names⟩ := resolve_target_dry.mp isLeaf
    obtain ⟨parent, isParent, returned⟩ := bind_eq_ok.mp returned
    obtain ⟨_, isGiven, returned⟩ := bind_eq_ok.mp returned
    cases isId.symm.trans isGiven
    rw [found, unchanged] at returned
    cases returned
    rw [proposes.targetKey, proposes.targetPublicId] at names
    obtain ⟨isStored, active⟩ := active_parent_ok.mp isParent
    exact ⟨rfl, leaf, parent, names, isStored, active, rfl⟩
  · rintro ⟨rfl, leaf, parent, names, isStored, active, rfl⟩
    rw [← proposes.targetKey, ← proposes.targetPublicId] at names
    refine bind_eq_ok.mpr ⟨(db.toDatabase, leaf), resolve_target_dry.mpr ⟨rfl, names⟩,
      bind_eq_ok.mpr ⟨parent, active_parent_ok.mpr ⟨isStored, active⟩,
        bind_eq_ok.mpr ⟨model.id, isId, ?_⟩⟩⟩
    rw [found, unchanged]

def ReachableRow (db : Database) (resolver : Option TaxonomyResolver) (row : ExecutionRow) : Prop :=
  Reachable db resolver ⟨row.targetKey, row.targetPublicId⟩ row.legacyCategoryId
    row.legacySubcategoryId

theorem reachable_row_iff {model : Transaction} (proposes : Proposes model target row) :
    ReachableRow db resolver row ↔
      Reachable db resolver target model.categoryId model.subcategoryId := by
  unfold ReachableRow
  rw [proposes.targetKey, proposes.targetPublicId, proposes.legacyCategoryId,
    proposes.legacySubcategoryId]

theorem proposed_validates {db : StoredDatabase} {model : Transaction}
    (stored : model ∈ db.transactions) (live : model.deleted = false)
    (unprotected : isProtected model.categorizationTier = false)
    (proposes : Proposes model target row) :
    Validates (applyRow false resolver) (fun state => state = db.toDatabase)
      (ReachableRow db.toDatabase resolver) row where
  keeps := by
    rintro state next outcome rfl returned
    exact ((applied_dry stored live unprotected proposes).mp returned).1
  ready := by
    rintro state next rfl returned
    obtain ⟨_, leaf, parent, names, isStored, active, outcome⟩ :=
      (applied_dry stored live unprotected proposes).mp returned
    refine (reachable_row_iff proposes).mpr ⟨leaf, parent, names, isStored, active, fun there => ?_⟩
    rw [if_pos there] at outcome
    cases outcome
  validates := by
    rintro state rfl reachable
    obtain ⟨leaf, parent, names, isStored, active, elsewhere⟩ := (reachable_row_iff proposes).mp reachable
    exact ⟨db.toDatabase, (applied_dry stored live unprotected proposes).mpr
      ⟨rfl, leaf, parent, names, isStored, active, (if_neg elsewhere).symm⟩⟩

end DryRun

/-- Every live transaction with a proposed target can be moved to it. -/
def Ready (db : Database) (resolver : Option TaxonomyResolver) (mapping : MappingRegistry)
    (categorizer : Option EvidenceCategorizer) : Prop :=
  ∀ evidence, resolveEvidence (liveTransactions db) mapping categorizer = some evidence →
    ∀ model ∈ db.transactions, model.deleted = false → ∀ target,
      proposedTarget mapping (evidenceOf evidence model) model = some target →
        Reachable db resolver target model.categoryId model.subcategoryId

theorem proposed_unprotected {mapping : MappingRegistry} {resolution : Option EvidenceResolution}
    {model : Transaction} {target : MappingTarget}
    (proposed : proposedTarget mapping resolution model = some target) :
    isProtected model.categorizationTier = false := by
  unfold proposedTarget at proposed
  split at proposed
  · next conditions =>
    rw [Bool.and_eq_true, Bool.not_eq_true'] at conditions
    exact conditions.2
  · contradiction

theorem dry_run_validates_iff {db : StoredDatabase} {runId capturedAt service digest : String}
    {resolver : Option TaxonomyResolver} {mapping : MappingRegistry} (named : NamedTargets mapping)
    {categorizer : Option EvidenceCategorizer} {report normalized : ServiceReport}
    (scanned : scanTransactions db.toDatabase runId capturedAt mapping categorizer = some report)
    (rows : normalized.rows = sortedBy ReportRow.identity report.rows) :
    let manifest := (manifestOf ["transaction"] service normalized digest).normalized
    (∃ after, applyReclassification false resolver db.toDatabase manifest =
      .ok (after, validatedCounts manifest.rows.length)) ↔
        Ready db.toDatabase resolver mapping categorizer := by
  intro manifest
  obtain ⟨evidence, isEvidence, rowIff⟩ := manifest_row_iff service digest scanned rows
  have carried (executed : ExecutionRow) : executed ∈ manifest.rows ↔
      ∃ model ∈ db.transactions, model.deleted = false ∧ ∃ row,
        transactionRow mapping evidence model = some row ∧ Carries ["transaction"] row executed :=
    (mem_sorted_iff _).trans (rowIff executed)
  have checks : ∀ executed ∈ manifest.rows, Validates (applyRow false resolver)
      (fun state => state = db.toDatabase) (ReachableRow db.toDatabase resolver) executed := by
    intro executed member
    obtain ⟨_, stored, live, _, isRow, carries⟩ := (carried executed).mp member
    obtain ⟨_, proposed, proposes⟩ := transaction_carried isRow carries
    exact proposed_validates stored live (proposed_unprotected proposed) proposes
  refine (manifest_validated_iff checks rfl).trans ?_
  constructor
  · intro ready _ isOther model stored live _ proposed
    cases isEvidence.symm.trans isOther
    obtain ⟨row, executed, isRow, carries, proposes, _⟩ := proposed_carried named proposed
    exact (reachable_row_iff proposes).mp
      (ready executed ((carried executed).mpr ⟨model, stored, live, row, isRow, carries⟩))
  · intro ready executed member
    obtain ⟨model, stored, live, _, isRow, carries⟩ := (carried executed).mp member
    obtain ⟨target, proposed, proposes⟩ := transaction_carried isRow carries
    exact (reachable_row_iff proposes).mpr (ready evidence isEvidence model stored live target proposed)

end FinanceTracker.Transaction.ProposedTargets
