import FinanceTracker.Categorization.Reclassification
import FinanceTracker.Reclassification.MappingFile
import FinanceTracker.Reclassification.Selection

/-!
# The targets that the categorization scan proposes

Which results and rules the execution manifest of a scan carries, and when a dry run on
the scanned database validates such a row.
-/

namespace FinanceTracker.Categorization.ProposedTargets

open Library ColumnTypes IntText KeyedRows Runs SortedBy Reclassification.Contracts
  Reclassification.Registry
open Reclassification.MappingFile (public_id_not_empty)
open Reclassification.Selection Reclassification.Writers Categorization.Reclassification

theorem subcategory_proposals_executable : ∀ proposal ∈ subcategoryProposals,
    (proposal.disposition = .safeOneToOne ∨ proposal.disposition = .evidenceProposal) ∧
      ∀ key ∈ proposal.targetKeys, key ≠ "" := by
  decide

/-- The only target of a legacy subcategory. -/
def proposedKey (subcategoryId : ℤ) : Option String :=
  (proposalOf subcategoryId).bind fun proposal =>
    if proposal.targetKeys.length = 1 then proposal.targetKeys.head? else none

variable {subcategoryId : ℤ} {key : String} {model : CategorizationResultModel}
  {executed : ExecutionRow}

theorem proposed_key_iff : proposedKey subcategoryId = some key ↔
      ∃ proposal, proposalOf subcategoryId = some proposal ∧
        targetKeyOf false proposal = some key := by
  unfold proposedKey targetKeyOf
  rw [Option.bind_eq_some_iff]
  simp

theorem target_key_facts {proposal : LegacyProposal}
    (found : proposalOf subcategoryId = some proposal)
    (isTarget : targetKeyOf false proposal = some key) :
    (proposal.disposition = .safeOneToOne ∨ proposal.disposition = .evidenceProposal) ∧ key ≠ "" := by
  obtain ⟨executable, named⟩ := subcategory_proposals_executable proposal (lookup_mem found).1
  refine ⟨executable, named key ?_⟩
  unfold targetKeyOf at isTarget
  split at isTarget
  · exact List.mem_of_mem_head? isTarget
  · contradiction

/-- A row of a manifest for a key. -/
structure Proposes (kind : String) (id : IntegerColumn) (categoryId : Option ℤ) (subcategoryId : ℤ)
    (key : String) (executed : ExecutionRow) : Prop where
  kind : executed.sourceKind = kind
  sourceId : executed.sourceId = intText id.val
  legacyCategoryId : executed.legacyCategoryId = categoryId
  legacySubcategoryId : executed.legacySubcategoryId = some subcategoryId
  targetKey : executed.targetKey = key
  targetPublicId : executed.targetPublicId = pinnedUuid7 key

def writableKinds : List String := ["categorization_result", "system_rule"]

theorem result_carried {row : ReportRow} (scanned : resultRow model = some row)
    (carries : Carries writableKinds row executed) :
    isProtectedTier model.tier = false ∧ ∃ key, proposedKey model.subcategoryId = some key ∧
      Proposes "categorization_result" model.id (some model.categoryId) model.subcategoryId key executed := by
  unfold resultRow at scanned
  obtain ⟨proposal, found, rfl⟩ := Option.map_eq_some_iff.mp scanned
  cases tier : isProtectedTier model.tier with
  | true =>
    have executable := carries.executable
    simp [tier] at executable
  | false =>
    have isKey := carries.targetKey.1
    have isPublicId := carries.targetPublicId.1
    simp only [tier] at isKey isPublicId
    rw [isKey] at isPublicId
    exact ⟨rfl, executed.targetKey, proposed_key_iff.mpr ⟨proposal, found, isKey⟩, carries.kind,
      carries.sourceId, carries.legacyCategoryId, carries.legacySubcategoryId, rfl,
      (Option.some.inj isPublicId).symm⟩

theorem proposed_result_carried (unprotected : isProtectedTier model.tier = false)
    (proposed : proposedKey model.subcategoryId = some key) :
    ∃ row executed, resultRow model = some row ∧ Carries writableKinds row executed ∧
      Proposes "categorization_result" model.id (some model.categoryId) model.subcategoryId key executed := by
  obtain ⟨proposal, found, isKey⟩ := proposed_key_iff.mp proposed
  obtain ⟨executable, keyGiven⟩ := target_key_facts found isKey
  refine ⟨_, ⟨"categorization_result", intText model.id.val, some model.categoryId,
    some model.subcategoryId, proposal.disposition, proposal.reasonCode, key, pinnedUuid7 key⟩,
    Option.map_eq_some_iff.mpr ⟨proposal, found, rfl⟩, ?_, ⟨rfl, rfl, rfl, rfl, rfl, rfl⟩⟩
  simp only [unprotected, isKey, Bool.false_eq_true, if_false, Option.map_some]
  exact ⟨rfl, List.mem_cons_self, rfl, rfl, rfl, rfl, executable, rfl, ⟨rfl, keyGiven⟩,
    ⟨rfl, public_id_not_empty key⟩⟩

theorem rule_carried {model : CategorizationRuleModel} {row : ReportRow}
    (scanned : ruleRow model = some row) (carries : Carries writableKinds row executed) :
    model.userId = none ∧ ∃ key, proposedKey model.matchesSubcategoryId = some key ∧
      Proposes "system_rule" model.id none model.matchesSubcategoryId key executed := by
  unfold ruleRow at scanned
  obtain ⟨proposal, found, rfl⟩ := Option.map_eq_some_iff.mp scanned
  cases user : model.userId with
  | some =>
    have executable := carries.executable
    simp [user] at executable
  | none =>
    have isKind := carries.kind
    have isKey := carries.targetKey.1
    have isPublicId := carries.targetPublicId.1
    simp only [user, Option.isSome_none, Bool.false_eq_true, if_false] at isKind isKey isPublicId
    rw [isKey] at isPublicId
    exact ⟨rfl, executed.targetKey, proposed_key_iff.mpr ⟨proposal, found, isKey⟩, isKind,
      carries.sourceId, carries.legacyCategoryId, carries.legacySubcategoryId, rfl,
      (Option.some.inj isPublicId).symm⟩

theorem proposed_rule_carried {model : CategorizationRuleModel} (system : model.userId = none)
    (proposed : proposedKey model.matchesSubcategoryId = some key) :
    ∃ row executed, ruleRow model = some row ∧ Carries writableKinds row executed ∧
      Proposes "system_rule" model.id none model.matchesSubcategoryId key executed := by
  obtain ⟨proposal, found, isKey⟩ := proposed_key_iff.mp proposed
  obtain ⟨executable, keyGiven⟩ := target_key_facts found isKey
  refine ⟨_, ⟨"system_rule", intText model.id.val, none, some model.matchesSubcategoryId,
    proposal.disposition, proposal.reasonCode, key, pinnedUuid7 key⟩,
    Option.map_eq_some_iff.mpr ⟨proposal, found, rfl⟩, ?_, ⟨rfl, rfl, rfl, rfl, rfl, rfl⟩⟩
  simp only [system, Option.isSome_none, isKey, Bool.false_eq_true, if_false, Option.map_some]
  exact ⟨rfl, List.mem_cons_of_mem _ List.mem_cons_self, rfl, rfl, rfl, rfl, executable, rfl,
    ⟨rfl, keyGiven⟩, ⟨rfl, public_id_not_empty key⟩⟩

theorem manifest_row_iff (service digest : String) {db : Database} {runId capturedAt : String}
    {report normalized : ServiceReport} (scanned : scanCategorization db runId capturedAt = some report)
    (rows : normalized.rows = sortedBy ReportRow.identity report.rows) (executed : ExecutionRow) :
    executed ∈ (manifestOf writableKinds service normalized digest).rows ↔
      (∃ model ∈ db.results, ∃ row, resultRow model = some row ∧ Carries writableKinds row executed) ∨
        ∃ model ∈ db.rules, ∃ row, ruleRow model = some row ∧ Carries writableKinds row executed := by
  unfold scanCategorization at scanned
  obtain ⟨_, _, scanned⟩ := Option.bind_eq_some_iff.mp scanned
  cases scanned
  unfold manifestOf
  rw [List.mem_filterMap, rows]
  constructor
  · rintro ⟨row, stored, found⟩
    have carries := carries_iff.mp found
    rw [mem_sorted_iff, List.mem_append, List.mem_filterMap, List.mem_filterMap] at stored
    rcases stored with ⟨model, member, isRow⟩ | ⟨model, member, isRow⟩
    · exact Or.inl ⟨model, (mem_sorted_iff _).mp member, row, isRow, carries⟩
    · exact Or.inr ⟨model, (mem_sorted_iff _).mp member, row, isRow, carries⟩
  · intro scanned
    rcases scanned with ⟨model, member, row, isRow, carries⟩ | ⟨model, member, row, isRow, carries⟩
    · refine ⟨row, ?_, carries_iff.mpr carries⟩
      rw [mem_sorted_iff, List.mem_append, List.mem_filterMap]
      exact Or.inl ⟨model, (mem_sorted_iff _).mpr member, isRow⟩
    · refine ⟨row, ?_, carries_iff.mpr carries⟩
      rw [mem_sorted_iff, List.mem_append, List.mem_filterMap, List.mem_filterMap]
      exact Or.inr ⟨model, (mem_sorted_iff _).mpr member, isRow⟩

structure Stands (db : Database) (targetKey targetPublicId : String) (leaf : SubCategoryModel)
    (parent : CategoryModel) : Prop where
  only : db.subcategories.filter (hasIdentity targetKey targetPublicId) = [leaf]
  stored : lookup CategoryModel.id db.categories leaf.categoryId = some parent
  active : parent.lifecycle = "active"

/-- The row is at the subcategory already; a row of a rule has no category. -/
def IsAt (row : ExecutionRow) (leaf : SubCategoryModel) (parent : CategoryModel) : Prop :=
  row.legacySubcategoryId = some leaf.id ∧
    ∀ categoryId, row.legacyCategoryId = some categoryId → categoryId = parent.id

/-- The target of the row is a subcategory that it can be moved to. -/
def ReachableRow (db : Database) (row : ExecutionRow) : Prop :=
  ∃ leaf parent, Stands db row.targetKey row.targetPublicId leaf parent ∧ ¬IsAt row leaf parent

section DryRun

variable {db after : Database} {row : ExecutionRow} {outcome : Outcome}

theorem target_ok {leaf : SubCategoryModel} {parent : CategoryModel} :
    (activeTarget db row = .ok leaf ∧ activeParent db leaf row = .ok parent) ↔
      Stands db row.targetKey row.targetPublicId leaf parent := by
  have isTarget : activeTarget db row = .ok leaf ↔
      db.subcategories.filter (hasIdentity row.targetKey row.targetPublicId) = [leaf] := by
    unfold activeTarget
    cases found : db.subcategories.filter (hasIdentity row.targetKey row.targetPublicId) with
    | nil => simp [scalarOneOrNone, ok_bind]
    | cons stored others =>
      cases others with
      | nil => simp [scalarOneOrNone, ok_bind]
      | cons => simp [scalarOneOrNone, error_bind]
  have isParent : activeParent db leaf row = .ok parent ↔
      lookup CategoryModel.id db.categories leaf.categoryId = some parent ∧
        parent.lifecycle = "active" := by
    unfold activeParent
    cases lookup CategoryModel.id db.categories leaf.categoryId with
    | none => simp
    | some stored =>
      by_cases active : stored.lifecycle = "active"
      · simp only [active, if_true, Except.ok.injEq, Option.some.injEq]
        exact ⟨fun same => ⟨same, same ▸ active⟩, And.left⟩
      · simp only [active, if_false, reduceCtorEq, Option.some.injEq, false_iff]
        rintro ⟨rfl, isActive⟩
        exact active isActive
  rw [isTarget, isParent]
  exact ⟨fun both => ⟨both.1, both.2.1, both.2.2⟩, fun stands => ⟨stands.only, stands.stored, stands.active⟩⟩

theorem applied_row : applyRow false db row = .ok (after, outcome) ↔
      ∃ leaf parent, Stands db row.targetKey row.targetPublicId leaf parent ∧
        (if row.sourceKind = "categorization_result" then applyResult false db row parent leaf
          else if row.sourceKind = "system_rule" then applyRule false db row leaf
          else .error (.unsupportedSourceKind row.sourceKind)) = .ok (after, outcome) := by
  unfold applyRow
  constructor
  · intro returned
    obtain ⟨leaf, isLeaf, returned⟩ := bind_eq_ok.mp returned
    obtain ⟨parent, isParent, returned⟩ := bind_eq_ok.mp returned
    exact ⟨leaf, parent, target_ok.mp ⟨isLeaf, isParent⟩, returned⟩
  · rintro ⟨leaf, parent, stands, returned⟩
    obtain ⟨isLeaf, isParent⟩ := target_ok.mpr stands
    exact bind_eq_ok.mpr ⟨leaf, isLeaf, bind_eq_ok.mpr ⟨parent, isParent, returned⟩⟩

theorem found_validates {There : SubCategoryModel → CategoryModel → Prop}
    [∀ leaf parent, Decidable (There leaf parent)]
    (isAt : ∀ leaf parent, There leaf parent ↔ IsAt row leaf parent)
    (found : ∀ leaf parent,
      (if row.sourceKind = "categorization_result" then applyResult false db row parent leaf
        else if row.sourceKind = "system_rule" then applyRule false db row leaf
        else .error (.unsupportedSourceKind row.sourceKind)) =
      .ok (db, if There leaf parent then .alreadyApplied else .validated)) :
    Validates (applyRow false) (fun state => state = db) (ReachableRow db) row where
  keeps := by
    rintro state next outcome rfl returned
    obtain ⟨leaf, parent, _, returned⟩ := applied_row.mp returned
    rw [found leaf parent] at returned
    cases returned
    rfl
  ready := by
    rintro state next rfl returned
    obtain ⟨leaf, parent, stands, returned⟩ := applied_row.mp returned
    rw [found leaf parent] at returned
    refine ⟨leaf, parent, stands, fun there => ?_⟩
    rw [if_pos ((isAt leaf parent).mpr there)] at returned
    cases returned
  validates := by
    rintro state rfl ⟨leaf, parent, stands, elsewhere⟩
    refine ⟨state, applied_row.mpr ⟨leaf, parent, stands, ?_⟩⟩
    rw [found leaf parent, if_neg fun there => elsewhere ((isAt leaf parent).mp there)]

variable {model : CategorizationResultModel} {key : String}

theorem result_is_at
    (proposes : Proposes "categorization_result" model.id (some model.categoryId) model.subcategoryId key
      row) (leaf : SubCategoryModel) (parent : CategoryModel) :
    (model.categoryId = parent.id ∧ model.subcategoryId = leaf.id) ↔ IsAt row leaf parent := by
  unfold IsAt
  rw [proposes.legacyCategoryId, proposes.legacySubcategoryId]
  simp [and_comm]

theorem rule_is_at {model : CategorizationRuleModel}
    (proposes : Proposes "system_rule" model.id none model.matchesSubcategoryId key row)
    (leaf : SubCategoryModel) (parent : CategoryModel) :
    model.matchesSubcategoryId = leaf.id ↔ IsAt row leaf parent := by
  unfold IsAt
  rw [proposes.legacyCategoryId, proposes.legacySubcategoryId]
  simp

theorem result_validates {db : StoredDatabase} (stored : model ∈ db.results)
    (unprotected : isProtectedTier model.tier = false)
    (proposes : Proposes "categorization_result" model.id (some model.categoryId) model.subcategoryId key
      row) :
    Validates (applyRow false) (fun state => state = db.toDatabase) (ReachableRow db.toDatabase) row := by
  have isFound := (lookup_iff db.distinctResults).mpr ⟨stored, rfl⟩
  have found : getResult db.toDatabase model.id.val = some model := by
    unfold getResult
    simpa only [lookup, Subtype.ext_iff] using isFound
  refine found_validates (result_is_at proposes) fun leaf parent => ?_
  rw [if_pos proposes.kind]
  unfold applyResult sourceIdOf
  rw [proposes.sourceId, int_of_column_text model.id]
  simp only [ok_bind, found, unprotected, proposes.legacyCategoryId, proposes.legacySubcategoryId,
    Bool.false_eq_true, if_false, and_self, not_true_eq_false, written]
  split <;> rfl

theorem rule_validates {db : StoredDatabase} {model : CategorizationRuleModel}
    (stored : model ∈ db.rules) (system : model.userId = none)
    (proposes : Proposes "system_rule" model.id none model.matchesSubcategoryId key row) :
    Validates (applyRow false) (fun state => state = db.toDatabase) (ReachableRow db.toDatabase) row := by
  have isFound := (lookup_iff db.distinctRules).mpr ⟨stored, rfl⟩
  have found : getRule db.toDatabase model.id.val = some model := by
    unfold getRule
    simpa only [lookup, Subtype.ext_iff] using isFound
  refine found_validates (rule_is_at proposes) fun leaf parent => ?_
  rw [if_neg (by rw [proposes.kind]; decide), if_pos proposes.kind]
  unfold applyRule sourceIdOf
  rw [proposes.sourceId, int_of_column_text model.id]
  simp only [ok_bind, found, system, proposes.legacySubcategoryId, Option.isSome_none, ne_eq,
    not_true_eq_false, Bool.false_eq_true, if_false, written]
  split <;> rfl

end DryRun

/-- The public id that the pinned proposals give a key. -/
def Reaches (db : Database) (key : String) (leaf : SubCategoryModel) (parent : CategoryModel) : Prop :=
  Stands db key (pinnedUuid7 key) leaf parent

/-- Every unprotected row with a proposed key can be moved to its subcategory. -/
structure Ready (db : Database) : Prop where
  results : ∀ model ∈ db.results, isProtectedTier model.tier = false → ∀ key,
    proposedKey model.subcategoryId = some key → ∃ leaf parent, Reaches db key leaf parent ∧
      ¬(model.categoryId = parent.id ∧ model.subcategoryId = leaf.id)
  rules : ∀ model ∈ db.rules, model.userId = none → ∀ key,
    proposedKey model.matchesSubcategoryId = some key → ∃ leaf parent, Reaches db key leaf parent ∧
      model.matchesSubcategoryId ≠ leaf.id

theorem dry_run_validates_iff {db : StoredDatabase} {runId capturedAt service digest : String}
    {report normalized : ServiceReport}
    (scanned : scanCategorization db.toDatabase runId capturedAt = some report)
    (rows : normalized.rows = sortedBy ReportRow.identity report.rows) :
    let manifest := (manifestOf writableKinds service normalized digest).normalized
    (∃ after, applyReclassification false db.toDatabase manifest =
      .ok (after, validatedCounts manifest.rows.length)) ↔ Ready db.toDatabase := by
  intro manifest
  have carried (executed : ExecutionRow) : executed ∈ manifest.rows ↔
      (∃ model ∈ db.results, ∃ row, resultRow model = some row ∧ Carries writableKinds row executed) ∨
        ∃ model ∈ db.rules, ∃ row, ruleRow model = some row ∧ Carries writableKinds row executed :=
    (mem_sorted_iff _).trans (manifest_row_iff service digest scanned rows executed)
  have checks : ∀ executed ∈ manifest.rows, Validates (applyRow false)
      (fun state => state = db.toDatabase) (ReachableRow db.toDatabase) executed := by
    intro executed member
    rcases (carried executed).mp member with
      ⟨model, stored, row, isRow, carries⟩ | ⟨model, stored, row, isRow, carries⟩
    · obtain ⟨unprotected, _, _, proposes⟩ := result_carried isRow carries
      exact result_validates stored unprotected proposes
    · obtain ⟨system, _, _, proposes⟩ := rule_carried isRow carries
      exact rule_validates stored system proposes
  refine (manifest_validated_iff checks rfl).trans ?_
  constructor
  · intro ready
    constructor
    · intro model stored unprotected _ proposed
      obtain ⟨row, executed, isRow, carries, proposes⟩ := proposed_result_carried unprotected proposed
      obtain ⟨leaf, parent, stands, elsewhere⟩ :=
        ready executed ((carried executed).mpr (Or.inl ⟨model, stored, row, isRow, carries⟩))
      rw [proposes.targetKey, proposes.targetPublicId] at stands
      exact ⟨leaf, parent, stands, fun there => elsewhere ((result_is_at proposes leaf parent).mp there)⟩
    · intro model stored system _ proposed
      obtain ⟨row, executed, isRow, carries, proposes⟩ := proposed_rule_carried system proposed
      obtain ⟨leaf, parent, stands, elsewhere⟩ :=
        ready executed ((carried executed).mpr (Or.inr ⟨model, stored, row, isRow, carries⟩))
      rw [proposes.targetKey, proposes.targetPublicId] at stands
      exact ⟨leaf, parent, stands, fun there => elsewhere ((rule_is_at proposes leaf parent).mp there)⟩
  · intro ready executed member
    rcases (carried executed).mp member with
      ⟨model, stored, row, isRow, carries⟩ | ⟨model, stored, row, isRow, carries⟩
    · obtain ⟨unprotected, key, proposed, proposes⟩ := result_carried isRow carries
      obtain ⟨leaf, parent, stands, elsewhere⟩ := ready.results model stored unprotected key proposed
      refine ⟨leaf, parent, ?_, fun there => elsewhere ((result_is_at proposes leaf parent).mpr there)⟩
      rw [proposes.targetKey, proposes.targetPublicId]
      exact stands
    · obtain ⟨system, key, proposed, proposes⟩ := rule_carried isRow carries
      obtain ⟨leaf, parent, stands, elsewhere⟩ := ready.rules model stored system key proposed
      refine ⟨leaf, parent, ?_, fun there => elsewhere ((rule_is_at proposes leaf parent).mpr there)⟩
      rw [proposes.targetKey, proposes.targetPublicId]
      exact stands

end FinanceTracker.Categorization.ProposedTargets
