import FinanceTracker.Budget.Reclassification
import FinanceTracker.Reclassification.Selection

/-!
# The targets that the budget scan proposes

Which budgets and lines the execution manifest of a scan carries, and when a dry run on
the scanned database validates such a row. Lines of one monthly budget with one target
are left to a review.
-/

namespace FinanceTracker.Budget.ProposedTargets

open Library ColumnTypes Groups IntText KeyedRows Runs SortedBy Reclassification.Contracts
  Reclassification.Selection Reclassification.Writers Budget.Reclassification

def proposedTarget (mapping : MappingRegistry) (categoryId : ℤ) : Option MappingTarget :=
  if isLegacy categoryId then safeTarget (mapping.category categoryId) else none

def NamedTargets (mapping : MappingRegistry) : Prop :=
  ∀ entry ∈ mapping.categories, ∀ target ∈ entry.targets, target.key ≠ "" ∧ target.publicId ≠ ""

theorem safe_target_iff {proposal : Option MappingEntry} {target : MappingTarget} :
    safeTarget proposal = some target ↔ ∃ entry, proposal = some entry ∧
      entry.disposition = .safeOneToOne ∧ entry.targets = [target] := by
  unfold safeTarget
  rw [Option.bind_eq_some_iff]
  refine exists_congr fun entry => and_congr_right fun _ => ?_
  constructor
  · intro found
    split at found
    · next conditions =>
      obtain ⟨_, isOnly⟩ := List.length_eq_one_iff.mp conditions.1
      rw [isOnly, List.head?_cons, Option.some.injEq] at found
      exact ⟨conditions.2, found ▸ isOnly⟩
    · contradiction
  · rintro ⟨safe, only⟩
    rw [only, if_pos ⟨rfl, safe⟩]
    rfl

/-- A row of a manifest for a budget or a line and its proposed target. -/
structure Proposes (kind : String) (id : IntegerColumn) (categoryId : ℤ) (target : MappingTarget)
    (executed : ExecutionRow) : Prop where
  kind : executed.sourceKind = kind
  sourceId : executed.sourceId = intText id.val
  legacyCategoryId : executed.legacyCategoryId = some categoryId
  targetKey : executed.targetKey = target.key
  targetPublicId : executed.targetPublicId = target.publicId

def writableKinds : List String := ["legacy_budget", "monthly_budget_line"]

section Scan

variable {mapping : MappingRegistry} {kind : String} {categoryId amount : ℤ} {id : IntegerColumn}

theorem row_facts {row : ReportRow}
    (scanned : budgetRow kind id.val categoryId amount mapping = some row) :
    row.sourceKind = kind ∧ row.sourceId = intText id.val ∧
      row.targetKey = (proposedTarget mapping categoryId).map MappingTarget.key := by
  unfold budgetRow at scanned
  unfold proposedTarget
  split at scanned
  · next legacy =>
    cases scanned
    rw [if_pos legacy]
    exact ⟨rfl, rfl, rfl⟩
  · contradiction

theorem row_carried {row : ReportRow} {executed : ExecutionRow}
    (scanned : budgetRow kind id.val categoryId amount mapping = some row)
    (carries : Carries writableKinds row executed) :
    ∃ target, proposedTarget mapping categoryId = some target ∧
      Proposes kind id categoryId target executed := by
  unfold budgetRow at scanned
  split at scanned
  · next legacy =>
    cases scanned
    obtain ⟨target, isTarget, isKey⟩ := Option.map_eq_some_iff.mp carries.targetKey.1
    have isPublicId := carries.targetPublicId.1
    rw [isTarget] at isPublicId
    refine ⟨target, ?_, carries.kind, carries.sourceId, carries.legacyCategoryId, isKey.symm,
      (Option.some.inj isPublicId).symm⟩
    unfold proposedTarget
    rw [if_pos legacy]
    exact isTarget
  · contradiction

theorem proposed_carried (named : NamedTargets mapping) (writable : kind ∈ writableKinds)
    {target : MappingTarget} (proposed : proposedTarget mapping categoryId = some target) :
    ∃ row executed, budgetRow kind id.val categoryId amount mapping = some row ∧
      Carries writableKinds row executed ∧ Proposes kind id categoryId target executed := by
  unfold proposedTarget at proposed
  split at proposed
  · next legacy =>
    obtain ⟨entry, isEntry, safe, only⟩ := safe_target_iff.mp proposed
    have stored : entry ∈ mapping.categories := (lookup_mem isEntry).1
    obtain ⟨keyGiven, publicIdGiven⟩ := named entry stored target (by rw [only]; exact List.mem_cons_self)
    refine ⟨_, ⟨kind, intText id.val, some categoryId, none, entry.disposition, entry.reasonCode,
      target.key, target.publicId⟩, if_pos legacy, ?_, ⟨rfl, rfl, rfl, rfl, rfl⟩⟩
    simp only [proposed, Option.map_some]
    simp only [isEntry, Option.map_some, Option.getD_some]
    exact ⟨rfl, writable, rfl, rfl, rfl, rfl, Or.inl safe, rfl, ⟨rfl, keyGiven⟩,
      ⟨rfl, publicIdGiven⟩⟩
  · contradiction

end Scan

def Shared (db : Database) (mapping : MappingRegistry) (model : BudgetLineModel) : Prop :=
  ∃ target, proposedTarget mapping model.categoryId = some target ∧
    ∃ other ∈ db.lines, other.id ≠ model.id ∧ other.monthlyBudgetId = model.monthlyBudgetId ∧
      ∃ otherTarget, proposedTarget mapping other.categoryId = some otherTarget ∧
        otherTarget.key = target.key

theorem line_row_some {mapping : MappingRegistry} {model : BudgetLineModel} :
    (lineRow mapping model).isSome = isLegacy model.categoryId := by
  unfold lineRow budgetRow
  split
  · next legacy => exact legacy.symm
  · next other => exact (Bool.eq_false_iff.mpr other).symm

theorem zip_filter_map {Item Value : Type} {chosen : Item → Bool} {change : Item → Option Value}
    (some : ∀ item, (change item).isSome = chosen item) (items : List Item) :
    (items.filter chosen).length = (items.filterMap change).length ∧
      (items.filter chosen).zip (items.filterMap change) =
        items.filterMap fun item => (change item).map fun value => (item, value) := by
  induction items with
  | nil => exact ⟨rfl, rfl⟩
  | cons item items ih =>
    have here := some item
    cases found : change item with
    | none =>
      rw [found] at here
      simp [found, ← here, ih]
    | some =>
      rw [found] at here
      simp [found, ← here, ih]

theorem lines_with_rows (mapping : MappingRegistry) (lines : List BudgetLineModel) :
    linesWithRows mapping lines =
      some (lines.filterMap fun line => (lineRow mapping line).map fun row => (line, row)) := by
  obtain ⟨lengths, pairs⟩ := zip_filter_map (fun line => @line_row_some mapping line) lines
  unfold linesWithRows
  rw [if_pos lengths, pairs]

def rowPairs (mapping : MappingRegistry) (lines : List BudgetLineModel) :
    List (BudgetLineModel × ReportRow) :=
  lines.filterMap fun line => (lineRow mapping line).map fun row => (line, row)

theorem mem_row_pairs {mapping : MappingRegistry} {lines : List BudgetLineModel}
    {line : BudgetLineModel} {row : ReportRow} :
    (line, row) ∈ rowPairs mapping lines ↔ line ∈ lines ∧ lineRow mapping line = some row := by
  unfold rowPairs
  rw [List.mem_filterMap]
  constructor
  · rintro ⟨other, member, found⟩
    obtain ⟨_, isRow, same⟩ := Option.map_eq_some_iff.mp found
    cases same
    exact ⟨member, isRow⟩
  · rintro ⟨member, isRow⟩
    exact ⟨line, member, by rw [isRow]; rfl⟩

theorem row_pairs_distinct {mapping : MappingRegistry} {lines : List BudgetLineModel}
    (distinct : DistinctKeys BudgetLineModel.id lines) :
    DistinctKeys (fun pair : BudgetLineModel × ReportRow => pair.1.id.val) (rowPairs mapping lines) := by
  unfold DistinctKeys rowPairs
  rw [List.Nodup, List.pairwise_map, List.pairwise_filterMap]
  refine (List.pairwise_map.mp distinct).imp ?_
  intro _ _ apart _ isFirst _ isSecond same
  obtain ⟨_, _, rfl⟩ := Option.map_eq_some_iff.mp isFirst
  obtain ⟨_, _, rfl⟩ := Option.map_eq_some_iff.mp isSecond
  exact apart (Subtype.ext same)

theorem collision_iff {db : StoredDatabase} {mapping : MappingRegistry} {model : BudgetLineModel}
    {row : ReportRow} (stored : model ∈ db.lines) (scanned : lineRow mapping model = some row) :
    inCollision (collisionsOf (rowPairs mapping (sortedLines db.toDatabase))) row = true ↔
      Shared db.toDatabase mapping model := by
  obtain ⟨isKind, isId, isKey⟩ := row_facts scanned
  have sortedDistinct : DistinctKeys BudgetLineModel.id (sortedLines db.toDatabase) :=
    ((sorted_perm (fun row : BudgetLineModel => row.id.val) db.lines).map
      BudgetLineModel.id).nodup_iff.mpr db.distinctLines
  have member : (model, row) ∈ rowPairs mapping (sortedLines db.toDatabase) :=
    mem_row_pairs.mpr ⟨(mem_sorted_iff _).mpr stored, scanned⟩
  have groups : inCollision (collisionsOf (rowPairs mapping (sortedLines db.toDatabase))) row = true ↔
      ∃ group ∈ collisionGroups (rowPairs mapping (sortedLines db.toDatabase)),
        1 < group.2.length ∧ model.id.val ∈ group.2 := by
    unfold inCollision collisionsOf
    rw [isKind, isId, int_of_column_text]
    simp
  rw [groups]
  refine (shared_group_iff (row_pairs_distinct sortedDistinct) member).trans ?_
  constructor
  · rintro ⟨key, here, ⟨other, otherRow⟩, otherMember, there, different⟩
    obtain ⟨otherStored, otherScanned⟩ := mem_row_pairs.mp otherMember
    obtain ⟨_, _, otherKey⟩ := row_facts otherScanned
    simp only [isKey, Option.map_map, Option.map_eq_some_iff] at here
    obtain ⟨target, isTarget, rfl⟩ := here
    simp only [otherKey, Option.map_map, Option.map_eq_some_iff] at there
    obtain ⟨otherTarget, isOtherTarget, same⟩ := there
    cases Prod.mk.inj same with
    | intro sameBudget sameKey =>
      exact ⟨target, isTarget, other, (mem_sorted_iff _).mp otherStored,
        fun sameId => different (congrArg Subtype.val sameId), sameBudget, otherTarget, isOtherTarget,
        sameKey⟩
  · rintro ⟨target, isTarget, other, otherStored, different, sameBudget, otherTarget, isOtherTarget, sameKey⟩
    have legacy : isLegacy other.categoryId = true := by
      unfold proposedTarget at isOtherTarget
      split at isOtherTarget
      · assumption
      · contradiction
    obtain ⟨otherRow, otherScanned⟩ := Option.isSome_iff_exists.mp
      ((@line_row_some mapping other).trans legacy)
    obtain ⟨_, _, otherKey⟩ := row_facts otherScanned
    refine ⟨(model.monthlyBudgetId, target.key), ?_, (other, otherRow),
      mem_row_pairs.mpr ⟨(mem_sorted_iff _).mpr otherStored, otherScanned⟩, ?_,
      fun sameId => different (Subtype.ext sameId)⟩
    · simp [isKey, isTarget]
    · simp [otherKey, isOtherTarget, sameBudget, sameKey]

theorem manifest_row_iff (service digest : String) {db : StoredDatabase} {runId capturedAt : String}
    {mapping : MappingRegistry} {report normalized : ServiceReport}
    (scanned : scanBudgets db.toDatabase runId capturedAt mapping = some report)
    (rows : normalized.rows = sortedBy ReportRow.identity report.rows) (executed : ExecutionRow) :
    executed ∈ (manifestOf writableKinds service normalized digest).rows ↔
      (∃ model ∈ db.budgets, ∃ row, legacyBudgetRow mapping model = some row ∧
        Carries writableKinds row executed) ∨
      ∃ model ∈ db.lines, ¬Shared db.toDatabase mapping model ∧ ∃ row,
        lineRow mapping model = some row ∧ Carries writableKinds row executed := by
  unfold scanBudgets at scanned
  obtain ⟨_, isPairs, scanned⟩ := Option.bind_eq_some_iff.mp scanned
  obtain ⟨_, _, scanned⟩ := Option.bind_eq_some_iff.mp scanned
  cases scanned
  cases (lines_with_rows mapping (sortedLines db.toDatabase)).symm.trans isPairs
  have budgetKept {model : BudgetModel} {row : ReportRow} (isRow : legacyBudgetRow mapping model = some row)
      (collisions : List (List ℤ)) : ¬inCollision collisions row = true := by
    unfold inCollision
    rw [(row_facts isRow).1]
    simp
  unfold manifestOf
  rw [List.mem_filterMap, rows]
  constructor
  · rintro ⟨changed, stored, found⟩
    have carries := carries_iff.mp found
    rw [mem_sorted_iff, List.mem_map] at stored
    obtain ⟨row, member, rfl⟩ := stored
    split at carries
    · exact absurd carries.executable (by simp [reviewed])
    · next kept =>
      rw [List.mem_append, List.mem_filterMap, List.mem_filterMap] at member
      rcases member with ⟨model, modelIn, isRow⟩ | ⟨model, modelIn, isRow⟩
      · exact Or.inl ⟨model, (mem_sorted_iff _).mp modelIn, row, isRow, carries⟩
      · have modelStored := (mem_sorted_iff _).mp modelIn
        exact Or.inr ⟨model, modelStored, fun shared => kept ((collision_iff modelStored isRow).mpr shared),
          row, isRow, carries⟩
  · rintro (⟨model, stored, row, isRow, carries⟩ | ⟨model, stored, alone, row, isRow, carries⟩)
    · refine ⟨row, ?_, carries_iff.mpr carries⟩
      rw [mem_sorted_iff, List.mem_map]
      refine ⟨row, ?_, if_neg (budgetKept isRow _)⟩
      rw [List.mem_append, List.mem_filterMap]
      exact Or.inl ⟨model, (mem_sorted_iff _).mpr stored, isRow⟩
    · refine ⟨row, ?_, carries_iff.mpr carries⟩
      rw [mem_sorted_iff, List.mem_map]
      refine ⟨row, ?_, if_neg fun collides => alone ((collision_iff stored isRow).mp collides)⟩
      rw [List.mem_append, List.mem_filterMap, List.mem_filterMap]
      exact Or.inr ⟨model, (mem_sorted_iff _).mpr stored, isRow⟩

/-- The identities that a run has resolved are those that the port gives. -/
structure DryState (db : Database) (port : CategoryPort) (state : WriterState) : Prop where
  tables : state.db = db
  resolved : ∀ entry ∈ state.resolved, port entry.1.1 entry.1.2 = some entry.2

def FreeAt (db : Database) (model : BudgetLineModel) (targetId : ℤ) : Prop :=
  ∀ other ∈ db.lines, other.id ≠ model.id → other.monthlyBudgetId = model.monthlyBudgetId →
    other.categoryId ≠ targetId

def ReachableRow (db : Database) (port : CategoryPort) (row : ExecutionRow) : Prop :=
  ∃ targetId, port row.targetKey row.targetPublicId = some targetId ∧
    row.legacyCategoryId ≠ some targetId ∧
    (row.sourceKind = "monthly_budget_line" → ∀ model ∈ db.lines,
      intText model.id.val = row.sourceId → FreeAt db model targetId)

section DryRun

variable {db : Database} {port : CategoryPort} {state : WriterState} {row : ExecutionRow}
  {targetId : ℤ} {target : MappingTarget} {model : BudgetLineModel}

theorem resolve_ok (dry : DryState db port state) {next : WriterState}
    (returned : resolve port state row = .ok (next, targetId)) :
    DryState db port next ∧ port row.targetKey row.targetPublicId = some targetId := by
  unfold resolve at returned
  split at returned
  · next entry found =>
    cases returned
    obtain ⟨stored, isIdentity⟩ := lookup_mem found
    have same := dry.resolved entry stored
    rw [isIdentity] at same
    exact ⟨dry, same⟩
  · split at returned
    · contradiction
    · next isTarget =>
      cases returned
      refine ⟨⟨dry.tables, ?_⟩, isTarget⟩
      refine forall_snoc dry.resolved ?_
      exact isTarget

theorem resolve_given (dry : DryState db port state)
    (isTarget : port row.targetKey row.targetPublicId = some targetId) :
    ∃ next, resolve port state row = .ok (next, targetId) := by
  cases found : resolve port state row with
  | ok result =>
    obtain ⟨next, _⟩ := result
    have same := (resolve_ok dry found).2
    rw [isTarget, Option.some.injEq] at same
    exact ⟨next, by rw [same]⟩
  | error =>
    unfold resolve at found
    split at found
    · contradiction
    · rw [isTarget] at found
      contradiction

def applyKind (state : WriterState) (row : ExecutionRow) (targetId : ℤ) :
    Except WriterError (WriterState × Outcome) :=
  if row.sourceKind = "legacy_budget" then applyBudget false state row targetId
  else if row.sourceKind = "monthly_budget_line" then applyLine false state row targetId
  else .error (.unsupportedSourceKind row.sourceKind)

theorem apply_row_eq : applyRow false port state row =
    (resolve port state row).bind fun found => applyKind found.1 row found.2 := rfl

theorem resolved_validates (Fits : ℤ → Prop)
    (kept : ∀ {state next : WriterState} {targetId : ℤ} {outcome : Outcome}, state.db = db →
      applyKind state row targetId = .ok (next, outcome) → next = state)
    (fits : ∀ {state : WriterState} {targetId : ℤ}, state.db = db →
      (applyKind state row targetId = .ok (state, .validated) ↔ Fits targetId))
    (reachable : ReachableRow db port row ↔ ∃ targetId,
      port row.targetKey row.targetPublicId = some targetId ∧ Fits targetId) :
    Validates (applyRow false port) (DryState db port) (ReachableRow db port) row where
  keeps := by
    intro _ _ _ dry returned
    obtain ⟨⟨_, _⟩, resolved, returned⟩ := bind_eq_ok.mp (apply_row_eq.symm.trans returned)
    have isDry := (resolve_ok dry resolved).1
    rw [kept isDry.tables returned]
    exact isDry
  ready := by
    intro _ _ dry returned
    obtain ⟨⟨_, targetId⟩, resolved, returned⟩ := bind_eq_ok.mp (apply_row_eq.symm.trans returned)
    obtain ⟨isDry, isTarget⟩ := resolve_ok dry resolved
    have same := kept isDry.tables returned
    rw [same] at returned
    exact reachable.mpr ⟨targetId, isTarget, (fits isDry.tables).mp returned⟩
  validates := by
    intro _ dry ready
    obtain ⟨targetId, isTarget, fit⟩ := reachable.mp ready
    obtain ⟨after, resolved⟩ := resolve_given dry isTarget
    have isDry := (resolve_ok dry resolved).1
    exact ⟨after, apply_row_eq.trans (bind_eq_ok.mpr ⟨(after, targetId), resolved,
      (fits isDry.tables).mpr fit⟩)⟩

theorem reachable_budget_iff {model : BudgetModel}
    (proposes : Proposes "legacy_budget" model.id model.categoryId target row) :
    ReachableRow db port row ↔
      ∃ targetId, port target.key target.publicId = some targetId ∧ model.categoryId ≠ targetId := by
  unfold ReachableRow
  rw [proposes.targetKey, proposes.targetPublicId, proposes.legacyCategoryId, proposes.kind]
  simp

theorem reachable_line_iff {db : StoredDatabase} (stored : model ∈ db.lines)
    (proposes : Proposes "monthly_budget_line" model.id model.categoryId target row) :
    ReachableRow db.toDatabase port row ↔
      ∃ targetId, port target.key target.publicId = some targetId ∧ model.categoryId ≠ targetId ∧
        FreeAt db.toDatabase model targetId := by
  unfold ReachableRow
  rw [proposes.targetKey, proposes.targetPublicId, proposes.legacyCategoryId, proposes.kind,
    proposes.sourceId]
  refine exists_congr fun targetId => and_congr_right fun _ => and_congr (by simp) ?_
  refine ⟨fun free => free rfl model stored rfl, fun free _ other member sameId => ?_⟩
  rw [List.inj_on_of_nodup_map db.distinctLines member stored (column_text_injective sameId)]
  exact free

theorem budget_validates {db : StoredDatabase} {model : BudgetModel} (stored : model ∈ db.budgets)
    (proposes : Proposes "legacy_budget" model.id model.categoryId target row) :
    Validates (applyRow false port) (DryState db.toDatabase port) (ReachableRow db.toDatabase port) row := by
  have isFound := (lookup_iff db.distinctBudgets).mpr ⟨stored, rfl⟩
  have found : getBudget db.toDatabase model.id.val = some model := by
    unfold getBudget
    simpa only [lookup, Subtype.ext_iff] using isFound
  have applied {state : WriterState} (tables : state.db = db.toDatabase) (targetId : ℤ) :
      applyKind state row targetId =
        .ok (state, if model.categoryId = targetId then .alreadyApplied else .validated) := by
    unfold applyKind applyBudget sourceIdOf
    rw [if_pos proposes.kind, proposes.sourceId, int_of_column_text model.id]
    simp only [ok_bind, tables, found, proposes.legacyCategoryId, ne_eq, not_true_eq_false, if_false,
      Bool.false_eq_true, written]
    split <;> rfl
  refine resolved_validates (fun targetId => model.categoryId ≠ targetId) ?_ ?_ ?_
  · intro _ _ _ _ tables returned
    rw [applied tables] at returned
    cases returned
    rfl
  · intro _ targetId tables
    rw [applied tables]
    by_cases there : model.categoryId = targetId
    · simp [there]
    · simp [there]
  · rw [proposes.targetKey, proposes.targetPublicId]
    exact reachable_budget_iff proposes

theorem free_at_iff :
    FreeAt db model targetId ↔ db.lines.filter (isCollision model targetId) = [] := by
  unfold FreeAt
  rw [List.filter_eq_nil_iff]
  refine forall_congr' fun other => forall_congr' fun _ => ?_
  unfold isCollision
  simp only [Bool.and_eq_true, decide_eq_true_eq]
  exact ⟨fun free collides => free collides.2 collides.1.1 collides.1.2,
    fun free different sameBudget there => free ⟨⟨sameBudget, there⟩, different⟩⟩

theorem line_validates {db : StoredDatabase} (stored : model ∈ db.lines)
    (proposes : Proposes "monthly_budget_line" model.id model.categoryId target row) :
    Validates (applyRow false port) (DryState db.toDatabase port) (ReachableRow db.toDatabase port) row := by
  have isFound := (lookup_iff db.distinctLines).mpr ⟨stored, rfl⟩
  have found : getLine db.toDatabase model.id.val = some model := by
    unfold getLine
    simpa only [lookup, Subtype.ext_iff] using isFound
  have applied {state : WriterState} (tables : state.db = db.toDatabase) (targetId : ℤ) :
      applyKind state row targetId =
        if model.categoryId = targetId then .ok (state, .alreadyApplied)
        else (scalarOneOrNone (db.lines.filter (isCollision model targetId))).bind fun collision =>
          .ok (state, if collision.isSome then .skippedCollision else .validated) := by
    unfold applyKind applyLine sourceIdOf
    rw [if_neg (by rw [proposes.kind]; decide), if_pos proposes.kind, proposes.sourceId,
      int_of_column_text model.id]
    simp only [ok_bind, tables, found, proposes.legacyCategoryId, ne_eq, not_true_eq_false, if_false,
      Bool.false_eq_true, written]
    split
    · rfl
    · cases scalarOneOrNone (db.lines.filter (isCollision model targetId)) with
      | error => rfl
      | ok collision => cases collision <;> rfl
  refine resolved_validates
    (fun targetId => model.categoryId ≠ targetId ∧ FreeAt db.toDatabase model targetId) ?_ ?_ ?_
  · intro _ _ _ _ tables returned
    rw [applied tables] at returned
    split at returned
    · cases returned
      rfl
    · obtain ⟨_, same⟩ := rest_ok returned
      cases same
      rfl
  · intro _ targetId tables
    rw [applied tables, free_at_iff]
    by_cases there : model.categoryId = targetId
    · simp [there]
    · rw [if_neg there]
      cases db.lines.filter (isCollision model targetId) with
      | nil => simp [scalarOneOrNone, Except.bind, there]
      | cons other others => cases others <;> simp [scalarOneOrNone, Except.bind]
  · rw [proposes.targetKey, proposes.targetPublicId]
    exact reachable_line_iff stored proposes

end DryRun

/-- Every budget and line that the manifest carries can be moved to its target. -/
structure Ready (db : Database) (port : CategoryPort) (mapping : MappingRegistry) : Prop where
  budgets : ∀ model ∈ db.budgets, ∀ target, proposedTarget mapping model.categoryId = some target →
    ∃ targetId, port target.key target.publicId = some targetId ∧ model.categoryId ≠ targetId
  lines : ∀ model ∈ db.lines, ¬Shared db mapping model → ∀ target,
    proposedTarget mapping model.categoryId = some target →
      ∃ targetId, port target.key target.publicId = some targetId ∧ model.categoryId ≠ targetId ∧
        FreeAt db model targetId

theorem dry_run_validates_iff {db : StoredDatabase} {runId capturedAt service digest : String}
    {port : CategoryPort} {mapping : MappingRegistry} (named : NamedTargets mapping)
    {report normalized : ServiceReport}
    (scanned : scanBudgets db.toDatabase runId capturedAt mapping = some report)
    (rows : normalized.rows = sortedBy ReportRow.identity report.rows) :
    let manifest := (manifestOf writableKinds service normalized digest).normalized
    (∃ after, applyReclassification false port db.toDatabase manifest =
      .ok (after, validatedCounts manifest.rows.length)) ↔ Ready db.toDatabase port mapping := by
  intro manifest
  have carried (executed : ExecutionRow) : executed ∈ manifest.rows ↔
      (∃ model ∈ db.budgets, ∃ row, legacyBudgetRow mapping model = some row ∧
        Carries writableKinds row executed) ∨
      ∃ model ∈ db.lines, ¬Shared db.toDatabase mapping model ∧ ∃ row,
        lineRow mapping model = some row ∧ Carries writableKinds row executed :=
    (mem_sorted_iff _).trans (manifest_row_iff service digest scanned rows executed)
  have checks : ∀ executed ∈ manifest.rows, Validates (applyRow false port)
      (DryState db.toDatabase port) (ReachableRow db.toDatabase port) executed := by
    intro executed member
    rcases (carried executed).mp member with
      ⟨model, stored, row, isRow, carries⟩ | ⟨model, stored, _, row, isRow, carries⟩
    · obtain ⟨_, _, proposes⟩ := row_carried isRow carries
      exact budget_validates stored proposes
    · obtain ⟨_, _, proposes⟩ := row_carried isRow carries
      exact line_validates stored proposes
  have started : DryState db.toDatabase port ⟨db.toDatabase, []⟩ :=
    ⟨rfl, fun entry member => by cases member⟩
  refine (manifest_validated_iff checks started).trans ?_
  constructor
  · intro ready
    constructor
    · intro model stored _ proposed
      obtain ⟨row, executed, isRow, carries, proposes⟩ :=
        proposed_carried named (List.mem_cons_self) proposed
      exact (reachable_budget_iff proposes).mp
        (ready executed ((carried executed).mpr (Or.inl ⟨model, stored, row, isRow, carries⟩)))
    · intro model stored alone _ proposed
      obtain ⟨row, executed, isRow, carries, proposes⟩ :=
        proposed_carried named (List.mem_cons_of_mem _ List.mem_cons_self) proposed
      exact (reachable_line_iff stored proposes).mp (ready executed
        ((carried executed).mpr (Or.inr ⟨model, stored, alone, row, isRow, carries⟩)))
  · intro ready executed member
    rcases (carried executed).mp member with
      ⟨model, stored, row, isRow, carries⟩ | ⟨model, stored, alone, row, isRow, carries⟩
    · obtain ⟨target, proposed, proposes⟩ := row_carried isRow carries
      exact (reachable_budget_iff proposes).mpr (ready.budgets model stored target proposed)
    · obtain ⟨target, proposed, proposes⟩ := row_carried isRow carries
      exact (reachable_line_iff stored proposes).mpr (ready.lines model stored alone target proposed)

end FinanceTracker.Budget.ProposedTargets
