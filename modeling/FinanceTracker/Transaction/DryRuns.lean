import FinanceTracker.Transaction.ExecutedManifests

/-!
# Dry runs of a manifest

When a run returns, dry or not, said of the tables before it, and what the dry run says
of the run that executes. The dry run does not see the rows that a repair adds: it fails
over a parent category that the run would add, and passes a subcategory that the tables
refuse.
-/

namespace FinanceTracker.Transaction.DryRuns

open Library GuardedMoves KeyedRows Reclassification.Contracts Reclassification.Writers Domain
  ExecutedManifests ProposedTargets Transaction.Reclassification TargetRepairs

/-- The row names a transaction by a number and stands for an active target whose active parent
is stored. -/
structure Passes (resolver : Option TaxonomyResolver) (db : Database) (row : ExecutionRow) : Prop where
  kind : row.sourceKind = "transaction"
  id : ∃ id, sourceIdOf row = .ok id
  target : ∃ leaf parent, Names db resolver row.targetKey row.targetPublicId leaf ∧
    getCategory db leaf.categoryId = some parent ∧ parent.lifecycle = some "active"

section Dry

variable {resolver : Option TaxonomyResolver} {db next : Database} {row : ExecutionRow}
  {rows : List ExecutionRow} {outcome : Outcome} {outcomes : List Outcome}

theorem apply_to_dry (row : ExecutionRow) (parent : CategoryModel) (leaf : SubCategoryModel) (found : Option Transaction) :
    (applyTo false db row parent leaf found).1 = db := by
  cases found with
  | none => rfl
  | some =>
    simp only [applyTo, Bool.false_eq_true, if_false]
    split_ifs <;> rfl

theorem dry_row_ok : applyRow false resolver db row = .ok (next, outcome) ↔ next = db ∧
    row.sourceKind = "transaction" ∧ ∃ leaf parent id,
      Names db resolver row.targetKey row.targetPublicId leaf ∧
        getCategory db leaf.categoryId = some parent ∧ parent.lifecycle = some "active" ∧
        sourceIdOf row = .ok id ∧
        (applyTo false db row parent leaf (getTransaction db id)).2 = outcome := by
  rw [apply_row_ok]
  constructor
  · rintro ⟨kind, mid, leaf, parent, id, isLeaf, isParent, isId, returned⟩
    obtain ⟨rfl, names⟩ := resolve_target_dry.mp isLeaf
    obtain ⟨stored, active⟩ := active_parent_ok.mp isParent
    have same : mid = next :=
      (apply_to_dry row parent leaf (getTransaction mid id)).symm.trans (congrArg Prod.fst returned)
    exact ⟨same.symm, kind, leaf, parent, id, names, stored, active, isId, congrArg Prod.snd returned⟩
  · rintro ⟨rfl, kind, leaf, parent, id, names, stored, active, isId, isOutcome⟩
    exact ⟨kind, next, leaf, parent, id, resolve_target_dry.mpr ⟨rfl, names⟩,
      active_parent_ok.mpr ⟨stored, active⟩, isId, Prod.ext (apply_to_dry _ _ _ _) isOutcome⟩

theorem dry_row_returns : (∃ result, applyRow false resolver db row = .ok result) ↔
    Passes resolver db row := by
  constructor
  · rintro ⟨⟨next, outcome⟩, returned⟩
    obtain ⟨_, kind, leaf, parent, id, names, stored, active, isId, _⟩ := dry_row_ok.mp returned
    exact ⟨kind, ⟨id, isId⟩, leaf, parent, names, stored, active⟩
  · rintro ⟨kind, ⟨id, isId⟩, leaf, parent, names, stored, active⟩
    exact ⟨(db, _), dry_row_ok.mpr ⟨rfl, kind, leaf, parent, id, names, stored, active, isId, rfl⟩⟩

/-- A dry run leaves the tables as they are, and returns where every row passes. -/
theorem dry_rows_keep (ran : applyRows (applyRow false resolver) db rows = .ok (next, outcomes)) :
    next = db := by
  induction rows generalizing outcomes with
  | nil =>
    cases ran
    rfl
  | cons row rows ih =>
    obtain ⟨_, _, _, first, others, rfl⟩ := apply_rows_cons.mp ran
    obtain ⟨rfl, _⟩ := dry_row_ok.mp first
    exact ih others

theorem dry_rows_return : (∃ result, applyRows (applyRow false resolver) db rows = .ok result) ↔
    ∀ row ∈ rows, Passes resolver db row := by
  induction rows with
  | nil => simp [applyRows]
  | cons row rows ih =>
    rw [List.forall_mem_cons, ← ih, ← dry_row_returns]
    constructor
    · rintro ⟨⟨last, outcomes⟩, ran⟩
      obtain ⟨_, _, _, first, others, rfl⟩ := apply_rows_cons.mp ran
      obtain ⟨rfl, _⟩ := dry_row_ok.mp first
      exact ⟨⟨_, first⟩, ⟨_, others⟩⟩
    · rintro ⟨⟨⟨mid, outcome⟩, first⟩, ⟨last, rest⟩, others⟩
      obtain ⟨rfl, _⟩ := dry_row_ok.mp first
      exact ⟨(last, outcome :: rest), apply_rows_cons.mpr ⟨mid, outcome, rest, first, others, rfl⟩⟩

end Dry

def Answered (resolver : Option TaxonomyResolver) (tables : Database) (row : ExecutionRow)
    (resolved : ResolvedTaxonomyTarget) : Prop :=
  tables.subcategories.filter (hasIdentity row.targetKey row.targetPublicId) = [] ∧
    ∃ resolve, resolver = some resolve ∧
      resolve row.targetKey row.targetPublicId = .ok (some resolved)

/-- The parent of the answer is stored, active and the one that it names, or can be added. -/
def CategoryFits (tables : Database) (resolved : ResolvedTaxonomyTarget) : Prop :=
  (∃ parent, getCategory tables resolved.categoryId = some parent ∧ SameCategory parent resolved ∧
    parent.lifecycle = some "active") ∨
    (getCategory tables resolved.categoryId = none ∧ FreshCategory tables resolved.category)

def SubcategoryFits (tables : Database) (resolved : ResolvedTaxonomyTarget) : Prop :=
  (∃ leaf, getSubcategory tables resolved.subcategoryId = some leaf ∧ SameSubcategory leaf resolved) ∨
    (getSubcategory tables resolved.subcategoryId = none ∧ FreshSubcategory tables resolved.subcategory)

/-- The row names a transaction by a number and finds its target on tables that can be repaired. -/
structure RowFits (resolver : Option TaxonomyResolver) (tables : Database) (row : ExecutionRow) : Prop where
  kind : row.sourceKind = "transaction"
  id : ∃ id, sourceIdOf row = .ok id
  target : (∃ leaf parent,
      tables.subcategories.filter (hasIdentity row.targetKey row.targetPublicId) = [leaf] ∧
        getCategory tables leaf.categoryId = some parent ∧ parent.lifecycle = some "active") ∨
    ∃ resolved, Answered resolver tables row resolved ∧ CategoryFits tables resolved ∧
      SubcategoryFits tables resolved

def withAnswer (tables : Database) (resolved : ResolvedTaxonomyTarget) : Database :=
  { tables with
    categories :=
      if getCategory tables resolved.categoryId = none then tables.categories ++ [resolved.category]
      else tables.categories
    subcategories :=
      if getSubcategory tables resolved.subcategoryId = none then
        tables.subcategories ++ [resolved.subcategory]
      else tables.subcategories }

/-- The tables as the row leaves them. -/
def repairedFor (resolver : Option TaxonomyResolver) (tables : Database) (row : ExecutionRow) : Database :=
  if tables.subcategories.filter (hasIdentity row.targetKey row.targetPublicId) = [] then
    match resolver with
    | none => tables
    | some resolve =>
      match resolve row.targetKey row.targetPublicId with
      | .ok (some resolved) => withAnswer tables resolved
      | _ => tables
  else tables

/-- Each row finds its target on the tables that are repaired for the rows before it. -/
def Fits (resolver : Option TaxonomyResolver) : Database → List ExecutionRow → Prop
  | _, [] => True
  | tables, row :: rows =>
    RowFits resolver tables row ∧ Fits resolver (repairedFor resolver tables row) rows

section Execution

variable {resolver : Option TaxonomyResolver} {db tables next : Database} {row : ExecutionRow}
  {rows : List ExecutionRow} {resolved : ResolvedTaxonomyTarget} {leaf : SubCategoryModel}

def SameTaxonomy (first second : Database) : Prop :=
  first.categories = second.categories ∧ first.subcategories = second.subcategories

theorem fits_congr (same : SameTaxonomy db tables) : Fits resolver db rows ↔ Fits resolver tables rows := by
  induction rows generalizing db tables with
  | nil => exact Iff.rfl
  | cons row rows ih =>
    obtain ⟨categories, subcategories⟩ := same
    have answer (resolved : ResolvedTaxonomyTarget) :
        SameTaxonomy (withAnswer db resolved) (withAnswer tables resolved) := by
      unfold SameTaxonomy withAnswer getCategory getSubcategory
      simp only [categories, subcategories, and_self]
    have repaired : SameTaxonomy (repairedFor resolver db row) (repairedFor resolver tables row) := by
      unfold repairedFor
      rw [subcategories]
      split
      · cases resolver with
        | none => exact ⟨categories, subcategories⟩
        | some =>
          dsimp only
          split
          · exact answer _
          · exact ⟨categories, subcategories⟩
      · exact ⟨categories, subcategories⟩
    have rowSame : RowFits resolver db row ↔ RowFits resolver tables row := by
      constructor
      · rintro ⟨kind, id, target⟩
        refine ⟨kind, id, ?_⟩
        simpa only [Answered, CategoryFits, SubcategoryFits, getCategory, getSubcategory, FreshCategory,
          FreshSubcategory, categories, subcategories] using target
      · rintro ⟨kind, id, target⟩
        refine ⟨kind, id, ?_⟩
        simpa only [Answered, CategoryFits, SubcategoryFits, getCategory, getSubcategory, FreshCategory,
          FreshSubcategory, categories, subcategories] using target
    rw [Fits, Fits, rowSame, ih repaired]

theorem repaired_local {stored : SubCategoryModel}
    (isLocal : db.subcategories.filter (hasIdentity row.targetKey row.targetPublicId) = [stored]) :
    repairedFor resolver db row = db := by
  unfold repairedFor
  rw [isLocal, if_neg (List.cons_ne_nil _ _)]

theorem repaired_answered (answered : Answered resolver db row resolved) :
    repairedFor resolver db row = withAnswer db resolved := by
  obtain ⟨absent, _, rfl, isAnswer⟩ := answered
  unfold repairedFor
  rw [absent, if_pos rfl]
  simp only [isAnswer]

/-- Both repairs of an answer succeed where it fits, and leave the tables with it. -/
theorem repairs_ok {mid : Database} (isRepaired : repairCategory true db resolved = .ok mid)
    (isLeaf : repairSubcategory true mid resolved = .ok (next, leaf)) :
    next = withAnswer db resolved ∧ leaf.categoryId = resolved.categoryId ∧
      SubcategoryFits db resolved := by
  have first : mid = { db with categories := (withAnswer db resolved).categories } := by
    unfold withAnswer
    rcases repair_category_ok.mp isRepaired with ⟨parent, found, _, rfl⟩ | ⟨missing, _, rfl⟩
    · simp [found]
    · simp [missing]
  rcases repair_subcategory_ok.mp isLeaf with ⟨found, same, rfl⟩ | ⟨missing, fresh, rfl, rfl⟩
  · rw [first] at found ⊢
    refine ⟨?_, same.2.2, .inl ⟨leaf, found, same⟩⟩
    have isFound : getSubcategory db resolved.subcategoryId = some leaf := found
    simp [withAnswer, isFound]
  · rw [first] at missing fresh ⊢
    refine ⟨?_, rfl, .inr ⟨missing, fresh⟩⟩
    have isMissing : getSubcategory db resolved.subcategoryId = none := missing
    simp [withAnswer, isMissing]

theorem applied_fits {outcome : Outcome}
    (applied : applyRow true resolver db row = .ok (next, outcome)) :
    RowFits resolver db row ∧ SameTaxonomy next (repairedFor resolver db row) := by
  obtain ⟨kind, mid, leaf, parent, id, isLeaf, isParent, isId, returned⟩ := apply_row_ok.mp applied
  obtain ⟨stored, active⟩ := active_parent_ok.mp isParent
  have isNext : (applyTo true mid row parent leaf (getTransaction mid id)).1 = next :=
    congrArg Prod.fst returned
  have same : SameTaxonomy next mid := isNext ▸ apply_to_taxonomy _
  rcases resolve_target_ok.mp isLeaf with ⟨isLocal, rfl⟩ | ⟨absent, resolve, resolved, half, isResolver,
    answer, isRepaired, isTarget⟩
  · rw [repaired_local isLocal]
    exact ⟨⟨kind, ⟨id, isId⟩, .inl ⟨leaf, parent, isLocal, stored, active⟩⟩, same⟩
  · have answered : Answered resolver db row resolved := ⟨absent, resolve, isResolver, answer⟩
    obtain ⟨isMid, isCategory, subcategory⟩ := repairs_ok isRepaired isTarget
    rw [isCategory] at stored
    have category : CategoryFits db resolved := by
      rcases repair_category_ok.mp isRepaired with ⟨other, found, sameParent, _⟩ | ⟨missing, fresh, _⟩
      · have growth := (repair_category_extends isRepaired).trans (repair_subcategory_extends isTarget)
        cases (get_category_grown growth found).symm.trans stored
        exact .inl ⟨parent, found, sameParent, active⟩
      · exact .inr ⟨missing, fresh⟩
    rw [repaired_answered answered, ← isMid]
    exact ⟨⟨kind, ⟨id, isId⟩, .inr ⟨resolved, answered, category, subcategory⟩⟩, same⟩

theorem category_repaired (fits : CategoryFits db resolved) :
    ∃ mid parent, repairCategory true db resolved = .ok mid ∧
      getCategory mid resolved.categoryId = some parent ∧ parent.lifecycle = some "active" ∧
      mid.subcategories = db.subcategories := by
  rcases fits with ⟨parent, found, same, active⟩ | ⟨missing, fresh⟩
  · exact ⟨db, parent, repair_category_ok.mpr (.inl ⟨parent, found, same, rfl⟩), found, active, rfl⟩
  · refine ⟨_, resolved.category, repair_category_ok.mpr (.inr ⟨missing, fresh, rfl⟩), ?_, rfl, rfl⟩
    unfold getCategory lookup at missing ⊢
    rw [List.find?_append, missing, Option.none_or, List.find?_singleton, if_pos]
    exact decide_eq_true rfl

theorem fits_applied (fits : RowFits resolver db row) :
    ∃ result, applyRow true resolver db row = .ok result := by
  obtain ⟨kind, ⟨id, isId⟩, target⟩ := fits
  have target : ∃ mid leaf parent, resolveTarget true resolver db row = .ok (mid, leaf) ∧
      activeParent mid leaf row = .ok parent := by
    rcases target with ⟨leaf, parent, isLocal, stored, active⟩ | ⟨resolved, ⟨absent, resolve, isResolver,
      answer⟩, category, subcategory⟩
    · exact ⟨db, leaf, parent, resolve_target_ok.mpr (.inl ⟨isLocal, rfl⟩),
        active_parent_ok.mpr ⟨stored, active⟩⟩
    · obtain ⟨mid, parent, isRepaired, stored, active, sameTable⟩ := category_repaired category
      have isTarget : ∃ next leaf, repairSubcategory true mid resolved = .ok (next, leaf) ∧
          leaf.categoryId = resolved.categoryId := by
        unfold SubcategoryFits FreshSubcategory getSubcategory at subcategory
        rw [← sameTable] at subcategory
        rcases subcategory with ⟨leaf, found, same⟩ | ⟨missing, fresh⟩
        · exact ⟨mid, leaf, repair_subcategory_ok.mpr (.inl ⟨found, same, rfl⟩), same.2.2⟩
        · exact ⟨_, resolved.subcategory, repair_subcategory_ok.mpr (.inr ⟨missing, fresh, rfl, rfl⟩), rfl⟩
      obtain ⟨next, leaf, isLeaf, isCategory⟩ := isTarget
      have later := get_category_grown (repair_subcategory_extends isLeaf) stored
      exact ⟨next, leaf, parent,
        resolve_target_ok.mpr (.inr ⟨absent, resolve, resolved, mid, isResolver, answer, isRepaired, isLeaf⟩),
        active_parent_ok.mpr ⟨isCategory ▸ later, active⟩⟩
  obtain ⟨mid, leaf, parent, isLeaf, isParent⟩ := target
  exact ⟨_, apply_row_ok.mpr ⟨kind, mid, leaf, parent, id, isLeaf, isParent, isId, rfl⟩⟩

theorem executed_rows_return : (∃ result, applyRows (applyRow true resolver) db rows = .ok result) ↔
    Fits resolver db rows := by
  induction rows generalizing db with
  | nil => simp [applyRows, Fits]
  | cons row rows ih =>
    rw [Fits]
    constructor
    · rintro ⟨⟨last, outcomes⟩, ran⟩
      obtain ⟨_, _, _, first, others, rfl⟩ := apply_rows_cons.mp ran
      obtain ⟨fits, same⟩ := applied_fits first
      exact ⟨fits, (fits_congr same).mp (ih.mp ⟨_, others⟩)⟩
    · rintro ⟨fits, later⟩
      obtain ⟨⟨mid, outcome⟩, first⟩ := fits_applied fits
      obtain ⟨_, same⟩ := applied_fits first
      obtain ⟨⟨last, rest⟩, others⟩ := ih.mpr ((fits_congr same).mpr later)
      exact ⟨(last, outcome :: rest), apply_rows_cons.mpr ⟨mid, outcome, rest, first, others, rfl⟩⟩

end Execution

/-- The row stands for a subcategory whose parent category is not stored. -/
def LacksParent (resolver : Option TaxonomyResolver) (db : Database) (row : ExecutionRow) : Prop :=
  ∃ leaf, Names db resolver row.targetKey row.targetPublicId leaf ∧ getCategory db leaf.categoryId = none

/-- The subcategory that the row stands for is answered by the taxonomy and not stored. -/
def Missing (resolver : Option TaxonomyResolver) (db : Database) (row : ExecutionRow)
    (resolved : ResolvedTaxonomyTarget) : Prop :=
  Answered resolver db row resolved ∧ getSubcategory db resolved.subcategoryId = none

def Apart (first second : SubCategoryModel) : Prop :=
  first.id ≠ second.id ∧ first.semanticKey ≠ second.semanticKey ∧ first.publicId ≠ second.publicId

/-- The missing subcategories can be added: none has an identity that is stored, and no two share
an id, a key or a public id. -/
structure Addable (resolver : Option TaxonomyResolver) (db : Database) (rows : List ExecutionRow) :
    Prop where
  fresh : ∀ row ∈ rows, ∀ resolved, Missing resolver db row resolved →
    FreshSubcategory db resolved.subcategory
  apart : ∀ first ∈ rows, ∀ second ∈ rows, ∀ resolved other, Missing resolver db first resolved →
    Missing resolver db second other →
      resolved.subcategory = other.subcategory ∨ Apart resolved.subcategory other.subcategory

section Parents

variable {resolver : Option TaxonomyResolver} {db tables : Database} {row : ExecutionRow}
  {rows : List ExecutionRow} {resolved other : ResolvedTaxonomyTarget}

theorem passes_of_fits (faithful : Faithful resolver) (fits : Fits resolver db rows)
    (parents : ∀ row ∈ rows, ¬LacksParent resolver db row) :
    ∀ row ∈ rows, Passes resolver db row := by
  obtain ⟨⟨_, _⟩, ran⟩ := executed_rows_return.mpr fits
  intro row member
  obtain ⟨_, _, _, applied, grown, _⟩ :=
    run_rows faithful (Grown.refl resolver db) ran row member
  obtain ⟨kind, _, leaf, parent, id, isLeaf, isParent, isId, _⟩ := apply_row_ok.mp applied
  obtain ⟨stored, active⟩ := active_parent_ok.mp isParent
  have names := resolved_names faithful grown isLeaf
  cases found : getCategory db leaf.categoryId with
  | none => exact absurd ⟨leaf, names, found⟩ (parents row member)
  | some =>
    have later := get_category_grown (grown.grown.trans (resolved_extends isLeaf)) found
    cases later.symm.trans stored
    exact ⟨kind, ⟨id, isId⟩, leaf, parent, names, found, active⟩

theorem passes_parent {leaf : SubCategoryModel} (passes : Passes resolver db row)
    (names : Names db resolver row.targetKey row.targetPublicId leaf) :
    ∃ parent, getCategory db leaf.categoryId = some parent ∧ parent.lifecycle = some "active" := by
  obtain ⟨_, parent, otherNames, stored, active⟩ := passes.target
  cases names_unique names otherNames
  exact ⟨parent, stored, active⟩

/-- The tables are those before the run with missing subcategories added. -/
def Repaired (resolver : Option TaxonomyResolver) (db : Database) (rows : List ExecutionRow)
    (tables : Database) : Prop :=
  ∃ added, tables.subcategories = db.subcategories ++ added ∧
    (∀ leaf ∈ added, ∃ row ∈ rows, ∃ resolved, Missing resolver db row resolved ∧
      leaf = resolved.subcategory ∧ FreshSubcategory db leaf) ∧ added.Pairwise Apart

theorem answered_unique (first : Answered resolver db row resolved) (second : Answered resolver tables row other) :
    resolved = other := by
  obtain ⟨_, _, isResolver, answer⟩ := first
  obtain ⟨_, _, isAgain, otherAnswer⟩ := second
  cases isResolver.symm.trans isAgain
  cases answer.symm.trans otherAnswer
  rfl

theorem answered_identity (faithful : Faithful resolver) (answered : Answered resolver db row resolved) :
    hasIdentity row.targetKey row.targetPublicId resolved.subcategory = true := by
  obtain ⟨_, resolve, isResolver, answer⟩ := answered
  obtain ⟨isKey, isPublicId⟩ := faithful resolve isResolver answer
  exact identity_iff.mpr ⟨congrArg some isKey, congrArg some isPublicId, rfl⟩

theorem added_answer (faithful : Faithful resolver) {added : List SubCategoryModel}
    (fromRows : ∀ leaf ∈ added, ∃ row ∈ rows, ∃ resolved, Missing resolver db row resolved ∧
      leaf = resolved.subcategory ∧ FreshSubcategory db leaf)
    (answered : Answered resolver db row resolved) {leaf : SubCategoryModel} (member : leaf ∈ added)
    (identity : hasIdentity row.targetKey row.targetPublicId leaf = true) :
    leaf = resolved.subcategory := by
  obtain ⟨_, _, other, missing, rfl, _⟩ := fromRows leaf member
  obtain ⟨⟨_, resolve, isResolver, answer⟩, _⟩ := missing
  obtain ⟨_, _, isAgain, otherAnswer⟩ := answered
  cases isResolver.symm.trans isAgain
  obtain ⟨isKey, isPublicId⟩ := faithful resolve isResolver answer
  obtain ⟨key, publicId, _⟩ := identity_iff.mp identity
  have sameKey : other.subcategoryKey = row.targetKey := Option.some.inj key
  have samePublicId : other.subcategoryPublicId = row.targetPublicId := Option.some.inj publicId
  rw [← isKey, ← isPublicId, sameKey, samePublicId] at answer
  cases answer.symm.trans otherAnswer
  rfl

theorem answer_keeps (tables : Database) (resolved : ResolvedTaxonomyTarget) :
    tables.subcategories ⊆ (withAnswer tables resolved).subcategories := by
  unfold withAnswer
  dsimp only
  split
  · exact List.subset_append_left _ _
  · exact List.Subset.refl _

theorem repaired_step (faithful : Faithful resolver) (repaired : Repaired resolver db rows tables)
    (member : row ∈ rows) (fits : RowFits resolver tables row) :
    Repaired resolver db rows (repairedFor resolver tables row) ∧
      tables.subcategories ⊆ (repairedFor resolver tables row).subcategories ∧
      ∀ resolved, Missing resolver db row resolved →
        resolved.subcategory ∈ (repairedFor resolver tables row).subcategories := by
  obtain ⟨added, isTables, fromRows, apart⟩ := repaired
  have split {leaf : SubCategoryModel} (isLeaf : leaf ∈ tables.subcategories) :
      leaf ∈ db.subcategories ∨ leaf ∈ added := by
    rw [isTables] at isLeaf
    exact List.mem_append.mp isLeaf
  rcases fits.target with ⟨leaf, parent, isLocal, _, _⟩ | ⟨resolved, answered, _, subcategory⟩
  · rw [repaired_local isLocal]
    refine ⟨⟨added, isTables, fromRows, apart⟩, List.Subset.refl _, ?_⟩
    intro _ missing
    obtain ⟨isStored, identity⟩ := filter_head isLocal
    rcases split isStored with early | isAdded
    · exact absurd identity (by simpa using List.filter_eq_nil_iff.mp missing.1.1 leaf early)
    · rw [← added_answer faithful fromRows missing.1 isAdded identity]
      exact isStored
  · rw [repaired_answered answered]
    have absent : db.subcategories.filter (hasIdentity row.targetKey row.targetPublicId) = [] := by
      have whole := answered.1
      rw [isTables, List.filter_append] at whole
      exact (List.append_eq_nil_iff.mp whole).1
    have early : Answered resolver db row resolved := ⟨absent, answered.2⟩
    rcases subcategory with ⟨leaf, found, same⟩ | ⟨missing, fresh⟩
    · have unchanged : (withAnswer tables resolved).subcategories = tables.subcategories := by
        unfold withAnswer
        simp [found]
      refine ⟨⟨added, by rw [unchanged, isTables], fromRows, apart⟩, answer_keeps tables resolved, ?_⟩
      intro _ missing
      cases answered_unique missing.1 answered
      exfalso
      obtain ⟨isStored, isId⟩ := lookup_mem found
      rcases split isStored with inDb | isAdded
      · exact lookup_none_iff.mp missing.2 leaf inDb isId
      · have identity := identity_iff.mp (answered_identity faithful early)
        obtain ⟨_, _, _, _, isOther, _⟩ := fromRows leaf isAdded
        have has : hasIdentity row.targetKey row.targetPublicId leaf = true :=
          identity_iff.mpr ⟨same.2.1.trans identity.1, same.1.trans identity.2.1, by rw [isOther]; rfl⟩
        exact absurd has (by simpa using List.filter_eq_nil_iff.mp answered.1 leaf isStored)
    · have changed : (withAnswer tables resolved).subcategories =
          tables.subcategories ++ [resolved.subcategory] := by
        unfold withAnswer
        simp [missing]
      have inDb : getSubcategory db resolved.subcategoryId = none :=
        lookup_none_iff.mpr fun stored isStored =>
          lookup_none_iff.mp missing stored (isTables ▸ List.mem_append_left _ isStored)
      refine ⟨⟨added ++ [resolved.subcategory], by rw [changed, isTables, List.append_assoc], ?_, ?_⟩,
        answer_keeps tables resolved, ?_⟩
      · refine List.forall_mem_append.mpr ⟨fromRows, ?_⟩
        intro leaf isNew
        rw [List.mem_singleton.mp isNew]
        exact ⟨row, member, resolved, ⟨early, inDb⟩, rfl, fun other isStored =>
          fresh other (isTables ▸ List.mem_append_left _ isStored)⟩
      · refine List.pairwise_append.mpr ⟨apart, List.pairwise_singleton _ _, ?_⟩
        intro leaf isAdded _ isNew
        rw [List.mem_singleton.mp isNew]
        have isStored : leaf ∈ tables.subcategories := isTables ▸ List.mem_append_right _ isAdded
        obtain ⟨publicId, key⟩ := fresh leaf isStored
        exact ⟨lookup_none_iff.mp missing leaf isStored, key, publicId⟩
      · intro _ lacked
        cases answered_unique lacked.1 answered
        rw [changed]
        exact List.mem_append_right _ (List.mem_singleton_self _)

theorem repaired_refl (resolver : Option TaxonomyResolver) (db : Database) (rows : List ExecutionRow) :
    Repaired resolver db rows db :=
  ⟨[], (List.append_nil _).symm, fun _ member => (List.not_mem_nil member).elim, .nil⟩

theorem repaired_rows (faithful : Faithful resolver) {rest : List ExecutionRow}
    (within : ∀ row ∈ rest, row ∈ rows) (repaired : Repaired resolver db rows tables)
    (fits : Fits resolver tables rest) :
    ∃ final, Repaired resolver db rows final ∧ tables.subcategories ⊆ final.subcategories ∧
      ∀ row ∈ rest, ∀ resolved, Missing resolver db row resolved →
        resolved.subcategory ∈ final.subcategories := by
  induction rest generalizing tables with
  | nil => exact ⟨tables, repaired, List.Subset.refl _, fun row member => (List.not_mem_nil member).elim⟩
  | cons row rest ih =>
    obtain ⟨member, others⟩ := List.forall_mem_cons.mp within
    obtain ⟨here, later⟩ := fits
    obtain ⟨next, keeps, added⟩ := repaired_step faithful repaired member here
    obtain ⟨final, isFinal, grows, lacked⟩ := ih others next later
    refine ⟨final, isFinal, List.Subset.trans keeps grows, ?_⟩
    exact List.forall_mem_cons.mpr ⟨fun resolved missing => grows (added resolved missing), lacked⟩

theorem addable_of_fits (faithful : Faithful resolver) (fits : Fits resolver db rows) :
    Addable resolver db rows := by
  obtain ⟨_, ⟨added, isFinal, fromRows, apart⟩, _, lacked⟩ :=
    repaired_rows faithful (fun _ member => member) (repaired_refl resolver db rows) fits
  have isAdded {row : ExecutionRow} {resolved : ResolvedTaxonomyTarget} (member : row ∈ rows)
      (missing : Missing resolver db row resolved) : resolved.subcategory ∈ added := by
    have isStored := lacked row member resolved missing
    rw [isFinal, List.mem_append] at isStored
    rcases isStored with early | late
    · have identity := answered_identity faithful missing.1
      exact absurd identity (by simpa using List.filter_eq_nil_iff.mp missing.1.1 _ early)
    · exact late
  constructor
  · intro _ member _ missing
    obtain ⟨_, _, _, _, _, fresh⟩ := fromRows _ (isAdded member missing)
    exact fresh
  · intro _ firstIn _ secondIn resolved other missing otherMissing
    have symmetric : Std.Symm Apart :=
      ⟨fun _ _ apart => ⟨apart.1.symm, apart.2.1.symm, apart.2.2.symm⟩⟩
    by_cases same : resolved.subcategory = other.subcategory
    · exact .inl same
    · exact .inr (apart.forall (isAdded firstIn missing) (isAdded secondIn otherMissing) same)

theorem repaired_extends (repaired : Repaired resolver db rows tables)
    (categories : tables.categories = db.categories) : Extends db tables := by
  obtain ⟨added, isTables, fromRows, _⟩ := repaired
  refine ⟨⟨[], by rw [categories, List.append_nil]⟩, added, isTables, ?_⟩
  intro leaf isAdded stored isStored
  obtain ⟨_, _, _, _, _, fresh⟩ := fromRows leaf isAdded
  exact (fresh stored isStored).2

theorem only_member {leaves : List SubCategoryModel} {leaf : SubCategoryModel} (some : leaves ≠ [])
    (same : ∀ other ∈ leaves, other = leaf) (apart : leaves.Pairwise Apart) : leaves = [leaf] := by
  cases leaves with
  | nil => exact absurd rfl some
  | cons first leaves =>
    rw [same first List.mem_cons_self]
    cases leaves with
    | nil => rfl
    | cons second =>
      have both := (List.pairwise_cons.mp apart).1 second List.mem_cons_self
      rw [same first List.mem_cons_self,
        same second (List.mem_cons_of_mem _ List.mem_cons_self)] at both
      exact absurd rfl both.1

theorem fits_row (faithful : Faithful resolver) (addable : Addable resolver db rows)
    (member : row ∈ rows) (passes : Passes resolver db row) (repaired : Repaired resolver db rows tables)
    (categories : tables.categories = db.categories) :
    RowFits resolver tables row ∧ (repairedFor resolver tables row).categories = db.categories := by
  have growth := repaired_extends repaired categories
  obtain ⟨added, isTables, fromRows, apart⟩ := repaired
  obtain ⟨kind, id, leaf, parent, names, stored, active⟩ := passes
  have parentLater := get_category_grown growth stored
  rcases names with isLocal | ⟨absent, resolve, resolved, isResolver, answer, agreed⟩
  · obtain ⟨isStored, identity⟩ := filter_head isLocal
    have later := (identity_grown growth isStored (identity_iff.mp identity).1).trans isLocal
    rw [repaired_local later]
    exact ⟨⟨kind, id, .inl ⟨leaf, parent, later, parentLater, active⟩⟩, categories⟩
  · have early : Answered resolver db row resolved := ⟨absent, resolve, isResolver, answer⟩
    have isCategory : leaf.categoryId = resolved.categoryId := agreed.identity.2.2
    rw [isCategory] at stored parentLater
    have ofAdded : tables.subcategories.filter (hasIdentity row.targetKey row.targetPublicId) =
        added.filter (hasIdentity row.targetKey row.targetPublicId) := by
      rw [isTables, List.filter_append, absent, List.nil_append]
    by_cases none : added.filter (hasIdentity row.targetKey row.targetPublicId) = []
    · have answered : Answered resolver tables row resolved :=
        ⟨ofAdded.trans none, resolve, isResolver, answer⟩
      have same : SameCategory parent resolved := agreed.parents parent stored
      have subcategory : SubcategoryFits tables resolved := by
        cases found : getSubcategory db resolved.subcategoryId with
        | some before =>
          have isLeaf := agreed.stored
          rw [found, Option.getD_some] at isLeaf
          rw [isLeaf] at agreed
          exact .inl ⟨before, get_subcategory_grown growth found, agreed.identity⟩
        | none =>
          have missing : Missing resolver db row resolved := ⟨early, found⟩
          have others : ∀ other ∈ tables.subcategories, other.id ≠ resolved.subcategoryId ∧
              other.publicId ≠ resolved.subcategory.publicId ∧
              other.semanticKey ≠ resolved.subcategory.semanticKey := by
            intro other isOther
            rw [isTables, List.mem_append] at isOther
            rcases isOther with inDb | isAdded
            · exact ⟨lookup_none_iff.mp found other inDb,
                addable.fresh row member resolved missing other inDb⟩
            · obtain ⟨otherRow, otherIn, answered, lacked, rfl, _⟩ := fromRows other isAdded
              rcases addable.apart otherRow otherIn row member answered resolved lacked missing with
                same | ⟨ids, keys, publicIds⟩
              · have has := answered_identity faithful early
                rw [← same] at has
                exact absurd has (by simpa using List.filter_eq_nil_iff.mp none _ isAdded)
              · exact ⟨ids, publicIds, keys⟩
          exact .inr ⟨lookup_none_iff.mpr fun other isOther => (others other isOther).1,
            fun other isOther => (others other isOther).2⟩
      refine ⟨⟨kind, id, .inr ⟨resolved, answered, .inl ⟨parent, parentLater, same, active⟩, subcategory⟩⟩, ?_⟩
      rw [repaired_answered answered]
      unfold withAnswer
      simp [parentLater, categories]
    · have only := only_member none (fun other isOther => by
        obtain ⟨isAdded, identity⟩ := List.mem_filter.mp isOther
        exact added_answer faithful fromRows early isAdded identity) (apart.filter _)
      have later := ofAdded.trans only
      rw [repaired_local later]
      exact ⟨⟨kind, id, .inl ⟨resolved.subcategory, parent, later, parentLater, active⟩⟩, categories⟩

theorem fits_of_addable (faithful : Faithful resolver) (addable : Addable resolver db rows)
    {rest : List ExecutionRow} (within : ∀ row ∈ rest, row ∈ rows)
    (passes : ∀ row ∈ rest, Passes resolver db row) (repaired : Repaired resolver db rows tables)
    (categories : tables.categories = db.categories) : Fits resolver tables rest := by
  induction rest generalizing tables with
  | nil => trivial
  | cons row rest ih =>
    obtain ⟨member, others⟩ := List.forall_mem_cons.mp within
    obtain ⟨here, later⟩ := List.forall_mem_cons.mp passes
    obtain ⟨fits, same⟩ := fits_row faithful addable member here repaired categories
    exact ⟨fits, ih others later (repaired_step faithful repaired member fits).1 same⟩

end Parents

/-- What the dry run says of a row from its legacy place to a target. -/
def verdict (legacy target : Place) : Option Transaction → Outcome
  | none => .skippedMissing
  | some model =>
    if model.deleted then .skippedMissing
    else if placeOf model = target then .alreadyApplied
    else if isProtectedTier (model.categorizationTier.getD "") then .skippedProtected
    else if placeOf model = legacy then .validated
    else .skippedChanged

/-- A row behind the first one that moves the transaction does not name it with either of the two
places as its legacy or target place. -/
def NamedApart (resolver : Option TaxonomyResolver) (db : Database) (rows : List ExecutionRow)
    (model : Transaction) : Prop :=
  ∀ front row back there, rows = front ++ row :: back →
    (∀ earlier ∈ front, ∀ elsewhere, ¬TakesFrom resolver db model.id earlier (placeOf model) elsewhere) →
    TakesFrom resolver db model.id row (placeOf model) there →
    ∀ other ∈ back, Refers other model.id →
      (legacyPlace other ≠ placeOf model ∧ legacyPlace other ≠ there) ∧
        ∀ leaf, Names db resolver other.targetKey other.targetPublicId leaf →
          (some leaf.categoryId, some leaf.id) ≠ placeOf model ∧
            (some leaf.categoryId, some leaf.id) ≠ there

section Outcomes

variable {resolver : Option TaxonomyResolver} {db state after next : Database} {row : ExecutionRow}
  {rows front rest : List ExecutionRow} {outcome : Outcome} {early late outcomes : List Outcome}

theorem apply_to_verdict (db : Database) (row : ExecutionRow) (parent : CategoryModel)
    (leaf : SubCategoryModel) (found : Option Transaction) :
    (applyTo false db row parent leaf found).2 =
        verdict (legacyPlace row) (targetPlace parent leaf) found ∧
      dryName (applyTo true db row parent leaf found).2 =
        verdict (legacyPlace row) (targetPlace parent leaf) found := by
  cases found with
  | none => exact ⟨rfl, rfl⟩
  | some =>
    simp only [applyTo, verdict, placeOf, legacyPlace, targetPlace, Prod.mk.injEq]
    split_ifs <;> exact ⟨rfl, rfl⟩

/-- A live and unprotected transaction that is neither at the legacy place nor at the target. -/
theorem verdict_changed {legacy target : Place} {model : Transaction} (isMovable : movable model = true)
    (isLegacy : placeOf model ≠ legacy) (isTarget : placeOf model ≠ target) :
    verdict legacy target (some model) = .skippedChanged := by
  simp only [movable, Bool.and_eq_true, Bool.not_eq_true'] at isMovable
  simp [verdict, isMovable, isLegacy, isTarget]

/-- The rows before have not changed what the row is told of its transaction. -/
theorem verdict_kept (faithful : Faithful resolver)
    (ran : applyRows (applyRow true resolver) db front = .ok (state, early)) {model : Transaction}
    (stored : getTransaction db model.id = some model)
    (apart : movable model = true → NamedApart resolver db (front ++ row :: rest) model)
    (refers : Refers row model.id) {parent : CategoryModel} {leaf : SubCategoryModel}
    (names : Names db resolver row.targetKey row.targetPublicId leaf) (isParent : parent.id = leaf.categoryId) :
    verdict (legacyPlace row) (targetPlace parent leaf) (getTransaction state model.id) =
      verdict (legacyPlace row) (targetPlace parent leaf) (some model) := by
  have resolved : Resolved resolver db state front := run_targets faithful ran
  obtain ⟨moved, _⟩ := run_transaction faithful ran (Extends.refl state) stored
  rw [moved]
  by_cases isMovable : movable model = true
  · have movers_eq : movers resolver state front model =
        made (takes resolver state model.id) (placeOf model) front := if_pos isMovable
    rw [movers_eq]
    cases isMade : made (takes resolver state model.id) (placeOf model) front with
    | nil => rfl
    | cons first others =>
      obtain ⟨before, behind, there, rfl, stays, taken, isOthers⟩ := first_of_made isMade
      have isFirst : first ∈ before ++ first :: behind := by simp
      obtain ⟨firstParent, firstLeaf, found, firstNames, isStored⟩ := resolved first isFirst
      have early : ∀ other ∈ before, ∀ elsewhere,
          ¬TakesFrom resolver db model.id other (placeOf model) elsewhere := fun other member =>
        (takes_none_iff resolved (List.mem_append_left _ member)).mp (stays other member)
      have far := apart isMovable before first (behind ++ row :: rest) there (by simp) early
        ((takes_iff_from found firstNames isStored).mp taken)
      have nothing : others = [] := by
        rw [isOthers]
        apply made_nil_iff.mpr
        intro other member
        apply Option.eq_none_iff_forall_ne_some.mpr
        intro _ again
        obtain ⟨otherRefers, legacy, _⟩ := takes_some_iff.mp again
        exact (far other (List.mem_append_left _ member) otherRefers).1.2 legacy
      obtain ⟨_, _, _, isTarget, _, rfl⟩ := takes_some_iff.mp taken
      cases found.symm.trans isTarget
      obtain ⟨legacyFar, targetFar⟩ := far row (by simp) refers
      have place : targetPlace parent leaf = (some leaf.categoryId, some leaf.id) := by
        rw [targetPlace, isParent]
      obtain ⟨notHere, notThere⟩ := targetFar leaf names
      have isMoved : movable (withTarget model firstParent firstLeaf) = true := isMovable
      rw [nothing, (moved_by_cons model [] found).1, place,
        verdict_changed isMovable legacyFar.1.symm notHere.symm]
      exact verdict_changed isMoved legacyFar.2.symm notThere.symm
  · rw [movers, if_neg isMovable]
    rfl

theorem apply_rows_snoc {step : Database → ExecutionRow → Except WriterError (Database × Outcome)}
    (ran : applyRows step db front = .ok (state, early)) (applied : step state row = .ok (next, outcome)) :
    applyRows step db (front ++ [row]) = .ok (next, early ++ [outcome]) := by
  induction front generalizing db early with
  | nil =>
    cases ran
    exact apply_rows_cons.mpr ⟨next, outcome, [], applied, rfl, rfl⟩
  | cons first front ih =>
    obtain ⟨mid, firstOutcome, _, here, later, rfl⟩ := apply_rows_cons.mp ran
    exact apply_rows_cons.mpr ⟨mid, firstOutcome, _, here, ih later, rfl⟩

/-- One row of the run that executes is told what the dry run is told of it. -/
theorem outcome_match (faithful : Faithful resolver) {dryOutcome : Outcome}
    (ran : applyRows (applyRow true resolver) db front = .ok (state, early))
    (applied : applyRow true resolver state row = .ok (next, outcome))
    (dry : applyRow false resolver db row = .ok (db, dryOutcome))
    (apart : ∀ model, getTransaction db model.id = some model → movable model = true →
      NamedApart resolver db (front ++ row :: rest) model) : dryOutcome = dryName outcome := by
  have grown := (run_grown faithful (Grown.refl resolver db) ran).1
  obtain ⟨_, mid, leaf, parent, id, isLeaf, isParent, isId, returned⟩ := apply_row_ok.mp applied
  obtain ⟨_, _, _, _, _, dryNames, dryStored, _, isDryId, isDry⟩ := dry_row_ok.mp dry
  have names := resolved_names faithful grown isLeaf
  cases names_unique names dryNames
  cases isId.symm.trans isDryId
  have later := get_category_grown (grown.grown.trans (resolved_extends isLeaf)) dryStored
  cases later.symm.trans (active_parent_ok.mp isParent).1
  have parentId : parent.id = leaf.categoryId := (lookup_mem dryStored).2
  have sameRows : getTransaction mid id = getTransaction state id := by
    unfold getTransaction
    rw [(resolved_transactions isLeaf).1]
  have executed : (applyTo true mid row parent leaf (getTransaction mid id)).2 = outcome :=
    congrArg Prod.snd returned
  rw [sameRows] at executed
  rw [← executed, ← isDry, (apply_to_verdict _ _ _ _ _).1, (apply_to_verdict _ _ _ _ _).2]
  cases found : getTransaction db id with
  | none =>
    have none : getTransaction state id = none := by
      rw [getTransaction, List.find?_eq_none] at found ⊢
      intro model member
      have isStored : model.id ∈ db.transactions.map Transaction.id :=
        (run_events ran).1 ▸ List.mem_map_of_mem member
      obtain ⟨before, isBefore, same⟩ := List.mem_map.mp isStored
      rw [← same]
      exact found before isBefore
    rw [none]
  | some model =>
    have isHere : (model.id : ℤ) = id := by simpa [getTransaction] using List.find?_some found
    rw [← isHere] at found isId ⊢
    exact (verdict_kept faithful ran found (apart model found) isId names parentId).symm

theorem outcomes_match (faithful : Faithful resolver)
    (ran : applyRows (applyRow true resolver) db front = .ok (state, early))
    (others : applyRows (applyRow true resolver) state rest = .ok (after, late))
    (dry : applyRows (applyRow false resolver) db rest = .ok (db, outcomes))
    (apart : ∀ model, getTransaction db model.id = some model → movable model = true →
      NamedApart resolver db (front ++ rest) model) : outcomes = late.map dryName := by
  induction rest generalizing front state early late outcomes with
  | nil =>
    cases others
    cases dry
    rfl
  | cons row rest ih =>
    obtain ⟨_, _, _, applied, lateRows, rfl⟩ := apply_rows_cons.mp others
    obtain ⟨_, _, _, dryApplied, dryRows, rfl⟩ := apply_rows_cons.mp dry
    obtain ⟨rfl, _⟩ := dry_row_ok.mp dryApplied
    have behind := ih (apply_rows_snoc ran applied) lateRows dryRows
      (by simpa only [List.append_assoc, List.singleton_append] using apart)
    rw [List.map_cons, outcome_match faithful ran applied dryApplied apart, behind]

theorem executed_not_validated (ran : applyRows (applyRow true resolver) db rows = .ok (after, outcomes)) :
    Outcome.validated ∉ outcomes := by
  induction rows generalizing db outcomes with
  | nil =>
    cases ran
    exact List.not_mem_nil
  | cons row rows ih =>
    obtain ⟨_, outcome, _, applied, others, rfl⟩ := apply_rows_cons.mp ran
    obtain ⟨_, mid, leaf, parent, id, _, _, _, returned⟩ := apply_row_ok.mp applied
    have isOutcome : (applyTo true mid row parent leaf (getTransaction mid id)).2 = outcome :=
      congrArg Prod.snd returned
    have other : outcome ≠ .validated := by
      rw [← isOutcome]
      cases getTransaction mid id with
      | none => exact fun same => by cases same
      | some =>
        simp only [applyTo, written, if_true]
        split_ifs <;> exact fun same => by cases same
    rw [List.mem_cons, not_or]
    exact ⟨other.symm, ih others⟩

end Outcomes

/-- The dry run raises where the run that executes does, else has its counts, and leaves the
tables as they are. -/
structure Predicts (resolver : Option TaxonomyResolver) (db : Database) (manifest : ExecutionManifest) :
    Prop where
  raises : (∃ error, applyReclassification false resolver db manifest = .error error) ↔
    ∃ error, applyReclassification true resolver db manifest = .error error
  counts : ∀ {dryAfter counts after executed},
    applyReclassification false resolver db manifest = .ok (dryAfter, counts) →
      applyReclassification true resolver db manifest = .ok (after, executed) → counts = dryCounts executed
  keeps : ∀ {dryAfter counts},
    applyReclassification false resolver db manifest = .ok (dryAfter, counts) → dryAfter = db

section Prediction

variable {resolver : Option TaxonomyResolver} {manifest : ExecutionManifest}

theorem manifest_returns {db : Database} {execute : Bool} :
    (∃ result, applyReclassification execute resolver db manifest = .ok result) ↔
      ∃ result, applyRows (applyRow execute resolver) db manifest.rows = .ok result := by
  constructor
  · rintro ⟨⟨after, counts⟩, returned⟩
    obtain ⟨_, ran, _⟩ := apply_manifest_ok.mp returned
    exact ⟨_, ran⟩
  · rintro ⟨⟨after, outcomes⟩, ran⟩
    exact ⟨_, apply_manifest_ok.mpr ⟨outcomes, ran, rfl⟩⟩

theorem manifest_raises {db : Database} {execute : Bool} :
    (∃ error, applyReclassification execute resolver db manifest = .error error) ↔
      ¬∃ result, applyRows (applyRow execute resolver) db manifest.rows = .ok result := by
  rw [← manifest_returns]
  cases applyReclassification execute resolver db manifest with
  | error | ok => simp

end Prediction

def fundAnswer : TaxonomyAnswer where
  categories := [⟨80, "Formue", "transfer", some "wealth", some "wealth-public-id", some "active"⟩]
  subcategories :=
    [⟨180, 80, "Investering", some "investment", some "investment-public-id", some "active"⟩]

def fundResolver : TaxonomyResolver := taxonomyResolver (some fundAnswer)

def emptyTaxonomy : Database where
  categories := []
  subcategories := []
  transactions := [fundPurchase]

def answeredTarget : ResolvedTaxonomyTarget where
  subcategoryId := 180
  subcategoryName := "Investering"
  subcategoryKey := "investment"
  subcategoryPublicId := "investment-public-id"
  categoryId := 80
  categoryName := "Formue"
  categoryType := "transfer"
  categoryKey := "wealth"
  categoryPublicId := "wealth-public-id"

theorem fund_answered : Answered (some fundResolver) emptyTaxonomy onceRow answeredTarget :=
  ⟨rfl, fundResolver, rfl, rfl⟩

theorem fund_fits : Fits (some fundResolver) emptyTaxonomy [onceRow] := by
  have category : CategoryFits emptyTaxonomy answeredTarget :=
    .inr ⟨rfl, fun other member => by cases member⟩
  have subcategory : SubcategoryFits emptyTaxonomy answeredTarget :=
    .inr ⟨rfl, fun other member => by cases member⟩
  exact ⟨⟨rfl, ⟨1, by decide +kernel⟩, .inr ⟨answeredTarget, fund_answered, category, subcategory⟩⟩, trivial⟩

end FinanceTracker.Transaction.DryRuns
