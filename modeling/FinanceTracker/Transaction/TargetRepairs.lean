import FinanceTracker.Transaction.ProposedTargets

/-!
# The repairs of an executed manifest

A run that executes adds the categories and subcategories that the read copy lacks and
the taxonomy answers. Every row of a run that returns resolves to the subcategory that
its key and public id stand for on the tables before the run, and does so again on every
later state.
-/

namespace FinanceTracker.Transaction.TargetRepairs

open Library KeyedRows Runs Reclassification.Contracts Reclassification.Writers ProposedTargets
  Transaction.Reclassification

/-- What the resolver answers is what it was asked for. -/
def Faithful (resolver : Option TaxonomyResolver) : Prop :=
  ∀ resolve, resolver = some resolve → ∀ {semanticKey publicId resolved},
    resolve semanticKey publicId = .ok (some resolved) →
      resolved.subcategoryKey = semanticKey ∧ resolved.subcategoryPublicId = publicId

theorem taxonomy_resolver_faithful (given : Option (Option TaxonomyAnswer)) :
    Faithful (given.map taxonomyResolver) := by
  intro _ isResolver _ _ _ answered
  obtain ⟨answer, _, rfl⟩ := Option.map_eq_some_iff.mp isResolver
  cases answer with
  | none => cases answered
  | some =>
    obtain ⟨_, answered⟩ := rest_ok answered
    have found := List.find?_some (Except.ok.inj answered)
    simpa only [Bool.and_eq_true, decide_eq_true_eq] using found

/-- Rows were added to the tables of the taxonomy, the subcategories with new identities. -/
structure Extends (db next : Database) : Prop where
  categories : ∃ added, next.categories = db.categories ++ added
  subcategories : ∃ added, next.subcategories = db.subcategories ++ added ∧
    ∀ row ∈ added, ∀ stored ∈ db.subcategories, stored.semanticKey ≠ row.semanticKey

section Growth

variable {db mid next : Database}

theorem Extends.refl (db : Database) : Extends db db where
  categories := ⟨[], (List.append_nil _).symm⟩
  subcategories := ⟨[], (List.append_nil _).symm, fun _ member => (List.not_mem_nil member).elim⟩

theorem Extends.trans (first : Extends db mid) (second : Extends mid next) : Extends db next where
  categories := by
    obtain ⟨early, isMid⟩ := first.categories
    obtain ⟨late, isNext⟩ := second.categories
    exact ⟨early ++ late, by rw [isNext, isMid, List.append_assoc]⟩
  subcategories := by
    obtain ⟨early, isMid, earlyNew⟩ := first.subcategories
    obtain ⟨late, isNext, lateNew⟩ := second.subcategories
    refine ⟨early ++ late, by rw [isNext, isMid, List.append_assoc], ?_⟩
    intro row member stored isStored
    rcases List.mem_append.mp member with isEarly | isLate
    · exact earlyNew row isEarly stored isStored
    · refine lateNew row isLate stored ?_
      rw [isMid]
      exact List.mem_append_left _ isStored

/-- Writes to other tables do not matter. -/
theorem Extends.of_same (categories : next.categories = db.categories)
    (subcategories : next.subcategories = db.subcategories) : Extends db next where
  categories := ⟨[], by rw [categories, List.append_nil]⟩
  subcategories :=
    ⟨[], by rw [subcategories, List.append_nil], fun row member => (List.not_mem_nil member).elim⟩

theorem lookup_grown {Row : Type} {key : Row → ℤ} {rows added : List Row} {id : ℤ} {row : Row}
    (found : lookup key rows id = some row) : lookup key (rows ++ added) id = some row := by
  unfold lookup at found ⊢
  rw [List.find?_append, found, Option.some_or]

theorem get_category_grown {id : ℤ} {row : CategoryModel} (grown : Extends db next)
    (found : getCategory db id = some row) : getCategory next id = some row := by
  obtain ⟨_, isNext⟩ := grown.categories
  unfold getCategory at found ⊢
  rw [isNext]
  exact lookup_grown found

theorem get_subcategory_grown {id : ℤ} {row : SubCategoryModel} (grown : Extends db next)
    (found : getSubcategory db id = some row) : getSubcategory next id = some row := by
  obtain ⟨_, isNext, _⟩ := grown.subcategories
  unfold getSubcategory at found ⊢
  rw [isNext]
  exact lookup_grown found

theorem identity_grown {targetKey targetPublicId : String} {stored : SubCategoryModel}
    (grown : Extends db next) (isStored : stored ∈ db.subcategories)
    (key : stored.semanticKey = some targetKey) :
    next.subcategories.filter (hasIdentity targetKey targetPublicId) =
      db.subcategories.filter (hasIdentity targetKey targetPublicId) := by
  obtain ⟨added, isNext, new⟩ := grown.subcategories
  have none : added.filter (hasIdentity targetKey targetPublicId) = [] := by
    refine List.filter_eq_nil_iff.mpr fun row member has => new row member stored isStored ?_
    simp only [hasIdentity, Bool.and_eq_true, decide_eq_true_eq] at has
    rw [key, has.1.1]
  rw [isNext, List.filter_append, none, List.append_nil]

end Growth

def FreshCategory (db : Database) (row : CategoryModel) : Prop :=
  ∀ other ∈ db.categories, other.publicId ≠ row.publicId ∧ other.semanticKey ≠ row.semanticKey ∧
    ¬(other.lifecycle = some "active" ∧ other.name = row.name)

def FreshSubcategory (db : Database) (row : SubCategoryModel) : Prop :=
  ∀ other ∈ db.subcategories, other.publicId ≠ row.publicId ∧ other.semanticKey ≠ row.semanticKey

section Repairs

variable {db next : Database} {resolved : ResolvedTaxonomyTarget} {leaf : SubCategoryModel}

theorem add_category_ok {row : CategoryModel} : addCategory db row = .ok next ↔
    FreshCategory db row ∧ next = { db with categories := db.categories ++ [row] } := by
  have fresh : FreshCategory db row ↔ ¬(db.categories.any fun other =>
      other.publicId = row.publicId || other.semanticKey = row.semanticKey ||
        (other.lifecycle = some "active" && other.name = row.name)) = true := by
    simp only [FreshCategory, List.any_eq_true, not_exists, not_and, Bool.or_eq_true, Bool.and_eq_true,
      decide_eq_true_eq, not_or, and_assoc]
  rw [fresh]
  unfold addCategory
  split
  · next conflict => exact iff_of_false (fun returned => by cases returned) fun both => both.1 conflict
  · next fits =>
    rw [Except.ok.injEq, eq_comm]
    exact (and_iff_right fits).symm

theorem add_subcategory_ok {row : SubCategoryModel} : addSubcategory db row = .ok next ↔
    FreshSubcategory db row ∧ next = { db with subcategories := db.subcategories ++ [row] } := by
  have fresh : FreshSubcategory db row ↔ ¬(db.subcategories.any fun other =>
      other.publicId = row.publicId || other.semanticKey = row.semanticKey) = true := by
    simp only [FreshSubcategory, List.any_eq_true, not_exists, not_and, Bool.or_eq_true,
      decide_eq_true_eq, not_or]
  rw [fresh]
  unfold addSubcategory
  split
  · next conflict => exact iff_of_false (fun returned => by cases returned) fun both => both.1 conflict
  · next fits =>
    rw [Except.ok.injEq, eq_comm]
    exact (and_iff_right fits).symm

/-- The stored category is the one that the answer names. -/
def SameCategory (parent : CategoryModel) (resolved : ResolvedTaxonomyTarget) : Prop :=
  parent.publicId = some resolved.categoryPublicId ∧ parent.semanticKey = some resolved.categoryKey

def SameSubcategory (leaf : SubCategoryModel) (resolved : ResolvedTaxonomyTarget) : Prop :=
  leaf.publicId = some resolved.subcategoryPublicId ∧ leaf.semanticKey = some resolved.subcategoryKey ∧
    leaf.categoryId = resolved.categoryId

theorem repair_category_ok : repairCategory true db resolved = .ok next ↔
    (∃ parent, getCategory db resolved.categoryId = some parent ∧ SameCategory parent resolved ∧ next = db) ∨
      (getCategory db resolved.categoryId = none ∧ FreshCategory db resolved.category ∧
        next = { db with categories := db.categories ++ [resolved.category] }) := by
  unfold repairCategory
  cases found : getCategory db resolved.categoryId with
  | none => simp [add_category_ok]
  | some =>
    simp only [Option.some.injEq, exists_eq_left', reduceCtorEq, false_and, or_false]
    unfold SameCategory
    split
    · next same => simp [same, eq_comm]
    · next other => simp [other]

theorem repair_subcategory_ok : repairSubcategory true db resolved = .ok (next, leaf) ↔
    (getSubcategory db resolved.subcategoryId = some leaf ∧ SameSubcategory leaf resolved ∧ next = db) ∨
      (getSubcategory db resolved.subcategoryId = none ∧ FreshSubcategory db resolved.subcategory ∧
        leaf = resolved.subcategory ∧
        next = { db with subcategories := db.subcategories ++ [resolved.subcategory] }) := by
  unfold repairSubcategory
  cases found : getSubcategory db resolved.subcategoryId with
  | none =>
    simp only [if_true, reduceCtorEq, false_and, false_or, true_and]
    constructor
    · intro returned
      obtain ⟨_, isAdded, returned⟩ := bind_eq_ok.mp returned
      obtain ⟨fresh, rfl⟩ := add_subcategory_ok.mp isAdded
      cases returned
      exact ⟨fresh, rfl, rfl⟩
    · rintro ⟨fresh, rfl, rfl⟩
      exact bind_eq_ok.mpr ⟨_, add_subcategory_ok.mpr ⟨fresh, rfl⟩, rfl⟩
  | some =>
    simp only [Option.some.injEq, reduceCtorEq, false_and, or_false]
    unfold SameSubcategory
    split
    · next same =>
      simp only [Except.ok.injEq, Prod.mk.injEq]
      constructor
      · rintro ⟨rfl, rfl⟩
        exact ⟨rfl, same, rfl⟩
      · rintro ⟨rfl, _, rfl⟩
        exact ⟨rfl, rfl⟩
    · next other =>
      constructor
      · intro returned
        cases returned
      · rintro ⟨rfl, same, _⟩
        exact absurd same other

theorem repair_category_extends (repaired : repairCategory true db resolved = .ok next) :
    Extends db next := by
  rcases repair_category_ok.mp repaired with ⟨_, _, _, rfl⟩ | ⟨_, _, rfl⟩
  · exact Extends.refl next
  · exact ⟨⟨_, rfl⟩, (Extends.refl db).subcategories⟩

theorem repair_subcategory_extends (repaired : repairSubcategory true db resolved = .ok (next, leaf)) :
    Extends db next := by
  rcases repair_subcategory_ok.mp repaired with ⟨_, _, rfl⟩ | ⟨_, fresh, _, rfl⟩
  · exact Extends.refl next
  · refine ⟨(Extends.refl db).categories, _, rfl, ?_⟩
    intro _ member stored isStored
    rw [List.mem_singleton.mp member]
    exact (fresh stored isStored).2

end Repairs

/-- The tables hold the target that the row resolves to: as an active subcategory, or as the one
that the taxonomy answers. -/
def Settled (resolver : Option TaxonomyResolver) (db : Database) (row : ExecutionRow)
    (leaf : SubCategoryModel) : Prop :=
  db.subcategories.filter (hasIdentity row.targetKey row.targetPublicId) = [leaf] ∨
    (db.subcategories.filter (hasIdentity row.targetKey row.targetPublicId) = [] ∧
      ∃ resolve resolved parent, resolver = some resolve ∧
        resolve row.targetKey row.targetPublicId = .ok (some resolved) ∧
        getCategory db resolved.categoryId = some parent ∧ SameCategory parent resolved ∧
        getSubcategory db resolved.subcategoryId = some leaf ∧ SameSubcategory leaf resolved)

section Rows

variable {resolver : Option TaxonomyResolver} {db next : Database} {row : ExecutionRow}
  {leaf : SubCategoryModel}

/-- Either the read copy has the target, or the answer of the taxonomy is repaired. -/
theorem resolve_target_ok : resolveTarget true resolver db row = .ok (next, leaf) ↔
    (db.subcategories.filter (hasIdentity row.targetKey row.targetPublicId) = [leaf] ∧ next = db) ∨
      (db.subcategories.filter (hasIdentity row.targetKey row.targetPublicId) = [] ∧
        ∃ resolve resolved mid, resolver = some resolve ∧
          resolve row.targetKey row.targetPublicId = .ok (some resolved) ∧
          repairCategory true db resolved = .ok mid ∧
          repairSubcategory true mid resolved = .ok (next, leaf)) := by
  unfold resolveTarget
  cases found : db.subcategories.filter (hasIdentity row.targetKey row.targetPublicId) with
  | cons stored others =>
    cases others with
    | nil => simp [scalarOneOrNone, ok_bind, eq_comm, and_comm]
    | cons => simp [scalarOneOrNone, error_bind]
  | nil =>
    cases resolver with
    | none => simp [scalarOneOrNone, ok_bind]
    | some resolve =>
      simp only [scalarOneOrNone, ok_bind, List.nil_eq, reduceCtorEq, false_and, false_or, true_and,
        Option.some.injEq]
      constructor
      · intro returned
        obtain ⟨answer, isAnswer, returned⟩ := bind_eq_ok.mp returned
        cases answer with
        | none => cases returned
        | some resolved =>
          obtain ⟨mid, isRepaired, isLeaf⟩ := bind_eq_ok.mp returned
          exact ⟨resolve, resolved, mid, rfl, isAnswer, isRepaired, isLeaf⟩
      · rintro ⟨_, resolved, mid, rfl, isAnswer, isRepaired, isLeaf⟩
        exact bind_eq_ok.mpr ⟨some resolved, isAnswer, bind_eq_ok.mpr ⟨mid, isRepaired, isLeaf⟩⟩

theorem settled_resolves (settled : Settled resolver db row leaf) :
    resolveTarget true resolver db row = .ok (db, leaf) := by
  rcases settled with isLocal | ⟨absent, resolve, resolved, parent, isResolver, answered, isParent,
    sameParent, isLeaf, same⟩
  · exact resolve_target_ok.mpr (.inl ⟨isLocal, rfl⟩)
  · exact resolve_target_ok.mpr (.inr ⟨absent, resolve, resolved, db, isResolver, answered,
      repair_category_ok.mpr (.inl ⟨parent, isParent, sameParent, rfl⟩),
      repair_subcategory_ok.mpr (.inl ⟨isLeaf, same, rfl⟩)⟩)

theorem resolved_extends (returned : resolveTarget true resolver db row = .ok (next, leaf)) :
    Extends db next := by
  rcases resolve_target_ok.mp returned with ⟨_, rfl⟩ | ⟨_, _, _, mid, _, _, isRepaired, isLeaf⟩
  · exact Extends.refl next
  · exact (repair_category_extends isRepaired).trans (repair_subcategory_extends isLeaf)

theorem filter_head {Row : Type} {rows : List Row} {chosen : Row → Bool} {row : Row}
    (found : rows.filter chosen = [row]) : row ∈ rows ∧ chosen row = true :=
  List.mem_filter.mp (found ▸ List.mem_singleton_self row)

theorem settled_grown (faithful : Faithful resolver) (grown : Extends db next)
    (settled : Settled resolver db row leaf) : Settled resolver next row leaf := by
  rcases settled with isLocal | ⟨absent, resolve, resolved, parent, isResolver, answered, isParent,
    sameParent, isLeaf, same⟩
  · obtain ⟨isStored, identity⟩ := filter_head isLocal
    simp only [hasIdentity, Bool.and_eq_true, decide_eq_true_eq] at identity
    left
    rw [identity_grown grown isStored identity.1.1, isLocal]
  · obtain ⟨isKey, _⟩ := faithful resolve isResolver answered
    have key : leaf.semanticKey = some row.targetKey := by rw [same.2.1, isKey]
    right
    refine ⟨?_, resolve, resolved, parent, isResolver, answered, get_category_grown grown isParent,
      sameParent, get_subcategory_grown grown isLeaf, same⟩
    rw [identity_grown grown (lookup_mem isLeaf).1 key, absent]

theorem resolved_settled (faithful : Faithful resolver)
    (returned : resolveTarget true resolver db row = .ok (next, leaf)) :
    Settled resolver next row leaf := by
  rcases resolve_target_ok.mp returned with ⟨isLocal, rfl⟩ | ⟨absent, resolve, resolved, mid, isResolver,
    answered, isRepaired, isLeaf⟩
  · exact .inl isLocal
  · obtain ⟨isKey, isPublicId⟩ := faithful resolve isResolver answered
    have isParent : ∃ parent, getCategory mid resolved.categoryId = some parent ∧
        SameCategory parent resolved ∧ mid.subcategories = db.subcategories := by
      rcases repair_category_ok.mp isRepaired with ⟨parent, found, same, rfl⟩ | ⟨missing, _, rfl⟩
      · exact ⟨parent, found, same, rfl⟩
      · refine ⟨resolved.category, ?_, ⟨rfl, rfl⟩, rfl⟩
        unfold getCategory lookup at missing ⊢
        rw [List.find?_append, missing, Option.none_or, List.find?_singleton, if_pos]
        exact decide_eq_true rfl
    obtain ⟨parent, isParent, sameParent, same⟩ := isParent
    rcases repair_subcategory_ok.mp isLeaf with ⟨found, sameLeaf, rfl⟩ | ⟨_, fresh, rfl, rfl⟩
    · exact .inr ⟨by rw [same, absent], resolve, resolved, parent, isResolver, answered, isParent,
        sameParent, found, sameLeaf⟩
    · left
      have added : hasIdentity row.targetKey row.targetPublicId resolved.subcategory = true := by
        simp [hasIdentity, ResolvedTaxonomyTarget.subcategory, isKey, isPublicId]
      rw [List.filter_append, same, absent, List.filter_cons_of_pos added, List.filter_nil, List.nil_append]

end Rows

/-- Every added subcategory is the answer to its own identity, which the tables before the run
neither had as an active subcategory nor contradict. -/
structure Grown (resolver : Option TaxonomyResolver) (db state : Database) : Prop where
  grown : Extends db state
  added : ∀ row ∈ state.subcategories, row ∈ db.subcategories ∨ ∃ resolve resolved,
    resolver = some resolve ∧
      resolve resolved.subcategoryKey resolved.subcategoryPublicId = .ok (some resolved) ∧
      row = resolved.subcategory ∧ Agreed db resolved row ∧
      db.subcategories.filter (hasIdentity resolved.subcategoryKey resolved.subcategoryPublicId) = []

section Names

variable {resolver : Option TaxonomyResolver} {db state next : Database} {row : ExecutionRow}
  {leaf : SubCategoryModel} {resolved : ResolvedTaxonomyTarget}

theorem Grown.refl (resolver : Option TaxonomyResolver) (db : Database) : Grown resolver db db :=
  ⟨Extends.refl db, fun _ member => .inl member⟩

/-- Writes to other tables do not matter. -/
theorem Grown.of_same (grown : Grown resolver db state) (growth : Extends state next)
    (subcategories : next.subcategories = state.subcategories) : Grown resolver db next where
  grown := grown.grown.trans growth
  added := by
    rw [subcategories]
    exact grown.added

variable {targetKey targetPublicId : String}

theorem identity_iff {stored : SubCategoryModel} :
    hasIdentity targetKey targetPublicId stored = true ↔ stored.semanticKey = some targetKey ∧
      stored.publicId = some targetPublicId ∧ stored.lifecycle = some "active" := by
  simp only [hasIdentity, Bool.and_eq_true, decide_eq_true_eq, and_assoc]

/-- An active subcategory of a grown table is what its identity stood for before. -/
theorem local_names (grown : Grown resolver db state)
    (isLocal : state.subcategories.filter (hasIdentity row.targetKey row.targetPublicId) = [leaf]) :
    Names db resolver row.targetKey row.targetPublicId leaf := by
  obtain ⟨isStored, identity⟩ := filter_head isLocal
  obtain ⟨key, publicId, _⟩ := identity_iff.mp identity
  rcases grown.added leaf isStored with early | ⟨resolve, resolved, isResolver, answered, rfl, agreed,
    absent⟩
  · left
    rw [← identity_grown grown.grown early key, isLocal]
  · have isKey : resolved.subcategoryKey = row.targetKey := Option.some.inj key
    have isPublicId : resolved.subcategoryPublicId = row.targetPublicId := Option.some.inj publicId
    rw [isKey, isPublicId] at answered absent
    exact .inr ⟨absent, resolve, resolved, isResolver, answered, agreed⟩

theorem absent_before (grown : Extends db state)
    (absent : state.subcategories.filter (hasIdentity targetKey targetPublicId) = []) :
    db.subcategories.filter (hasIdentity targetKey targetPublicId) = [] := by
  obtain ⟨_, isState, _⟩ := grown.subcategories
  rw [isState, List.filter_append] at absent
  exact (List.append_eq_nil_iff.mp absent).1

theorem lookup_before {Row : Type} {key : Row → ℤ} {rows added : List Row} {id : ℤ} {row : Row}
    (isEarly : row ∈ rows) (found : lookup key (rows ++ added) id = some row) :
    lookup key rows id = some row := by
  cases early : lookup key rows id with
  | none => exact absurd (lookup_mem found).2 (lookup_none_iff.mp early row isEarly)
  | some => rw [← lookup_grown early, found]

theorem missing_before (grown : Extends db state) {id : ℤ} (missing : getSubcategory state id = none) :
    getSubcategory db id = none := by
  cases found : getSubcategory db id with
  | none => rfl
  | some => rw [get_subcategory_grown grown found] at missing; contradiction

theorem answer_agrees (faithful : Faithful resolver) (grown : Grown resolver db state)
    {resolve : TaxonomyResolver} {mid : Database} (isResolver : resolver = some resolve)
    (absent : state.subcategories.filter (hasIdentity row.targetKey row.targetPublicId) = [])
    (answered : resolve row.targetKey row.targetPublicId = .ok (some resolved))
    (isRepaired : repairCategory true state resolved = .ok mid)
    (isLeaf : repairSubcategory true mid resolved = .ok (next, leaf)) : Agreed db resolved leaf := by
  obtain ⟨isKey, isPublicId⟩ := faithful resolve isResolver answered
  have parents : ∀ parent, getCategory db resolved.categoryId = some parent →
      SameCategory parent resolved := by
    intro _ found
    have later := get_category_grown grown.grown found
    rcases repair_category_ok.mp isRepaired with ⟨other, isOther, same, _⟩ | ⟨missing, _⟩
    · cases later.symm.trans isOther
      exact same
    · exact absurd (later.symm.trans missing) (by simp)
  have sameTable : mid.subcategories = state.subcategories := by
    rcases repair_category_ok.mp isRepaired with ⟨_, _, _, rfl⟩ | ⟨_, _, rfl⟩ <;> rfl
  rcases repair_subcategory_ok.mp isLeaf with ⟨found, same, rfl⟩ | ⟨missing, _, rfl, rfl⟩
  · refine ⟨parents, ?_, same⟩
    unfold getSubcategory at found
    rw [sameTable] at found
    rcases grown.added leaf (lookup_mem found).1 with early | ⟨_, other, _, _, isOther, _, _⟩
    · obtain ⟨_, isState, _⟩ := grown.grown.subcategories
      rw [isState] at found
      unfold getSubcategory
      rw [lookup_before early found, Option.getD_some]
    · have has : hasIdentity row.targetKey row.targetPublicId leaf = true := by
        refine identity_iff.mpr ⟨by rw [same.2.1, isKey], by rw [same.1, isPublicId], ?_⟩
        rw [isOther]
        rfl
      exact absurd has (by simpa using List.filter_eq_nil_iff.mp absent leaf (lookup_mem found).1)
  · refine ⟨parents, ?_, rfl, rfl, rfl⟩
    unfold getSubcategory at missing
    rw [sameTable] at missing
    rw [missing_before grown.grown missing, Option.getD_none]

theorem resolved_names (faithful : Faithful resolver) (grown : Grown resolver db state)
    (returned : resolveTarget true resolver state row = .ok (next, leaf)) :
    Names db resolver row.targetKey row.targetPublicId leaf := by
  rcases resolve_target_ok.mp returned with ⟨isLocal, rfl⟩ | ⟨absent, resolve, resolved, mid, isResolver,
    answered, isRepaired, isLeaf⟩
  · exact local_names grown isLocal
  · exact .inr ⟨absent_before grown.grown absent, resolve, resolved, isResolver, answered,
      answer_agrees faithful grown isResolver absent answered isRepaired isLeaf⟩

theorem resolved_grown (faithful : Faithful resolver) (grown : Grown resolver db state)
    (returned : resolveTarget true resolver state row = .ok (next, leaf)) : Grown resolver db next := by
  refine ⟨grown.grown.trans (resolved_extends returned), ?_⟩
  rcases resolve_target_ok.mp returned with ⟨_, rfl⟩ | ⟨absent, resolve, resolved, mid, isResolver,
    answered, isRepaired, isLeaf⟩
  · exact grown.added
  · have sameTable : mid.subcategories = state.subcategories := by
      rcases repair_category_ok.mp isRepaired with ⟨_, _, _, rfl⟩ | ⟨_, _, rfl⟩ <;> rfl
    have agreed := answer_agrees faithful grown isResolver absent answered isRepaired isLeaf
    obtain ⟨isKey, isPublicId⟩ := faithful resolve isResolver answered
    have before := absent_before grown.grown absent
    rw [← isKey, ← isPublicId] at answered before
    rcases repair_subcategory_ok.mp isLeaf with ⟨_, _, rfl⟩ | ⟨_, _, rfl, rfl⟩
    · rw [sameTable]
      exact grown.added
    · intro other member
      rw [sameTable, List.mem_append, List.mem_singleton] at member
      rcases member with early | rfl
      · exact grown.added other early
      · exact .inr ⟨resolve, resolved, isResolver, answered, rfl, agreed, before⟩

/-- A key and a public id stand for one subcategory. -/
theorem names_unique {other : SubCategoryModel}
    (first : Names db resolver targetKey targetPublicId leaf)
    (second : Names db resolver targetKey targetPublicId other) : leaf = other := by
  rcases first with isLocal | ⟨absent, resolve, resolved, isResolver, answered, agreed⟩
  · rcases second with isOther | ⟨absent, _⟩
    · exact (List.cons.inj (isLocal.symm.trans isOther)).1
    · exact absurd (isLocal.symm.trans absent) (by simp)
  · rcases second with isOther | ⟨_, _, others, isSame, otherAnswered, otherAgreed⟩
    · exact absurd (isOther.symm.trans absent) (by simp)
    · cases isResolver.symm.trans isSame
      cases answered.symm.trans otherAnswered
      rw [agreed.stored, otherAgreed.stored]

end Names

end FinanceTracker.Transaction.TargetRepairs
