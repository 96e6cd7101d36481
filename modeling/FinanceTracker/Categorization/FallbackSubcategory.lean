import FinanceTracker.Categorization.CategoryService

/-!
# The fallback subcategory

Whether the provider still finds its fallback after use cases of `CategoryService`. The
provider looks for a semantic key and then for a name; the service only refuses to delete
a subcategory of that name. The database refuses to delete a category that a subcategory
refers to.
-/

namespace FinanceTracker.Categorization.FallbackSubcategory

open Library KeyedRows Runs SerialRows CategoryService List
open Shared.TaxonomyEvents (EventKind)

/-- `fallback_model` of `_reload`, which reads every row. -/
def fallbackModel (tables : OwnerTables) : Option SubCategory :=
  (tables.subcategories.rows.find? fun sub => sub.semanticKey = some "shopping_unspecified").or
    (tables.subcategories.rows.find? fun sub => sub.name = "Anden")

def fallbackSubcategoryId (tables : OwnerTables) : Int :=
  ((fallbackModel tables).map SubCategory.id).getD 0

def fallbackCategoryId (tables : OwnerTables) : Int :=
  ((fallbackModel tables).map SubCategory.categoryId).getD 0

/-- The fallback and its category exist, and the pipeline answers with their ids. -/
structure Resolves (tables : OwnerTables) : Prop where
  found : ∃ sub ∈ tables.subcategories.rows, fallbackModel tables = some sub ∧
    (tables.categories.find sub.categoryId).isSome = true
  answers : fallbackSubcategoryId tables ≠ 0 ∧ fallbackCategoryId tables ≠ 0

def isFallback (sub : SubCategory) : Bool :=
  sub.semanticKey = some "shopping_unspecified" || sub.name = "Anden"

structure Label where
  stamp : EventStamp
  operation : Operation

/-- The foreign key of the subcategories. -/
def parentsExist (tables : OwnerTables) : Bool :=
  tables.subcategories.rows.all fun sub => (tables.categories.find sub.categoryId).isSome

/-- The tables after a call that succeeds. -/
def attempt (tables : OwnerTables) (label : Label) : Option OwnerTables :=
  match call label.stamp label.operation tables with
  | .ok next => if parentsExist next then some next else none
  | .error _ => none

def step (tables : OwnerTables) (label : Label) : OwnerTables :=
  (attempt tables label).getD tables

/-- The row is found as a fallback after the operation too. -/
def survives (sub : SubCategory) : Operation → Bool
  | .updateSubcategory subcategoryId dto =>
    sub.id ≠ subcategoryId || sub.semanticKey = some "shopping_unspecified" ||
      dto.name.getD sub.name = "Anden"
  | .deleteSubcategory subcategoryId _ _ => sub.id ≠ subcategoryId
  | _ => true

/-- A call that succeeds leaves one of the rows that the provider looks for. -/
def LeavesFallback (tables : OwnerTables) (label : Label) : Prop :=
  (attempt tables label).isSome = true → ∃ sub ∈ tables.subcategories.rows, isFallback sub = true ∧
      survives sub label.operation = true

instance (tables : OwnerTables) (label : Label) : Decidable (LeavesFallback tables label) :=
  inferInstanceAs (Decidable (_ → _))

inductive Leaves (tables : OwnerTables) :
    Operation → SerialTable Category.id → SerialTable SubCategory.id → Prop where
  | createCategory (dto : CreateCategoryDTO) (make : Int → Category)
      (keyed : ∀ id, (make id).id = id) :
      Leaves tables (.createCategory dto) (tables.categories.insert make keyed) tables.subcategories
  | keepCategory (categoryId : Int) (dto : UpdateCategoryDTO) :
      Leaves tables (.updateCategory categoryId dto) tables.categories tables.subcategories
  | updateCategory (categoryId : Int) (dto : UpdateCategoryDTO) (change : Category → Category)
      (keeps : ∀ category, (change category).id = category.id) :
      Leaves tables (.updateCategory categoryId dto)
        (tables.categories.update categoryId change keeps) tables.subcategories
  | deleteCategory (categoryId : Int) :
      Leaves tables (.deleteCategory categoryId) (tables.categories.delete categoryId)
        tables.subcategories
  | createSubcategory (categoryId : Int) (dto : CreateSubCategoryDTO) (make : Int → SubCategory)
      (keyed : ∀ id, (make id).id = id) :
      Leaves tables (.createSubcategory categoryId dto) tables.categories
        (tables.subcategories.insert make keyed)
  | keepSubcategory (subcategoryId : Int) (dto : UpdateSubCategoryDTO) (unnamed : dto.name = none) :
      Leaves tables (.updateSubcategory subcategoryId dto) tables.categories tables.subcategories
  | updateSubcategory (subcategoryId : Int) (dto : UpdateSubCategoryDTO) (existing : SubCategory)
      (found : tables.subcategories.find subcategoryId = some existing)
      (change : SubCategory → SubCategory) (keeps : ∀ sub, (change sub).id = sub.id)
      (named : ∀ sub, (change sub).name = dto.name.getD existing.name)
      (keyed : ∀ sub, (change sub).semanticKey = sub.semanticKey) :
      Leaves tables (.updateSubcategory subcategoryId dto) tables.categories
        (tables.subcategories.update subcategoryId change keeps)
  | deleteSubcategory (subcategoryId : Int) (merchants rules : Nat) :
      Leaves tables (.deleteSubcategory subcategoryId merchants rules) tables.categories
        (tables.subcategories.delete subcategoryId)

section Calls

variable {stamp : EventStamp} {tables next : OwnerTables}

theorem call_leaves {operation : Operation} (done : call stamp operation tables = .ok next) :
    Leaves tables operation next.categories next.subcategories := by
  cases operation with
  | createCategory dto =>
    obtain ⟨categoryType, _, named⟩ := bind_eq_ok.mp done
    obtain ⟨_, checked⟩ := rest_ok named
    cases check_passed checked
    let make : Int → Category := fun id =>
      { id := id, name := dto.name, type := categoryType, displayOrder := dto.displayOrder }
    have keyed : ∀ id, (make id).id = id := fun _ => rfl
    exact Leaves.createCategory dto make keyed
  | updateCategory categoryId dto =>
    change updateCategory stamp categoryId dto tables = .ok next at done
    unfold updateCategory at done
    cases found : tables.categories.find categoryId with
    | none =>
      rw [found] at done
      cases done
    | some existing =>
      rw [found] at done
      obtain ⟨categoryType, _, given⟩ := bind_eq_ok.mp done
      by_cases empty : dto.name = none ∧ dto.type = none ∧ dto.displayOrder = none
      · rw [if_pos empty] at given
        cases given
        exact .keepCategory categoryId dto
      · rw [if_neg empty] at given
        obtain ⟨_, checked⟩ := rest_ok given
        cases check_passed checked
        let change : Category → Category := fun category =>
          { category with
            name := dto.name.getD existing.name
            type := categoryType.getD category.type
            displayOrder := dto.displayOrder.getD category.displayOrder }
        have keeps : ∀ category, (change category).id = category.id := fun _ => rfl
        exact Leaves.updateCategory categoryId dto change keeps
  | deleteCategory categoryId =>
    change deleteCategory stamp categoryId tables = .ok next at done
    unfold deleteCategory at done
    cases found : tables.categories.find categoryId with
    | none =>
      rw [found] at done
      cases done
    | some =>
      rw [found] at done
      cases check_passed done
      exact .deleteCategory categoryId
  | createSubcategory categoryId dto =>
    obtain ⟨_, _, checked⟩ := bind_eq_ok.mp (check_passed done)
    cases check_passed checked
    let make : Int → SubCategory := fun id =>
      { id := id, name := dto.name, categoryId := categoryId, isDefault := false }
    have keyed : ∀ id, (make id).id = id := fun _ => rfl
    exact Leaves.createSubcategory categoryId dto make keyed
  | updateSubcategory subcategoryId dto =>
    change updateSubcategory stamp subcategoryId dto tables = .ok next at done
    unfold updateSubcategory at done
    cases found : tables.subcategories.find subcategoryId with
    | none =>
      rw [found] at done
      cases done
    | some existing =>
      rw [found] at done
      have given := check_passed done
      by_cases empty : dto.name = none ∧ dto.categoryId = none
      · rw [if_pos empty] at given
        cases given
        exact .keepSubcategory subcategoryId dto empty.1
      · rw [if_neg empty] at given
        obtain ⟨_, checked⟩ := rest_ok given
        cases check_passed checked
        let change : SubCategory → SubCategory := fun sub =>
          { sub with
            name := dto.name.getD existing.name
            categoryId := dto.categoryId.getD existing.categoryId }
        have keeps : ∀ sub, (change sub).id = sub.id := fun _ => rfl
        exact Leaves.updateSubcategory subcategoryId dto existing found change keeps
          (fun _ => rfl) fun _ => rfl
  | deleteSubcategory subcategoryId merchants rules =>
    change deleteSubcategory stamp subcategoryId merchants rules tables = .ok next at done
    unfold deleteSubcategory at done
    cases found : tables.subcategories.find subcategoryId with
    | none =>
      rw [found] at done
      cases done
    | some =>
      rw [found] at done
      cases check_passed (check_passed (check_passed done))
      exact .deleteSubcategory subcategoryId merchants rules

end Calls

structure Sound (tables : OwnerTables) : Prop where
  categories : Numbered tables.categories
  subcategories : Numbered tables.subcategories
  parents : parentsExist tables = true

def HasFallback (tables : OwnerTables) : Prop :=
  ∃ sub ∈ tables.subcategories.rows, isFallback sub = true

section Invariant

variable {tables next : OwnerTables} {label : Label}

theorem attempt_iff : attempt tables label = some next ↔
    call label.stamp label.operation tables = .ok next ∧ parentsExist next = true := by
  unfold attempt
  cases call label.stamp label.operation tables with
  | error => simp
  | ok =>
    dsimp only
    constructor
    · intro returned
      split at returned
      · next exist =>
        cases returned
        exact ⟨rfl, exist⟩
      · cases returned
    · intro ⟨returned, exist⟩
      cases returned
      exact if_pos exist

variable {operation : Operation} {categories : SerialTable Category.id}
  {subcategories : SerialTable SubCategory.id} {sub : SubCategory}

theorem leaves_numbered (sound : Sound tables)
    (leaves : Leaves tables operation categories subcategories) :
    Numbered categories ∧ Numbered subcategories := by
  cases leaves with
  | createCategory dto make keyed =>
    exact ⟨numbered_insert sound.categories make keyed, sound.subcategories⟩
  | keepCategory | keepSubcategory => exact ⟨sound.categories, sound.subcategories⟩
  | updateCategory categoryId dto change keeps =>
    exact ⟨numbered_update sound.categories categoryId change keeps, sound.subcategories⟩
  | deleteCategory categoryId =>
    exact ⟨numbered_delete sound.categories categoryId, sound.subcategories⟩
  | createSubcategory categoryId dto make keyed =>
    exact ⟨sound.categories, numbered_insert sound.subcategories make keyed⟩
  | updateSubcategory subcategoryId dto existing found change keeps =>
    exact ⟨sound.categories, numbered_update sound.subcategories subcategoryId change keeps⟩
  | deleteSubcategory subcategoryId =>
    exact ⟨sound.categories, numbered_delete sound.subcategories subcategoryId⟩

theorem step_sound (tables : OwnerTables) (label : Label) (sound : Sound tables) :
    Sound (step tables label) := by
  unfold step
  cases returned : attempt tables label with
  | none => exact sound
  | some =>
    obtain ⟨done, exist⟩ := attempt_iff.mp returned
    have numbered := leaves_numbered sound (call_leaves done)
    exact ⟨numbered.1, numbered.2, exist⟩

theorem fallback_model_some (has : HasFallback tables) :
    ∃ sub ∈ tables.subcategories.rows, fallbackModel tables = some sub := by
  obtain ⟨row, member, isRow⟩ := has
  unfold isFallback at isRow
  rw [Bool.or_eq_true] at isRow
  unfold fallbackModel
  cases byKey : tables.subcategories.rows.find? fun sub =>
      sub.semanticKey = some "shopping_unspecified" with
  | some sub => exact ⟨sub, mem_of_find?_eq_some byKey, rfl⟩
  | none =>
    cases byName : tables.subcategories.rows.find? fun sub => sub.name = "Anden" with
    | some sub => exact ⟨sub, mem_of_find?_eq_some byName, rfl⟩
    | none =>
      rcases isRow with isKey | isName
      · exact absurd isKey (List.find?_eq_none.mp byKey row member)
      · exact absurd isName (List.find?_eq_none.mp byName row member)

theorem has_of_fallback_model (found : fallbackModel tables = some sub) :
    HasFallback tables := by
  unfold fallbackModel at found
  rcases Option.or_eq_some_iff.mp found with byKey | ⟨_, byName⟩
  · refine ⟨sub, mem_of_find?_eq_some byKey, ?_⟩
    have isKey := List.find?_some byKey
    unfold isFallback
    rw [isKey, Bool.true_or]
  · refine ⟨sub, mem_of_find?_eq_some byName, ?_⟩
    have isName := List.find?_some byName
    unfold isFallback
    rw [isName, Bool.or_true]

/-- Under the constraints of the tables the fallback resolves while a row has its key or
its name. -/
theorem resolves_iff (sound : Sound tables) : Resolves tables ↔ HasFallback tables := by
  constructor
  · intro resolves
    obtain ⟨_, _, found, _⟩ := resolves.found
    exact has_of_fallback_model found
  · intro has
    obtain ⟨sub, member, found⟩ := fallback_model_some has
    have parent := all_eq_true.mp sound.parents sub member
    refine ⟨⟨sub, member, found, parent⟩, ?_, ?_⟩
    · have positive := sound.subcategories.positive sub member
      unfold fallbackSubcategoryId
      rw [found]
      exact Int.ne_of_gt positive
    · obtain ⟨category, isCategory⟩ := Option.isSome_iff_exists.mp parent
      have stored := lookup_mem isCategory
      have positive := sound.categories.positive category stored.1
      unfold fallbackCategoryId
      rw [found]
      rw [stored.2] at positive
      exact Int.ne_of_gt positive

theorem fallback_iff : isFallback sub = true ↔
    sub.semanticKey = some "shopping_unspecified" ∨ sub.name = "Anden" := by
  unfold isFallback
  rw [Bool.or_eq_true, decide_eq_true_eq, decide_eq_true_eq]

theorem survives_update {subcategoryId : Int} {dto : UpdateSubCategoryDTO} :
    survives sub (.updateSubcategory subcategoryId dto) = true ↔ sub.id ≠ subcategoryId ∨
      sub.semanticKey = some "shopping_unspecified" ∨ dto.name.getD sub.name = "Anden" := by
  change (decide (sub.id ≠ subcategoryId) || decide (sub.semanticKey = some "shopping_unspecified") ||
    decide (dto.name.getD sub.name = "Anden")) = true ↔ _
  rw [Bool.or_eq_true, Bool.or_eq_true, decide_eq_true_eq, decide_eq_true_eq, decide_eq_true_eq,
    or_assoc]

theorem leaves_fallback (sound : Sound tables) (has : HasFallback tables)
    (leaves : Leaves tables operation categories subcategories) :
    (∃ sub ∈ subcategories.rows, isFallback sub = true) ↔
      ∃ sub ∈ tables.subcategories.rows, isFallback sub = true ∧ survives sub operation = true := by
  obtain ⟨row, member, isRow⟩ := has
  cases leaves with
  | createCategory | keepCategory | deleteCategory => exact iff_of_true ⟨row, member, isRow⟩ ⟨row, member, isRow, rfl⟩
  | updateCategory =>
    exact iff_of_true ⟨row, member, isRow⟩ ⟨row, member, isRow, rfl⟩
  | createSubcategory =>
    exact iff_of_true ⟨row, mem_append_left _ member, isRow⟩ ⟨row, member, isRow, rfl⟩
  | keepSubcategory subcategoryId dto unnamed =>
    refine iff_of_true ⟨row, member, isRow⟩ ⟨row, member, isRow, ?_⟩
    rw [survives_update, unnamed, Option.getD_none]
    exact Or.inr (fallback_iff.mp isRow)
  | updateSubcategory subcategoryId dto existing found change keeps named keyed =>
    have stored := lookup_mem found
    have onlyExisting : ∀ sub ∈ tables.subcategories.rows, sub.id = subcategoryId →
        sub = existing := by
      intro _ isMember isId
      exact inj_on_of_nodup_map sound.subcategories.distinct isMember stored.1
        (isId.trans stored.2.symm)
    have isChanged : change existing ∈ (tables.subcategories.update subcategoryId change keeps).rows :=
      mem_replace.mpr (Or.inr ⟨existing, stored.1, stored.2, rfl⟩)
    have changedFallback : isFallback (change existing) = true ↔
        existing.semanticKey = some "shopping_unspecified" ∨
          dto.name.getD existing.name = "Anden" := by
      rw [fallback_iff, keyed, named]
    constructor
    · intro ⟨sub, after, isSub⟩
      rcases mem_replace.mp after with ⟨before, other⟩ | ⟨old, isOld, isId, rfl⟩
      · exact ⟨sub, before, isSub, survives_update.mpr (Or.inl other)⟩
      · rw [onlyExisting old isOld isId] at isSub
        by_cases isOther : row.id = subcategoryId
        · refine ⟨row, member, isRow, survives_update.mpr (Or.inr ?_)⟩
          rw [onlyExisting row member isOther]
          exact changedFallback.mp isSub
        · exact ⟨row, member, isRow, survives_update.mpr (Or.inl isOther)⟩
    · intro ⟨sub, before, isSub, survived⟩
      rcases survives_update.mp survived with other | kept
      · exact ⟨sub, mem_replace.mpr (Or.inl ⟨before, other⟩), isSub⟩
      · by_cases isId : sub.id = subcategoryId
        · rw [onlyExisting sub before isId] at kept
          exact ⟨change existing, isChanged, changedFallback.mpr kept⟩
        · exact ⟨sub, mem_replace.mpr (Or.inl ⟨before, isId⟩), isSub⟩
  | deleteSubcategory =>
    constructor
    · intro ⟨sub, kept, isSub⟩
      obtain ⟨before, other⟩ := mem_filter.mp kept
      exact ⟨sub, before, isSub, other⟩
    · intro ⟨sub, before, isSub, other⟩
      exact ⟨sub, mem_filter.mpr ⟨before, other⟩, isSub⟩

theorem step_resolves (tables : OwnerTables) (label : Label) (sound : Sound tables)
    (resolves : Resolves tables) :
    Resolves (step tables label) ↔ LeavesFallback tables label := by
  rw [resolves_iff (step_sound tables label sound)]
  have has := (resolves_iff sound).mp resolves
  unfold LeavesFallback step
  cases returned : attempt tables label with
  | none => simp [has]
  | some =>
    have leaves := call_leaves (attempt_iff.mp returned).1
    simp only [Option.getD_some, Option.isSome_some, true_implies]
    exact leaves_fallback sound has leaves

end Invariant

/-- Along a run of use cases the fallback stays resolvable with its category exactly when
every call that succeeds leaves a row with its key or its name. -/
theorem fallback_stays_resolvable {tables : OwnerTables} (sound : Sound tables)
    (resolves : Resolves tables) (labels : List Label) :
    (∀ before, before <+: labels → Resolves (runFrom step tables before)) ↔
      AllSteps step LeavesFallback tables labels :=
  run_kept_iff step step_sound step_resolves sound resolves labels

theorem two_lt_three : (2 : Int) < 3 := Int.lt_succ 2

def shopping : OwnerTables where
  categories :=
    { rows := [{ id := 1, name := "Shopping", type := .expense, semanticKey := some "shopping" }]
      nextId := 2
      fresh := List.forall_mem_singleton.mpr (Int.lt_succ 1) }
  subcategories :=
    { rows := [
        { id := 1, name := "Uspecificeret", categoryId := 1,
          semanticKey := some "shopping_unspecified" },
        { id := 2, name := "Elektronik", categoryId := 1, semanticKey := some "electronics" }]
      nextId := 3
      fresh := List.forall_mem_cons.mpr
        ⟨Int.lt_trans (Int.lt_succ 1) two_lt_three, List.forall_mem_singleton.mpr two_lt_three⟩ }

theorem shopping_sound : Sound shopping where
  categories := ⟨nodup_singleton _, by decide, by decide⟩
  subcategories := ⟨by unfold DistinctKeys; decide, by decide, by decide⟩
  parents := by decide

theorem shopping_resolves : Resolves shopping :=
  (resolves_iff shopping_sound).mpr ⟨_, mem_cons_self, by decide⟩

def labelled (operation : Operation) : Label where
  stamp := { correlationId := "first", timestamp := 0 }
  operation := operation

/-- The fallback is renamed and moved, and the other subcategory is deleted. -/
def keptLabels : List Label :=
  [labelled (.createCategory { name := "Andet", type := "expense" }),
    labelled (.updateSubcategory 1 { name := some "Diverse", categoryId := some 2 }),
    labelled (.deleteSubcategory 2 0 0), labelled (.deleteCategory 2), labelled (.deleteCategory 1)]

theorem renamed_fallback_resolves : AllSteps step LeavesFallback shopping keptLabels ∧
    ∀ before, before <+: keptLabels → Resolves (runFrom step shopping before) := by
  have leaves : AllSteps step LeavesFallback shopping keptLabels := by decide +kernel
  exact ⟨leaves, (fallback_stays_resolvable shopping_sound shopping_resolves keptLabels).mpr leaves⟩

/-- The fallback by its key has another name than the one that is guarded. -/
theorem deleted_fallback_unresolved :
    ¬ ∀ (tables : OwnerTables) (labels : List Label), Sound tables → Resolves tables →
      Resolves (runFrom step tables labels) := by
  intro always
  have resolves := always shopping [labelled (.deleteSubcategory 1 0 0)] shopping_sound
    shopping_resolves
  exact resolves.answers.1 (by decide +kernel)

end FinanceTracker.Categorization.FallbackSubcategory
