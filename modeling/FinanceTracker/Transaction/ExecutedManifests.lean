import FinanceTracker.Library.GuardedMoves
import FinanceTracker.Reclassification.ManifestFiles
import FinanceTracker.Transaction.TargetRepairs

/-!
# Executed manifests

What a run that executes does with each transaction: a pass of the rows that name it
over its category and subcategory. The run is safe and can be repeated exactly where no
row moves a transaction on from where the first row that moves it puts it.
-/

namespace FinanceTracker.Transaction.ExecutedManifests

open Library Counters GuardedMoves JsonText KeyedRows Runs SortedBy Reclassification.Contracts
  Reclassification.ManifestFiles Reclassification.Manifests Reclassification.Writers Domain
  ProposedTargets Transaction.Reclassification TargetRepairs

theorem apply_row_ok {execute : Bool} {resolver : Option TaxonomyResolver} {db next : Database}
    {row : ExecutionRow} {outcome : Outcome} :
    applyRow execute resolver db row = .ok (next, outcome) ↔ row.sourceKind = "transaction" ∧
      ∃ mid leaf parent id, resolveTarget execute resolver db row = .ok (mid, leaf) ∧
        activeParent mid leaf row = .ok parent ∧ sourceIdOf row = .ok id ∧
        applyTo execute mid row parent leaf (getTransaction mid id) = (next, outcome) := by
  unfold applyRow
  split
  · next other => simp [other]
  · next same =>
    rw [and_iff_right (not_not.mp same)]
    constructor
    · intro returned
      obtain ⟨⟨mid, leaf⟩, isLeaf, returned⟩ := bind_eq_ok.mp returned
      obtain ⟨parent, isParent, returned⟩ := bind_eq_ok.mp returned
      obtain ⟨id, isId, returned⟩ := bind_eq_ok.mp returned
      exact ⟨mid, leaf, parent, id, isLeaf, isParent, isId, Except.ok.inj returned⟩
    · rintro ⟨mid, leaf, parent, id, isLeaf, isParent, isId, applied⟩
      exact bind_eq_ok.mpr ⟨(mid, leaf), isLeaf, bind_eq_ok.mpr ⟨parent, isParent,
        bind_eq_ok.mpr ⟨id, isId, congrArg Except.ok applied⟩⟩⟩

/-- A category and a subcategory, which is where a transaction is. -/
abbrev Place := Option ℤ × Option ℤ

def placeOf (model : Transaction) : Place := (model.categoryId, model.subcategoryId)

def legacyPlace (row : ExecutionRow) : Place := (row.legacyCategoryId, row.legacySubcategoryId)

def targetPlace (parent : CategoryModel) (leaf : SubCategoryModel) : Place :=
  (some parent.id, some leaf.id)

/-- The transaction is live and no user or reviewer gave its category. -/
def movable (model : Transaction) : Bool :=
  !model.deleted && !isProtectedTier (model.categorizationTier.getD "")

def withTarget (model : Transaction) (parent : CategoryModel) (leaf : SubCategoryModel) : Transaction :=
  { model with
    categoryId := some parent.id
    categoryName := some parent.name
    subcategoryId := some leaf.id
    subcategoryName := some leaf.name }

section Step

variable {db : Database} {row : ExecutionRow} {parent : CategoryModel} {leaf : SubCategoryModel}
  {model : Transaction}

def Moves (row : ExecutionRow) (parent : CategoryModel) (leaf : SubCategoryModel) (model : Transaction) :
    Prop :=
  movable model = true ∧ legacyPlace row = placeOf model ∧ placeOf model ≠ targetPlace parent leaf

instance : Decidable (Moves row parent leaf model) := inferInstanceAs (Decidable (_ ∧ _))

theorem apply_to_moves (moves : Moves row parent leaf model) :
    applyTo true db row parent leaf (some model) = (assignTarget db model parent leaf, .applied) := by
  obtain ⟨isMovable, isLegacy, elsewhere⟩ := moves
  simp only [movable, Bool.and_eq_true, Bool.not_eq_true'] at isMovable
  simp only [legacyPlace, placeOf, targetPlace, ne_eq, Prod.mk.injEq] at isLegacy elsewhere
  simp [applyTo, isMovable, elsewhere, isLegacy, written]

theorem apply_to_stays (stays : ¬Moves row parent leaf model) :
    (applyTo true db row parent leaf (some model)).1 = db ∧
      (applyTo true db row parent leaf (some model)).2 ≠ .applied := by
  simp only [Moves, movable, legacyPlace, placeOf, targetPlace, Bool.and_eq_true, Bool.not_eq_true',
    ne_eq, Prod.mk.injEq] at stays
  dsimp only [applyTo]
  split
  · exact ⟨rfl, fun same => by cases same⟩
  · next live =>
    split
    · exact ⟨rfl, fun same => by cases same⟩
    · next elsewhere =>
      split
      · exact ⟨rfl, fun same => by cases same⟩
      · next unprotected =>
        split
        · exact ⟨rfl, fun same => by cases same⟩
        · next legacy =>
          refine absurd ⟨⟨?_, ?_⟩, ?_, elsewhere⟩ stays
          · simpa using live
          · simpa using unprotected
          · obtain ⟨category, subcategory⟩ := not_not.mp legacy
            exact ⟨category.symm, subcategory.symm⟩

theorem apply_to_taxonomy (found : Option Transaction) :
    (applyTo true db row parent leaf found).1.categories = db.categories ∧
      (applyTo true db row parent leaf found).1.subcategories = db.subcategories := by
  cases found with
  | none => exact ⟨rfl, rfl⟩
  | some model =>
    by_cases moves : Moves row parent leaf model
    · rw [apply_to_moves moves]
      exact ⟨rfl, rfl⟩
    · rw [(apply_to_stays moves).1]
      exact ⟨rfl, rfl⟩

theorem apply_to_extends (found : Option Transaction) :
    Extends db (applyTo true db row parent leaf found).1 :=
  Extends.of_same (apply_to_taxonomy found).1 (apply_to_taxonomy found).2

end Step

def targetIn (resolver : Option TaxonomyResolver) (tables : Database) (row : ExecutionRow) :
    Option (CategoryModel × SubCategoryModel) :=
  match resolveTarget true resolver tables row with
  | .error _ => none
  | .ok (_, leaf) =>
    match activeParent tables leaf row with
    | .error _ => none
    | .ok parent => some (parent, leaf)

def Refers (row : ExecutionRow) (id : ℕ) : Prop := sourceIdOf row = .ok (id : ℤ)

instance (row : ExecutionRow) (id : ℕ) : Decidable (Refers row id) :=
  inferInstanceAs (Decidable (sourceIdOf row = .ok (id : ℤ)))

def takes (resolver : Option TaxonomyResolver) (tables : Database) (id : ℕ) (row : ExecutionRow)
    (place : Place) : Option Place :=
  if Refers row id ∧ legacyPlace row = place then
    (targetIn resolver tables row).bind fun target =>
      if place = targetPlace target.1 target.2 then none else some (targetPlace target.1 target.2)
  else none

/-- The rows that move the transaction in a pass over them. -/
def movers (resolver : Option TaxonomyResolver) (tables : Database) (rows : List ExecutionRow)
    (model : Transaction) : List ExecutionRow :=
  if movable model = true then made (takes resolver tables model.id) (placeOf model) rows else []

def movedBy (resolver : Option TaxonomyResolver) (tables : Database) (model : Transaction) :
    List ExecutionRow → Transaction
  | [] => model
  | row :: rows =>
    match targetIn resolver tables row with
    | none => movedBy resolver tables model rows
    | some (parent, leaf) => movedBy resolver tables (withTarget model parent leaf) rows

def eventsBy (resolver : Option TaxonomyResolver) (tables : Database) (model : Transaction) :
    List ExecutionRow → List TransactionUpdatedEvent
  | [] => []
  | row :: rows =>
    match targetIn resolver tables row with
    | none => eventsBy resolver tables model rows
    | some (parent, leaf) =>
      updatedEvent model parent leaf :: eventsBy resolver tables (withTarget model parent leaf) rows

/-- The updates of one transaction in the outbox. -/
def eventsFor (db : Database) (id : ℕ) : List TransactionUpdatedEvent :=
  db.updatedEvents.filter fun event => event.transactionId = id

section Rows

variable {resolver : Option TaxonomyResolver} {state next tables : Database} {row : ExecutionRow}
  {rows : List ExecutionRow} {outcome : Outcome}

theorem get_transaction_eq (db : Database) (id : ℕ) :
    getTransaction db id = lookup Transaction.id db.transactions id := by
  unfold getTransaction lookup
  simp only [Nat.cast_inj]

theorem target_in_grown (faithful : Faithful resolver) {mid : Database} {leaf : SubCategoryModel}
    {parent : CategoryModel} (isLeaf : resolveTarget true resolver state row = .ok (mid, leaf))
    (isParent : activeParent mid leaf row = .ok parent) (grown : Extends mid tables) :
    targetIn resolver tables row = some (parent, leaf) := by
  have settled := settled_grown faithful grown (resolved_settled faithful isLeaf)
  obtain ⟨stored, active⟩ := active_parent_ok.mp isParent
  have later : activeParent tables leaf row = .ok parent :=
    active_parent_ok.mpr ⟨get_category_grown grown stored, active⟩
  unfold targetIn
  rw [settled_resolves settled]
  simp only [later]

theorem takes_some_iff {id : ℕ} {place there : Place} : takes resolver tables id row place = some there ↔
    Refers row id ∧ legacyPlace row = place ∧ ∃ target, targetIn resolver tables row = some target ∧
      place ≠ targetPlace target.1 target.2 ∧ there = targetPlace target.1 target.2 := by
  unfold takes
  split
  · next both =>
    rw [and_iff_right both.1, and_iff_right both.2, Option.bind_eq_some_iff]
    apply exists_congr
    intro _
    split
    · next same => simp [same]
    · next other => simp [other, eq_comm]
  · next other => simp only [reduceCtorEq, false_iff, not_and]; tauto

theorem resolved_transactions {mid : Database} {leaf : SubCategoryModel}
    (isLeaf : resolveTarget true resolver state row = .ok (mid, leaf)) :
    mid.transactions = state.transactions ∧ mid.updatedEvents = state.updatedEvents := by
  rcases resolve_target_ok.mp isLeaf with ⟨_, rfl⟩ | ⟨_, _, _, half, _, _, isRepaired, isLeaf⟩
  · exact ⟨rfl, rfl⟩
  · have first : half.transactions = state.transactions ∧ half.updatedEvents = state.updatedEvents := by
      rcases repair_category_ok.mp isRepaired with ⟨_, _, _, rfl⟩ | ⟨_, _, rfl⟩ <;> exact ⟨rfl, rfl⟩
    rcases repair_subcategory_ok.mp isLeaf with ⟨_, _, rfl⟩ | ⟨_, _, _, rfl⟩ <;> exact first

theorem assigned_rows (state : Database) (model : Transaction) (parent : CategoryModel)
    (leaf : SubCategoryModel) : (assignTarget state model parent leaf).transactions =
      replace Transaction.id state.transactions model.id fun row => withTarget row parent leaf := rfl

theorem assigned_transaction {model : Transaction} (parent : CategoryModel) (leaf : SubCategoryModel)
    (stored : getTransaction state model.id = some model) :
    getTransaction (assignTarget state model parent leaf) model.id = some (withTarget model parent leaf) ∧
      eventsFor (assignTarget state model parent leaf) model.id =
        eventsFor state model.id ++ [updatedEvent model parent leaf] := by
  constructor
  · have keeps : ∀ row ∈ state.transactions, row.id = model.id →
        (withTarget row parent leaf).id = row.id := fun _ _ _ => rfl
    rw [get_transaction_eq] at stored ⊢
    rw [assigned_rows, lookup_replace keeps, if_pos rfl, stored, Option.map_some]
  · simp [eventsFor, assignTarget, updatedEvent]

theorem assigned_other {model other : Transaction} (state : Database) (parent : CategoryModel)
    (leaf : SubCategoryModel) (apart : model.id ≠ other.id) :
    getTransaction (assignTarget state other parent leaf) model.id = getTransaction state model.id ∧
      eventsFor (assignTarget state other parent leaf) model.id = eventsFor state model.id := by
  constructor
  · have keeps : ∀ row ∈ state.transactions, row.id = other.id →
        (withTarget row parent leaf).id = row.id := fun _ _ _ => rfl
    rw [get_transaction_eq, get_transaction_eq, assigned_rows, lookup_replace keeps, if_neg apart]
  · have elsewhere : ¬(other.id : ℤ) = model.id := fun same => apart (by exact_mod_cast same.symm)
    simp [eventsFor, assignTarget, updatedEvent, elsewhere]

theorem applied_transaction (faithful : Faithful resolver)
    (applied : applyRow true resolver state row = .ok (next, outcome)) (later : Extends next tables)
    {model : Transaction} (stored : getTransaction state model.id = some model) :
    (∃ parent leaf, targetIn resolver tables row = some (parent, leaf) ∧ Refers row model.id ∧
      Moves row parent leaf model ∧ getTransaction next model.id = some (withTarget model parent leaf) ∧
      eventsFor next model.id = eventsFor state model.id ++ [updatedEvent model parent leaf]) ∨
    ((∀ parent leaf, targetIn resolver tables row = some (parent, leaf) → Refers row model.id →
        ¬Moves row parent leaf model) ∧
      getTransaction next model.id = some model ∧ eventsFor next model.id = eventsFor state model.id) := by
  obtain ⟨_, mid, leaf, parent, id, isLeaf, isParent, isId, returned⟩ := apply_row_ok.mp applied
  obtain ⟨sameRows, sameEvents⟩ := resolved_transactions isLeaf
  have midStored : getTransaction mid model.id = some model := by
    unfold getTransaction at stored ⊢
    rw [sameRows, stored]
  have midEvents : eventsFor mid model.id = eventsFor state model.id := by
    unfold eventsFor
    rw [sameEvents]
  have isNext : (applyTo true mid row parent leaf (getTransaction mid id)).1 = next :=
    congrArg Prod.fst returned
  have growth : Extends mid next := isNext ▸ apply_to_extends _
  have isTarget := target_in_grown faithful isLeaf isParent (growth.trans later)
  have only {otherParent otherLeaf} (found : targetIn resolver tables row = some (otherParent, otherLeaf)) :
      otherParent = parent ∧ otherLeaf = leaf := by
    cases isTarget.symm.trans found
    exact ⟨rfl, rfl⟩
  rw [← midEvents]
  by_cases refers : Refers row model.id
  · have isModel : id = model.id := Except.ok.inj (isId.symm.trans refers)
    rw [isModel, midStored] at returned
    by_cases moves : Moves row parent leaf model
    · rw [apply_to_moves moves] at returned
      cases returned
      obtain ⟨found, events⟩ := assigned_transaction parent leaf midStored
      exact .inl ⟨parent, leaf, isTarget, refers, moves, found, events⟩
    · have same : mid = next := (apply_to_stays moves).1.symm.trans (congrArg Prod.fst returned)
      subst same
      refine .inr ⟨?_, midStored, rfl⟩
      intro _ _ found _
      obtain ⟨rfl, rfl⟩ := only found
      exact moves
  · refine .inr ⟨fun _ _ _ there => absurd there refers, ?_⟩
    rw [← isNext]
    cases found : getTransaction mid id with
    | none => exact ⟨midStored, rfl⟩
    | some other =>
      by_cases moves : Moves row parent leaf other
      · have isOther : (other.id : ℤ) = id := by
          simpa [getTransaction] using List.find?_some found
        have apart : model.id ≠ other.id := by
          intro same
          rw [← isOther, ← same] at isId
          exact refers isId
        rw [apply_to_moves moves]
        obtain ⟨same, events⟩ := assigned_other mid parent leaf apart
        exact ⟨same.trans midStored, events⟩
      · rw [(apply_to_stays moves).1]
        exact ⟨midStored, rfl⟩

end Rows

section Run

variable {resolver : Option TaxonomyResolver} {db state next after tables : Database}
  {row : ExecutionRow} {rows : List ExecutionRow} {outcome : Outcome} {outcomes : List Outcome}
  {model : Transaction}

theorem movers_moves {parent : CategoryModel} {leaf : SubCategoryModel}
    (found : targetIn resolver tables row = some (parent, leaf)) (refers : Refers row model.id)
    (moves : Moves row parent leaf model) : movers resolver tables (row :: rows) model =
      row :: movers resolver tables rows (withTarget model parent leaf) := by
  obtain ⟨isMovable, legacy, elsewhere⟩ := moves
  have taken : takes resolver tables model.id row (placeOf model) = some (targetPlace parent leaf) :=
    takes_some_iff.mpr ⟨refers, legacy, (parent, leaf), found, elsewhere, rfl⟩
  have stillMovable : movable (withTarget model parent leaf) = true := isMovable
  unfold movers
  rw [if_pos isMovable, if_pos stillMovable, made_takes taken]
  rfl

theorem movers_stays (stays : ∀ parent leaf, targetIn resolver tables row = some (parent, leaf) →
    Refers row model.id → ¬Moves row parent leaf model) :
    movers resolver tables (row :: rows) model = movers resolver tables rows model := by
  unfold movers
  by_cases isMovable : movable model = true
  · rw [if_pos isMovable, if_pos isMovable]
    refine made_stays (Option.eq_none_iff_forall_ne_some.mpr fun there taken => ?_)
    obtain ⟨refers, legacy, ⟨parent, leaf⟩, found, elsewhere, _⟩ := takes_some_iff.mp taken
    exact stays parent leaf found refers ⟨isMovable, legacy, elsewhere⟩
  · rw [if_neg isMovable, if_neg isMovable]

theorem moved_by_cons (model : Transaction) (rows : List ExecutionRow) {parent : CategoryModel}
    {leaf : SubCategoryModel}
    (found : targetIn resolver tables row = some (parent, leaf)) :
    movedBy resolver tables model (row :: rows) =
        movedBy resolver tables (withTarget model parent leaf) rows ∧
      eventsBy resolver tables model (row :: rows) = updatedEvent model parent leaf ::
        eventsBy resolver tables (withTarget model parent leaf) rows := by
  rw [movedBy, eventsBy, found]
  exact ⟨rfl, rfl⟩

theorem applied_grown (faithful : Faithful resolver) (grown : Grown resolver db state)
    (applied : applyRow true resolver state row = .ok (next, outcome)) :
    Grown resolver db next ∧ Extends state next := by
  obtain ⟨_, mid, leaf, parent, id, isLeaf, _, _, returned⟩ := apply_row_ok.mp applied
  have isNext : (applyTo true mid row parent leaf (getTransaction mid id)).1 = next :=
    congrArg Prod.fst returned
  have same : next.subcategories = mid.subcategories := isNext ▸ (apply_to_taxonomy _).2
  have growth : Extends mid next := isNext ▸ apply_to_extends _
  exact ⟨(resolved_grown faithful grown isLeaf).of_same growth same, (resolved_extends isLeaf).trans growth⟩

theorem run_grown (faithful : Faithful resolver) (grown : Grown resolver db state)
    (ran : applyRows (applyRow true resolver) state rows = .ok (after, outcomes)) :
    Grown resolver db after ∧ Extends state after := by
  induction rows generalizing state outcomes with
  | nil =>
    cases ran
    exact ⟨grown, Extends.refl _⟩
  | cons row rows ih =>
    obtain ⟨_, _, _, first, others, rfl⟩ := apply_rows_cons.mp ran
    obtain ⟨isGrown, growth⟩ := applied_grown faithful grown first
    obtain ⟨last, later⟩ := ih isGrown others
    exact ⟨last, growth.trans later⟩

theorem run_transaction (faithful : Faithful resolver)
    (ran : applyRows (applyRow true resolver) state rows = .ok (after, outcomes))
    (later : Extends after tables) (stored : getTransaction state model.id = some model) :
    getTransaction after model.id =
        some (movedBy resolver tables model (movers resolver tables rows model)) ∧
      eventsFor after model.id = eventsFor state model.id ++
        eventsBy resolver tables model (movers resolver tables rows model) := by
  induction rows generalizing state outcomes model with
  | nil =>
    cases ran
    have none : movers resolver tables [] model = [] := by
      unfold movers
      split <;> rfl
    rw [none]
    exact ⟨stored, (List.append_nil _).symm⟩
  | cons row rows ih =>
    obtain ⟨next, _, _, first, others, rfl⟩ := apply_rows_cons.mp ran
    have growth := (run_grown faithful (Grown.refl resolver next) others).2.trans later
    rcases applied_transaction faithful first growth stored with
      ⟨parent, leaf, found, refers, moves, isStored, events⟩ | ⟨stays, isStored, events⟩
    · have isMoved : getTransaction next (withTarget model parent leaf).id =
          some (withTarget model parent leaf) := isStored
      obtain ⟨moved, eventsAfter⟩ := ih others isMoved
      obtain ⟨movedCons, eventsCons⟩ := moved_by_cons model _ found
      rw [movers_moves found refers moves, movedCons, eventsCons]
      refine ⟨moved, ?_⟩
      change eventsFor after model.id = eventsFor next model.id ++ _ at eventsAfter
      rw [eventsAfter, events, List.append_assoc, List.singleton_append]
    · obtain ⟨moved, eventsAfter⟩ := ih others isStored
      rw [movers_stays stays, ← events]
      exact ⟨moved, eventsAfter⟩

end Run

def Untouched (db after : Database) (model : Transaction) : Prop :=
  getTransaction after model.id = some model ∧ eventsFor after model.id = eventsFor db model.id

def MovedOnce (resolver : Option TaxonomyResolver) (db after : Database) (rows : List ExecutionRow)
    (model : Transaction) : Prop :=
  ∃ row ∈ rows, ∃ parent leaf, Refers row model.id ∧ movable model = true ∧
    legacyPlace row = placeOf model ∧ Names db resolver row.targetKey row.targetPublicId leaf ∧
    getCategory after leaf.categoryId = some parent ∧
    getTransaction after model.id = some (withTarget model parent leaf) ∧
    eventsFor after model.id = eventsFor db model.id ++ [updatedEvent model parent leaf]

structure SafeRun (resolver : Option TaxonomyResolver) (db after : Database) (rows : List ExecutionRow)
    (counts : Counter String ℕ) : Prop where
  ids : after.transactions.map Transaction.id = db.transactions.map Transaction.id
  transactions : ∀ model ∈ db.transactions, Untouched db after model ∨ MovedOnce resolver db after rows model
  events : ∃ added, after.updatedEvents = db.updatedEvents ++ added ∧
    ∀ event ∈ added, ∃ model ∈ db.transactions, event.transactionId = model.id
  total : (counts.map Prod.snd).sum = rows.length

/-- A second run changes nothing and applies no row. -/
def Repeats (resolver : Option TaxonomyResolver) (after : Database) (manifest : ExecutionManifest) : Prop :=
  ∃ counts, applyReclassification true resolver after manifest = .ok (after, counts) ∧
    Outcome.applied.text ∉ counts.map Prod.fst

/-- On the tables before the run, the row takes the transaction of the id from one place to the other. -/
def TakesFrom (resolver : Option TaxonomyResolver) (db : Database) (id : ℕ) (row : ExecutionRow)
    (place there : Place) : Prop :=
  Refers row id ∧ legacyPlace row = place ∧ ∃ leaf,
    Names db resolver row.targetKey row.targetPublicId leaf ∧
      place ≠ (some leaf.categoryId, some leaf.id) ∧ there = (some leaf.categoryId, some leaf.id)

/-- No row takes the transaction on from where the first row that takes it puts it. -/
def NotMovedOn (resolver : Option TaxonomyResolver) (db : Database) (rows : List ExecutionRow)
    (model : Transaction) : Prop :=
  ∀ front row back there, rows = front ++ row :: back →
    (∀ earlier ∈ front, ∀ elsewhere, ¬TakesFrom resolver db model.id earlier (placeOf model) elsewhere) →
    TakesFrom resolver db model.id row (placeOf model) there →
    ∀ other ∈ rows, ∀ elsewhere, ¬TakesFrom resolver db model.id other there elsewhere

section Safety

variable {resolver : Option TaxonomyResolver} {db state next after : Database} {row : ExecutionRow}
  {rows : List ExecutionRow} {outcome : Outcome} {outcomes : List Outcome} {model : Transaction}

theorem applied_events (applied : applyRow true resolver state row = .ok (next, outcome)) :
    next.transactions.map Transaction.id = state.transactions.map Transaction.id ∧
      ∃ added, next.updatedEvents = state.updatedEvents ++ added ∧
        ∀ event ∈ added, ∃ id ∈ state.transactions.map Transaction.id, event.transactionId = (id : ℤ) := by
  obtain ⟨_, mid, leaf, parent, id, isLeaf, _, _, returned⟩ := apply_row_ok.mp applied
  obtain ⟨sameRows, sameEvents⟩ := resolved_transactions isLeaf
  have isNext : (applyTo true mid row parent leaf (getTransaction mid id)).1 = next :=
    congrArg Prod.fst returned
  rw [← isNext, ← sameRows, ← sameEvents]
  have same : mid.transactions.map Transaction.id = mid.transactions.map Transaction.id ∧
      ∃ added, mid.updatedEvents = mid.updatedEvents ++ added ∧
        ∀ event ∈ added, ∃ id ∈ mid.transactions.map Transaction.id, event.transactionId = (id : ℤ) :=
    ⟨rfl, [], (List.append_nil _).symm, fun event member => (List.not_mem_nil member).elim⟩
  cases found : getTransaction mid id with
  | none => exact same
  | some other =>
    by_cases moves : Moves row parent leaf other
    · rw [apply_to_moves moves]
      have stored : other ∈ mid.transactions := List.mem_of_find?_eq_some found
      refine ⟨replace_keys fun _ _ _ => rfl, [updatedEvent other parent leaf], rfl, ?_⟩
      intro _ member
      rw [List.mem_singleton.mp member]
      exact ⟨other.id, List.mem_map_of_mem stored, rfl⟩
    · rw [(apply_to_stays moves).1]
      exact same

theorem run_events (ran : applyRows (applyRow true resolver) state rows = .ok (after, outcomes)) :
    after.transactions.map Transaction.id = state.transactions.map Transaction.id ∧
      ∃ added, after.updatedEvents = state.updatedEvents ++ added ∧
        ∀ event ∈ added, ∃ id ∈ state.transactions.map Transaction.id, event.transactionId = (id : ℤ) := by
  induction rows generalizing state outcomes with
  | nil =>
    cases ran
    exact ⟨rfl, [], (List.append_nil _).symm, fun event member => (List.not_mem_nil member).elim⟩
  | cons row rows ih =>
    obtain ⟨_, _, _, first, others, rfl⟩ := apply_rows_cons.mp ran
    obtain ⟨firstIds, early, isNext, ofEarly⟩ := applied_events first
    obtain ⟨ids, late, isAfter, ofLate⟩ := ih others
    rw [firstIds] at ids ofLate
    refine ⟨ids, early ++ late, by rw [isAfter, isNext, List.append_assoc], ?_⟩
    refine List.forall_mem_append.mpr ⟨ofEarly, ?_⟩
    intro event isLate
    exact ofLate event isLate

theorem run_rows (faithful : Faithful resolver) (grown : Grown resolver db state)
    (ran : applyRows (applyRow true resolver) state rows = .ok (after, outcomes)) :
    ∀ row ∈ rows, ∃ early late outcome, applyRow true resolver early row = .ok (late, outcome) ∧
      Grown resolver db early ∧ Extends late after := by
  induction rows generalizing state outcomes with
  | nil =>
    intro _ member
    cases member
  | cons row rows ih =>
    obtain ⟨next, outcome, _, first, others, rfl⟩ := apply_rows_cons.mp ran
    obtain ⟨nextGrown, _⟩ := applied_grown faithful grown first
    exact List.forall_mem_cons.mpr ⟨⟨state, next, outcome, first, grown,
      (run_grown faithful nextGrown others).2⟩, ih nextGrown others⟩

/-- Every row of a run that returned resolves on the tables after it to what it stood for before. -/
theorem run_targets (faithful : Faithful resolver)
    (ran : applyRows (applyRow true resolver) db rows = .ok (after, outcomes)) :
    ∀ row ∈ rows, ∃ parent leaf, targetIn resolver after row = some (parent, leaf) ∧
      Names db resolver row.targetKey row.targetPublicId leaf ∧
      getCategory after leaf.categoryId = some parent := by
  intro row member
  obtain ⟨_, late, _, applied, grown, growth⟩ :=
    run_rows faithful (Grown.refl resolver db) ran row member
  obtain ⟨_, mid, leaf, parent, id, isLeaf, isParent, _, returned⟩ := apply_row_ok.mp applied
  have isLate : (applyTo true mid row parent leaf (getTransaction mid id)).1 = late :=
    congrArg Prod.fst returned
  have whole : Extends mid after := (isLate ▸ apply_to_extends _ : Extends mid late).trans growth
  exact ⟨parent, leaf, target_in_grown faithful isLeaf isParent whole, resolved_names faithful grown isLeaf,
    get_category_grown whole (active_parent_ok.mp isParent).1⟩

/-- The target of a row is the same on the tables before the run and on those after it. -/
theorem takes_iff_from {parent : CategoryModel} {leaf : SubCategoryModel}
    (found : targetIn resolver after row = some (parent, leaf))
    (names : Names db resolver row.targetKey row.targetPublicId leaf)
    (isParent : getCategory after leaf.categoryId = some parent) {id : ℕ} {place there : Place} :
    takes resolver after id row place = some there ↔ TakesFrom resolver db id row place there := by
  have parentId : parent.id = leaf.categoryId := (lookup_mem isParent).2
  rw [takes_some_iff]
  unfold TakesFrom
  refine and_congr_right fun _ => and_congr_right fun _ => ?_
  constructor
  · rintro ⟨target, isTarget, elsewhere, rfl⟩
    cases found.symm.trans isTarget
    unfold targetPlace at elsewhere ⊢
    rw [parentId] at elsewhere ⊢
    exact ⟨leaf, names, elsewhere, rfl⟩
  · rintro ⟨other, otherNames, elsewhere, rfl⟩
    cases names_unique names otherNames
    refine ⟨(parent, leaf), found, ?_, ?_⟩
    · unfold targetPlace
      rw [parentId]
      exact elsewhere
    · unfold targetPlace
      rw [parentId]

/-- What is known of every row after a run that returned. -/
def Resolved (resolver : Option TaxonomyResolver) (db after : Database) (rows : List ExecutionRow) : Prop :=
  ∀ row ∈ rows, ∃ parent leaf, targetIn resolver after row = some (parent, leaf) ∧
    Names db resolver row.targetKey row.targetPublicId leaf ∧ getCategory after leaf.categoryId = some parent

theorem takes_none_iff (resolved : Resolved resolver db after rows) (member : row ∈ rows) {id : ℕ}
    {place : Place} : takes resolver after id row place = none ↔
      ∀ elsewhere, ¬TakesFrom resolver db id row place elsewhere := by
  obtain ⟨_, _, found, names, isParent⟩ := resolved row member
  rw [Option.eq_none_iff_forall_ne_some]
  exact forall_congr' fun elsewhere => not_congr (takes_iff_from found names isParent)

theorem settles_from (resolved : Resolved resolver db after rows) :
    Settles (takes resolver after model.id) (placeOf model) rows ↔ NotMovedOn resolver db rows model := by
  have early {front back : List ExecutionRow} {row : ExecutionRow} (isRows : rows = front ++ row :: back) :
      (∀ other ∈ front, takes resolver after model.id other (placeOf model) = none) ↔
        ∀ other ∈ front, ∀ elsewhere, ¬TakesFrom resolver db model.id other (placeOf model) elsewhere :=
    forall₂_congr fun other member => takes_none_iff resolved (isRows ▸ List.mem_append_left _ member)
  have here {front back : List ExecutionRow} {row : ExecutionRow} (isRows : rows = front ++ row :: back)
      {there : Place} : takes resolver after model.id row (placeOf model) = some there ↔
        TakesFrom resolver db model.id row (placeOf model) there := by
    obtain ⟨_, _, found, names, isParent⟩ := resolved row (isRows ▸ by simp)
    exact takes_iff_from found names isParent
  constructor
  · intro settles front row back there isRows none taken other member
    exact (takes_none_iff resolved member).mp
      (settles row there ⟨front, back, isRows, (early isRows).mpr none, (here isRows).mpr taken⟩ other member)
  · rintro stays row there ⟨front, back, isRows, none, taken⟩ other member
    exact (takes_none_iff resolved member).mpr
      (stays front row back there isRows ((early isRows).mp none) ((here isRows).mp taken) other member)

theorem events_by_length (model : Transaction) {moved : List ExecutionRow}
    (targets : ∀ row ∈ moved, ∃ target, targetIn resolver after row = some target) :
    (eventsBy resolver after model moved).length = moved.length := by
  induction moved generalizing model with
  | nil => rfl
  | cons row moved ih =>
    obtain ⟨⟨⟨_, _⟩, found⟩, others⟩ := List.forall_mem_cons.mp targets
    rw [(moved_by_cons model moved found).2, List.length_cons, List.length_cons, ih _ others]

theorem movers_events (resolved : Resolved resolver db after rows) (model : Transaction) :
    (eventsBy resolver after model (movers resolver after rows model)).length =
      (movers resolver after rows model).length := by
  apply events_by_length
  intro row moves
  have member : row ∈ rows := by
    unfold movers at moves
    split at moves
    · exact (made_sublist _ _).subset moves
    · cases moves
  obtain ⟨parent, leaf, found, _⟩ := resolved row member
  exact ⟨(parent, leaf), found⟩

theorem settled_transaction (faithful : Faithful resolver)
    (ran : applyRows (applyRow true resolver) db rows = .ok (after, outcomes))
    (stored : getTransaction db model.id = some model)
    (settles : movable model = true → NotMovedOn resolver db rows model) :
    (Untouched db after model ∨ MovedOnce resolver db after rows model) ∧
      ∀ last, getTransaction after model.id = some last → movable last = true →
        ∀ row ∈ rows, takes resolver after model.id row (placeOf last) = none := by
  have resolved := run_targets faithful ran
  obtain ⟨moved, events⟩ := run_transaction faithful ran (Extends.refl after) stored
  by_cases isMovable : movable model = true
  · have movers_eq : movers resolver after rows model =
        made (takes resolver after model.id) (placeOf model) rows := if_pos isMovable
    rcases settles_iff.mp ((settles_from resolved).mpr (settles isMovable)) with
      none | ⟨row, there, only, taken, again⟩
    · rw [movers_eq, none] at moved events
      refine ⟨.inl ⟨moved, events.trans (List.append_nil _)⟩, ?_⟩
      intro _ isLast _
      cases moved.symm.trans isLast
      exact made_nil_iff.mp none
    · rw [movers_eq, only] at moved events
      have member : row ∈ rows := (made_sublist (placeOf model) rows).subset (only ▸ List.mem_singleton_self row)
      obtain ⟨parent, leaf, found, names, isParent⟩ := resolved row member
      obtain ⟨refers, legacy, _, isTarget, _, rfl⟩ := takes_some_iff.mp taken
      cases found.symm.trans isTarget
      obtain ⟨movedCons, eventsCons⟩ := moved_by_cons model [] found
      rw [movedCons] at moved
      rw [eventsCons] at events
      refine ⟨.inr ⟨row, member, parent, leaf, refers, isMovable, legacy, names, isParent, moved, events⟩, ?_⟩
      intro _ isLast _
      cases moved.symm.trans isLast
      exact made_nil_iff.mp again
  · have none : movers resolver after rows model = [] := if_neg isMovable
    rw [none] at moved events
    refine ⟨.inl ⟨moved, events.trans (List.append_nil _)⟩, ?_⟩
    intro _ isLast lastMovable
    cases moved.symm.trans isLast
    exact absurd lastMovable isMovable

theorem rerun_row (faithful : Faithful resolver)
    (ran : applyRows (applyRow true resolver) db rows = .ok (after, outcomes)) (member : row ∈ rows)
    (still : ∀ last ∈ after.transactions, movable last = true →
      takes resolver after last.id row (placeOf last) = none) :
    ∃ outcome, applyRow true resolver after row = .ok (after, outcome) ∧ outcome ≠ .applied := by
  obtain ⟨_, late, _, applied, _, growth⟩ :=
    run_rows faithful (Grown.refl resolver db) ran row member
  obtain ⟨kind, mid, leaf, parent, id, isLeaf, isParent, isId, returned⟩ := apply_row_ok.mp applied
  have isLate : (applyTo true mid row parent leaf (getTransaction mid id)).1 = late :=
    congrArg Prod.fst returned
  have whole : Extends mid after := (isLate ▸ apply_to_extends _ : Extends mid late).trans growth
  have found := target_in_grown faithful isLeaf isParent whole
  have again := settled_resolves (settled_grown faithful whole (resolved_settled faithful isLeaf))
  have activeAgain : activeParent after leaf row = .ok parent := by
    obtain ⟨stored, active⟩ := active_parent_ok.mp isParent
    exact active_parent_ok.mpr ⟨get_category_grown whole stored, active⟩
  have nothing : (applyTo true after row parent leaf (getTransaction after id)).1 = after ∧
      (applyTo true after row parent leaf (getTransaction after id)).2 ≠ .applied := by
    cases isLast : getTransaction after id with
    | none => exact ⟨rfl, fun same => by cases same⟩
    | some last =>
      apply apply_to_stays
      intro moves
      obtain ⟨isMovable, legacy, elsewhere⟩ := moves
      have isStored : last ∈ after.transactions := List.mem_of_find?_eq_some isLast
      have isHere : (last.id : ℤ) = id := by simpa [getTransaction] using List.find?_some isLast
      have refers : Refers row last.id := by rw [Refers, isHere, isId]
      have taken := takes_some_iff.mpr ⟨refers, legacy, (parent, leaf), found, elsewhere, rfl⟩
      rw [still last isStored isMovable] at taken
      contradiction
  refine ⟨_, apply_row_ok.mpr ⟨kind, after, leaf, parent, id, again, activeAgain, isId, ?_⟩, nothing.2⟩
  exact Prod.ext nothing.1 rfl

theorem rerun_rows {rest : List ExecutionRow} (again : ∀ row ∈ rest, ∃ outcome,
      applyRow true resolver after row = .ok (after, outcome) ∧ outcome ≠ .applied) :
    ∃ outcomes, applyRows (applyRow true resolver) after rest = .ok (after, outcomes) ∧
      Outcome.applied ∉ outcomes := by
  induction rest with
  | nil => exact ⟨[], rfl, fun member => (List.not_mem_nil member).elim⟩
  | cons row rest ih =>
    obtain ⟨⟨outcome, first, isOther⟩, others⟩ := List.forall_mem_cons.mp again
    obtain ⟨outcomes, ran, none⟩ := ih others
    refine ⟨outcome :: outcomes, apply_rows_cons.mpr ⟨after, outcome, outcomes, first, ran, rfl⟩, ?_⟩
    rw [List.mem_cons, not_or]
    exact ⟨isOther.symm, none⟩

theorem apply_manifest_ok {manifest : ExecutionManifest} {counts : Counter String ℕ} {execute : Bool} :
    applyReclassification execute resolver db manifest = .ok (after, counts) ↔
      ∃ outcomes, applyRows (applyRow execute resolver) db manifest.rows = .ok (after, outcomes) ∧
        counts = countsOf outcomes := by
  unfold applyReclassification applyManifest
  constructor
  · intro returned
    obtain ⟨⟨_, outcomes⟩, ran, returned⟩ := bind_eq_ok.mp returned
    cases returned
    exact ⟨outcomes, ran, rfl⟩
  · rintro ⟨outcomes, ran, rfl⟩
    exact bind_eq_ok.mpr ⟨(after, outcomes), ran, rfl⟩

end Safety

section Executed

variable {db : StoredDatabase} {resolver : Option TaxonomyResolver} {manifest : ExecutionManifest}
  {after : Database} {counts : Counter String ℕ}

theorem stored_transaction {tables : Database} (distinct : DistinctKeys Transaction.id tables.transactions)
    {model : Transaction} : getTransaction tables model.id = some model ↔ model ∈ tables.transactions := by
  rw [get_transaction_eq, lookup_iff distinct, and_iff_left rfl]

theorem safe_of_not_moved_on (faithful : Faithful resolver)
    (ran : applyReclassification true resolver db.toDatabase manifest = .ok (after, counts))
    (settles : ∀ model ∈ db.transactions, movable model = true →
      NotMovedOn resolver db.toDatabase manifest.rows model) :
    SafeRun resolver db.toDatabase after manifest.rows counts ∧ Repeats resolver after manifest := by
  obtain ⟨_, rows, rfl⟩ := apply_manifest_ok.mp ran
  obtain ⟨ids, added, isAfter, ofAdded⟩ := run_events rows
  have distinct : DistinctKeys Transaction.id after.transactions := by
    unfold DistinctKeys
    rw [ids]
    exact db.distinct
  have settled (model : Transaction) (member : model ∈ db.transactions) :=
    settled_transaction faithful rows ((stored_transaction db.distinct).mpr member) (settles model member)
  constructor
  · refine ⟨ids, fun model member => (settled model member).1, ⟨added, isAfter, ?_⟩, ?_⟩
    · intro event member
      obtain ⟨_, isId, same⟩ := ofAdded event member
      obtain ⟨model, stored, rfl⟩ := List.mem_map.mp isId
      exact ⟨model, stored, same⟩
    · rw [counts_total, apply_rows_length rows]
  · have still : ∀ last ∈ after.transactions, movable last = true → ∀ row ∈ manifest.rows,
        takes resolver after last.id row (placeOf last) = none := by
      intro last isLast isMovable row member
      have isId : last.id ∈ db.transactions.map Transaction.id := ids ▸ List.mem_map_of_mem isLast
      obtain ⟨model, stored, same⟩ := List.mem_map.mp isId
      have found := (stored_transaction distinct).mpr isLast
      rw [← same] at found ⊢
      exact (settled model stored).2 last found isMovable row member
    obtain ⟨again, reran, none⟩ := rerun_rows fun row member =>
      rerun_row faithful rows member fun last isLast isMovable => still last isLast isMovable row member
    exact ⟨countsOf again, apply_manifest_ok.mpr ⟨again, reran, rfl⟩, fun present =>
      none (mem_counts_iff.mp present)⟩

/-- No run leaves a transaction to move behind when it can be repeated. -/
theorem repeated_stays (faithful : Faithful resolver) (repeats : Repeats resolver after manifest)
    {last : Transaction} (stored : getTransaction after last.id = some last)
    (isMovable : movable last = true) :
    made (takes resolver after last.id) (placeOf last) manifest.rows = [] := by
  obtain ⟨_, reran, _⟩ := repeats
  obtain ⟨_, rows, _⟩ := apply_manifest_ok.mp reran
  have resolved := run_targets faithful rows
  obtain ⟨_, events⟩ := run_transaction faithful rows (Extends.refl after) stored
  have none : eventsBy resolver after last (movers resolver after manifest.rows last) = [] :=
    List.self_eq_append_right.mp events
  have length := movers_events resolved last
  rw [none, List.length_nil] at length
  have isNone := List.length_eq_zero_iff.mp length.symm
  rwa [movers, if_pos isMovable] at isNone

theorem not_moved_on_of_safe (faithful : Faithful resolver)
    (ran : applyReclassification true resolver db.toDatabase manifest = .ok (after, counts))
    (safe : SafeRun resolver db.toDatabase after manifest.rows counts)
    (repeats : Repeats resolver after manifest) :
    ∀ model ∈ db.transactions, movable model = true →
      NotMovedOn resolver db.toDatabase manifest.rows model := by
  intro model member isMovable
  obtain ⟨_, rows, _⟩ := apply_manifest_ok.mp ran
  have resolved := run_targets faithful rows
  have stored := (stored_transaction db.distinct).mpr member
  obtain ⟨moved, events⟩ := run_transaction faithful rows (Extends.refl after) stored
  have length := movers_events resolved model
  have movers_eq : movers resolver after manifest.rows model =
      made (takes resolver after model.id) (placeOf model) manifest.rows := if_pos isMovable
  apply (settles_from resolved).mp
  apply settles_iff.mpr
  rcases safe.transactions model member with untouched | ⟨_, _, _, _, _, _, _, _, _, _, once⟩
  · left
    have none := List.self_eq_append_right.mp (untouched.2.symm.trans events)
    rw [none, List.length_nil, movers_eq] at length
    exact List.length_eq_zero_iff.mp length.symm
  · right
    have single := List.append_cancel_left (once.symm.trans events)
    rw [← single, List.length_singleton, movers_eq] at length
    obtain ⟨row, only⟩ := List.length_eq_one_iff.mp length.symm
    obtain ⟨_, _, there, _, _, taken, _⟩ := first_of_made only
    refine ⟨row, there, only, taken, ?_⟩
    rw [movers_eq, only] at moved
    obtain ⟨_, _, ⟨parent, leaf⟩, found, _, rfl⟩ := takes_some_iff.mp taken
    rw [(moved_by_cons model [] found).1] at moved
    have isMoved : getTransaction after (withTarget model parent leaf).id =
        some (withTarget model parent leaf) := moved
    exact repeated_stays faithful repeats isMoved isMovable

/-- A run is safe and can be repeated exactly where no row moves a live and unprotected transaction
on from where the first row that moves it puts it. -/
theorem executed_safe_iff (db : StoredDatabase) (given : Option (Option TaxonomyAnswer))
    {manifest : ExecutionManifest} {after : Database} {counts : Counter String ℕ}
    (ran : applyReclassification true (given.map taxonomyResolver) db.toDatabase manifest =
      .ok (after, counts)) :
    SafeRun (given.map taxonomyResolver) db.toDatabase after manifest.rows counts ∧
        Repeats (given.map taxonomyResolver) after manifest ↔
      ∀ model ∈ db.transactions, movable model = true →
        NotMovedOn (given.map taxonomyResolver) db.toDatabase manifest.rows model := by
  have faithful := taxonomy_resolver_faithful given
  constructor
  · rintro ⟨safe, repeats⟩
    exact not_moved_on_of_safe faithful ran safe repeats
  · exact safe_of_not_moved_on faithful ran

end Executed

def wealth : CategoryModel :=
  { id := 80, name := "Formue", type := "transfer", publicId := some "wealth-public-id"
    semanticKey := some "wealth", lifecycle := some "active" }

def investment : SubCategoryModel :=
  { id := 180, name := "Investering", categoryId := 80, publicId := some "investment-public-id"
    semanticKey := some "investment", lifecycle := some "active" }

def pension : SubCategoryModel :=
  { id := 181, name := "Pension", categoryId := 80, publicId := some "pension-public-id"
    semanticKey := some "pension", lifecycle := some "active" }

def fundPurchase : Transaction :=
  { id := 1, userId := 2, accountId := 3, accountName := "Konto", categoryId := some 7
    categoryName := some "Finans", amount := 10000, transactionType := .expense
    description := some "fond", date := ⟨2026, 8, 1, by decide⟩, subcategoryId := some 29
    subcategoryName := some "Legacy", categorizationTier := some "rule" }

def fundDatabase : StoredDatabase where
  categories := [wealth]
  subcategories := [investment, pension]
  transactions := [fundPurchase]
  distinct := by unfold DistinctKeys; decide
  ids := by decide

def fundRow (sourceId : String) (category subcategory : ℤ) (target : String) : ExecutionRow :=
  { sourceKind := "transaction", sourceId, legacyCategoryId := some category
    legacySubcategoryId := some subcategory, disposition := .safeOneToOne, reasonCode := "direct"
    targetKey := target, targetPublicId := target ++ "-public-id" }

def fundManifest (rows : List ExecutionRow) : ExecutionManifest :=
  { runId := "run-1", sourceService := "transaction-service", mappingVersion := "v1"
    mappingSha256 := "mapping-hash", sourceReportSha256 := "report-hash", rows }

/-- Moves the transaction to its investments. -/
def onceRow : ExecutionRow := fundRow "01" 7 29 "investment"

/-- Names the transaction again and moves it on to its pension. -/
def onwardRow : ExecutionRow := fundRow "1" 80 180 "pension"

/-- The tables after the first row. -/
def investedDatabase : Database := assignTarget fundDatabase.toDatabase fundPurchase wealth investment

def investedPurchase : Transaction := withTarget fundPurchase wealth investment

theorem once_applied :
    applyRow true none fundDatabase.toDatabase onceRow = .ok (investedDatabase, .applied) := by
  have settled : Settled none fundDatabase.toDatabase onceRow investment := .inl rfl
  have moves : Moves onceRow wealth investment fundPurchase := by decide +kernel
  exact apply_row_ok.mpr ⟨rfl, _, investment, wealth, 1, settled_resolves settled, rfl, by decide +kernel,
    apply_to_moves moves⟩

theorem onward_applied : applyRow true none investedDatabase onwardRow =
    .ok (assignTarget investedDatabase investedPurchase wealth pension, .applied) := by
  have settled : Settled none investedDatabase onwardRow pension := .inl rfl
  have moves : Moves onwardRow wealth pension investedPurchase := by decide +kernel
  exact apply_row_ok.mpr ⟨rfl, _, pension, wealth, 1, settled_resolves settled, rfl, by decide +kernel,
    apply_to_moves moves⟩

theorem once_takes : TakesFrom none fundDatabase.toDatabase fundPurchase.id onceRow (placeOf fundPurchase)
    (some 80, some 180) :=
  ⟨by decide +kernel, rfl, investment, .inl rfl, by decide, rfl⟩

theorem onward_takes : TakesFrom none fundDatabase.toDatabase fundPurchase.id onwardRow
    (some 80, some 180) (some 80, some 181) :=
  ⟨by decide +kernel, rfl, pension, .inl rfl, by decide, rfl⟩

/-- A manifest of one row is safe and can be repeated. -/
theorem once_executed : ∃ after counts,
    applyReclassification true none fundDatabase.toDatabase (fundManifest [onceRow]) =
      .ok (after, counts) ∧
    SafeRun none fundDatabase.toDatabase after [onceRow] counts ∧
      Repeats none after (fundManifest [onceRow]) := by
  have rows : applyRows (applyRow true none) fundDatabase.toDatabase [onceRow] =
      .ok (investedDatabase, [.applied]) :=
    apply_rows_cons.mpr ⟨_, _, [], once_applied, rfl, rfl⟩
  have ran : applyReclassification true none fundDatabase.toDatabase (fundManifest [onceRow]) =
      .ok (investedDatabase, countsOf [.applied]) :=
    apply_manifest_ok.mpr ⟨[.applied], rows, rfl⟩
  refine ⟨investedDatabase, countsOf [.applied], ran, (executed_safe_iff fundDatabase none ran).mpr ?_⟩
  intro _ _ _ _ row _ _ isRows _ taken _ isOther _ again
  have isRow : row = onceRow := by
    have rowIn : row ∈ [onceRow] := by
      change row ∈ (fundManifest [onceRow]).rows
      rw [isRows]
      exact List.mem_append_right _ List.mem_cons_self
    exact List.mem_singleton.mp rowIn
  obtain ⟨_, _, _, names, _, rfl⟩ := taken
  rw [isRow] at names
  cases names_unique names (.inl rfl : Names fundDatabase.toDatabase none onceRow.targetKey
    onceRow.targetPublicId investment)
  rw [List.mem_singleton.mp isOther] at again
  exact absurd again.2.1 (by decide)

theorem fund_manifest_loads {rows : List ExecutionRow} (short : ∀ row ∈ rows, ShortIds row)
    (distinct : (rows.map ExecutionRow.identity).Nodup) (executable : ∀ row ∈ rows, row.Executable)
    (ordered : rows.Pairwise (NotAfter ExecutionRow.identity)) :
    ∃ file, loadExecutionManifest file "transaction-service" = .ok (fundManifest rows) := by
  have written : ∃ file, executionManifestBytes (fundManifest rows) = some file := manifest_written short
  obtain ⟨file, isFile⟩ := written
  have loads := load_written rfl distinct executable isFile
  have sorted : (fundManifest rows).normalized = fundManifest rows :=
    congrArg fundManifest (sorted_of_pairwise _ ordered)
  exact ⟨file, sorted ▸ loads⟩

theorem once_short : ShortIds onceRow :=
  ⟨(rfl : (writeInt 7).isSome = true), (rfl : (writeInt 29).isSome = true)⟩

theorem twice_named_loads : ∃ file,
    loadExecutionManifest file "transaction-service" = .ok (fundManifest [onceRow, onwardRow]) := by
  have onwardShort : ShortIds onwardRow :=
    ⟨(rfl : (writeInt 80).isSome = true), (rfl : (writeInt 180).isSome = true)⟩
  apply fund_manifest_loads
  · exact List.forall_mem_cons.mpr ⟨once_short, List.forall_mem_singleton.mpr onwardShort⟩
  · decide +kernel
  · decide +kernel
  · decide +kernel

/-- A manifest that names one transaction in two ways loads, and its run moves the transaction twice. -/
theorem twice_named_not_safe : ∃ file after counts,
    loadExecutionManifest file "transaction-service" = .ok (fundManifest [onceRow, onwardRow]) ∧
    applyReclassification true none fundDatabase.toDatabase (fundManifest [onceRow, onwardRow]) =
      .ok (after, counts) ∧
    ¬(SafeRun none fundDatabase.toDatabase after [onceRow, onwardRow] counts ∧
      Repeats none after (fundManifest [onceRow, onwardRow])) := by
  obtain ⟨file, loads⟩ := twice_named_loads
  have rows : applyRows (applyRow true none) fundDatabase.toDatabase [onceRow, onwardRow] =
      .ok (assignTarget investedDatabase investedPurchase wealth pension, [.applied, .applied]) :=
    apply_rows_cons.mpr ⟨_, _, _, once_applied, apply_rows_cons.mpr ⟨_, _, [], onward_applied, rfl, rfl⟩, rfl⟩
  have ran : applyReclassification true none fundDatabase.toDatabase
      (fundManifest [onceRow, onwardRow]) = .ok (_, countsOf [.applied, .applied]) :=
    apply_manifest_ok.mpr ⟨_, rows, rfl⟩
  refine ⟨file, _, _, loads, ran, ?_⟩
  rintro ⟨safe, repeats⟩
  have faithful : Faithful none := fun resolve isResolver => by cases isResolver
  have stays := not_moved_on_of_safe faithful ran safe repeats fundPurchase List.mem_cons_self
    (by decide +kernel)
  exact stays [] onceRow [onwardRow] _ rfl (fun other member => by cases member) once_takes onwardRow
    (by decide) _ onward_takes

end FinanceTracker.Transaction.ExecutedManifests
