import FinanceTracker.Transaction.TaxonomySync

/-!
# Legacy events and the identity of read copy rows

The events of the taxonomy use cases carry no identity and are below version 3.
Their JSON has the identity fields with null, so the consumer finds the keys and
sets the columns of the row to null.
-/

namespace FinanceTracker.System.LegacyIdentity

open Shared.TaxonomyEvents Categorization.CategoryService Transaction.TaxonomySync List

/-- A use case writes the message to the outbox. -/
def Emitted (message : TaxonomyMessage) : Prop :=
  ∃ stamp operation tables next, call stamp operation tables = .ok next ∧
    next.outbox = tables.outbox ++ [message]

structure CanonicalIdentity where
  publicId : Option String := none
  semanticKey : Option String := none
  taxonomyVersion : Option Int := none
  lifecycle : Option String := none
  parentPublicId : Option String := none
  isFallback : Option Bool := none
  deriving DecidableEq

def categoryIdentity (model : CategoryModel) : CanonicalIdentity where
  publicId := model.identity.publicId
  semanticKey := model.identity.semanticKey
  taxonomyVersion := model.identity.taxonomyVersion
  lifecycle := model.identity.lifecycle

def subcategoryIdentity (model : SubCategoryModel) : CanonicalIdentity where
  publicId := model.identity.publicId
  semanticKey := model.identity.semanticKey
  taxonomyVersion := model.identity.taxonomyVersion
  lifecycle := model.identity.lifecycle
  parentPublicId := model.parentPublicId
  isFallback := model.isFallback

/-- An event without identity that makes or changes a row. -/
structure Legacy {Body : Type} (event : TaxonomyEvent Body) : Prop where
  version : event.eventVersion < 3
  identity : event.identity = {}

theorem emitted_category {event : CategoryEvent} (emitted : Emitted (.category event)) :
    Legacy event := by
  obtain ⟨_, _, _, _, done, outbox⟩ := emitted
  cases call_written done with
  | unchanged => simp at outbox
  | category kind category =>
    unfold publishCategory at outbox
    cases TaxonomyMessage.category.inj (singleton_inj.mp (append_cancel_left outbox))
    have version : (2 : Int) < 3 := by decide
    exact ⟨version, rfl⟩
  | subcategory =>
    unfold publishSubcategory at outbox
    cases singleton_inj.mp (append_cancel_left outbox)

theorem emitted_subcategory {event : SubcategoryEvent} (emitted : Emitted (.subcategory event)) :
    Legacy event ∧ event.payload.parentPublicId = none ∧ event.payload.isFallback = none := by
  obtain ⟨_, _, _, _, done, outbox⟩ := emitted
  cases call_written done with
  | unchanged => simp at outbox
  | category =>
    unfold publishCategory at outbox
    cases singleton_inj.mp (append_cancel_left outbox)
  | subcategory =>
    unfold publishSubcategory at outbox
    cases TaxonomyMessage.subcategory.inj
      (singleton_inj.mp (append_cancel_left outbox))
    have version : (1 : Int) < 3 := by decide
    exact ⟨⟨version, rfl⟩, rfl, rfl⟩

theorem handled_category {copy : ReadCopy} {event : CategoryEvent}
    (changes : event.kind ≠ .deleted) (new : isDuplicate copy event.correlationId = false) :
    (handle copy (toJson (.category event))).categories event.payload.categoryId =
      some (categoryModelOf event) := by
  have unseen : isDuplicate copy (messageId (.category event)) = false := new
  rw [(handle_new unseen).1]
  unfold withRow keptRow
  dsimp only
  rw [if_neg changes]
  exact Function.update_self _ _ _

theorem handled_subcategory {copy : ReadCopy} {event : SubcategoryEvent}
    (changes : event.kind ≠ .deleted) (new : isDuplicate copy event.correlationId = false) :
    (handle copy (toJson (.subcategory event))).subcategories event.payload.subcategoryId =
      some (subcategoryModelOf event) := by
  have unseen : isDuplicate copy (messageId (.subcategory event)) = false := new
  rw [(handle_new unseen).2]
  unfold withRow keptRow
  dsimp only
  rw [if_neg changes]
  exact Function.update_self _ _ _

/-- Name, type and parent are updated, and the identity is kept only where the row
has none. -/
theorem legacy_event_keeps_identity_iff (copy : ReadCopy) :
    (∀ event model, Emitted (.category event) → event.kind ≠ .deleted →
      isDuplicate copy event.correlationId = false →
      copy.categories event.payload.categoryId = some model → event.eventVersion < 3 ∧ ∃ next,
          (handle copy (toJson (.category event))).categories event.payload.categoryId = some next ∧
          next.name = event.payload.name ∧ next.type = event.payload.categoryType ∧
          (categoryIdentity next = categoryIdentity model ↔ categoryIdentity model = {})) ∧
    (∀ event model, Emitted (.subcategory event) → event.kind ≠ .deleted →
      isDuplicate copy event.correlationId = false →
      copy.subcategories event.payload.subcategoryId = some model → event.eventVersion < 3 ∧ ∃ next,
          (handle copy (toJson (.subcategory event))).subcategories
            event.payload.subcategoryId = some next ∧
          next.name = event.payload.name ∧ next.categoryId = event.payload.categoryId ∧
          (subcategoryIdentity next = subcategoryIdentity model ↔
            subcategoryIdentity model = {})) := by
  constructor
  · intro event _ emitted changes new _
    have legacy := emitted_category emitted
    have erased : categoryIdentity (categoryModelOf event) = {} := by
      simp [categoryIdentity, categoryModelOf, legacy.identity]
    refine ⟨legacy.version, categoryModelOf event, handled_category changes new, rfl, rfl, ?_⟩
    rw [erased]
    exact eq_comm
  · intro event _ emitted changes new _
    have legacy := emitted_subcategory emitted
    have erased : subcategoryIdentity (subcategoryModelOf event) = {} := by
      simp [subcategoryIdentity, subcategoryModelOf, legacy.1.identity, legacy.2]
    refine ⟨legacy.1.version, subcategoryModelOf event, handled_subcategory changes new,
      rfl, rfl, ?_⟩
    rw [erased]
    exact eq_comm

def foodPublicId : String := "019fba9e-d800-7d31-8208-aeddb2226b0f"

def ownedFood : Category where
  id := 3
  name := "Mad"
  type := .expense
  publicId := some foodPublicId
  semanticKey := some "food_drink"

def ownerOfFood : OwnerTables where
  categories :=
    { rows := [ownedFood]
      nextId := 4
      fresh := by decide }

def renamedFood : CategoryEvent :=
  categoryEvent .updated ⟨"rename", 1000⟩ { ownedFood with name := "Dagligvarer" }

/-- The row that version 3 has written. -/
def copiedFood : CategoryModel where
  name := "Mad"
  type := "expense"
  identity :=
    { publicId := some foodPublicId
      semanticKey := some "food_drink"
      taxonomyVersion := some 1
      lifecycle := some "active" }

def copyOfFood : ReadCopy where
  categories := Function.update (fun _ => none) 3 (some copiedFood)

theorem rename_emitted : Emitted (.category renamedFood) := by
  refine ⟨⟨"rename", 1000⟩, .updateCategory 3 { name := some "Dagligvarer" }, ownerOfFood, ?_⟩
  exact ⟨_, rfl, rfl⟩

theorem rename_processed : renamedFood.eventVersion < 3 ∧ ∃ next,
    (handle copyOfFood (toJson (.category renamedFood))).categories 3 = some next ∧
      next.name = "Dagligvarer" ∧ next.type = "expense" ∧
      (categoryIdentity next = categoryIdentity copiedFood ↔ categoryIdentity copiedFood = {}) := by
  apply (legacy_event_keeps_identity_iff copyOfFood).1 renamedFood copiedFood rename_emitted
  · decide
  · decide
  · rfl

/-- The rename sets the identity of the row to null. -/
theorem rename_erases_identity : ¬ ∀ copy event model, Emitted (.category event) →
    event.kind ≠ .deleted → isDuplicate copy event.correlationId = false →
    copy.categories event.payload.categoryId = some model →
      ∃ next, (handle copy (toJson (.category event))).categories event.payload.categoryId =
          some next ∧ categoryIdentity next = categoryIdentity model := by
  intro always
  obtain ⟨_, handled, kept⟩ :=
    always copyOfFood renamedFood copiedFood rename_emitted (by decide) (by decide) rfl
  have erased : (handle copyOfFood (toJson (.category renamedFood))).categories 3 =
      some { name := "Dagligvarer", type := "expense" } := by
    rfl
  cases erased.symm.trans handled
  revert kept
  decide

end FinanceTracker.System.LegacyIdentity
