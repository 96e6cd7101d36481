import FinanceTracker.Categorization.CategoryService

/-!
# The taxonomy read copy of transaction-service

The consumer of category and subcategory events, on the JSON bodies it receives.
A field of a body is absent, null or a value: the consumer asks whether the key
is there. The unique constraints on the identity columns are not modelled.
-/

namespace FinanceTracker.Transaction.TaxonomySync

open Shared.TaxonomyEvents Categorization.CategoryService

inductive JsonField (Value : Type) where
  | absent
  | null
  | given (value : Value)

/-- `body.get(name)`. -/
def JsonField.get {Value : Type} : JsonField Value → Option Value
  | .given value => some value
  | _ => none

/-- `body.get(name, current)`, which is null where the key is there with null. -/
def JsonField.getOr {Value : Type} (field : JsonField Value) (current : Option Value) :
    Option Value :=
  match field with
  | .absent => current
  | present => present.get

structure IdentityBody where
  publicId : JsonField String
  semanticKey : JsonField String
  taxonomyVersion : JsonField Int
  lifecycle : JsonField String
  deprecatedInVersion : JsonField Int
  replacedByPublicId : JsonField String

structure CategoryBody where
  categoryId : Int
  name : String
  categoryType : String
  identity : IdentityBody

/-- `is_default` is true or false where it is given. -/
structure SubcategoryBody where
  subcategoryId : Int
  name : String
  categoryId : Int
  isDefault : Option Bool
  parentPublicId : JsonField String
  isFallback : JsonField Bool
  identity : IdentityBody

inductive BodyOfType where
  | category (kind : EventKind) (body : CategoryBody)
  | subcategory (kind : EventKind) (body : SubcategoryBody)
  | unknown (eventType : String)

structure Payload where
  correlationId : String
  body : BodyOfType

/-- `model_dump_json` writes every field, and an unset one as null. -/
def jsonOf {Value : Type} : Option Value → JsonField Value
  | none => .null
  | some value => .given value

def identityJson (identity : TaxonomyIdentity) : IdentityBody where
  publicId := jsonOf identity.publicId
  semanticKey := jsonOf identity.semanticKey
  taxonomyVersion := jsonOf identity.taxonomyVersion
  lifecycle := jsonOf identity.lifecycle
  deprecatedInVersion := jsonOf identity.deprecatedInVersion
  replacedByPublicId := jsonOf identity.replacedByPublicId

def categoryJson (event : CategoryEvent) : Payload where
  correlationId := event.correlationId
  body := .category event.kind
    { categoryId := event.payload.categoryId
      name := event.payload.name
      categoryType := event.payload.categoryType
      identity := identityJson event.identity }

def subcategoryJson (event : SubcategoryEvent) : Payload where
  correlationId := event.correlationId
  body := .subcategory event.kind
    { subcategoryId := event.payload.subcategoryId
      name := event.payload.name
      categoryId := event.payload.categoryId
      isDefault := some event.payload.isDefault
      parentPublicId := jsonOf event.payload.parentPublicId
      isFallback := jsonOf event.payload.isFallback
      identity := identityJson event.identity }

def toJson : TaxonomyMessage → Payload
  | .category event => categoryJson event
  | .subcategory event => subcategoryJson event

structure CategoryModel where
  name : String
  type : String
  identity : TaxonomyIdentity := {}
  deriving DecidableEq

structure SubCategoryModel where
  name : String
  categoryId : Int
  isDefault : Bool := true
  parentPublicId : Option String := none
  isFallback : Option Bool := none
  identity : TaxonomyIdentity := {}
  deriving DecidableEq

/-- `processedEvents` has the message ids of this consumer. -/
structure ReadCopy where
  categories : Int → Option CategoryModel := fun _ => none
  subcategories : Int → Option SubCategoryModel := fun _ => none
  processedEvents : List String := []

def newIdentity (body : IdentityBody) : TaxonomyIdentity where
  publicId := body.publicId.get
  semanticKey := body.semanticKey.get
  taxonomyVersion := body.taxonomyVersion.get
  lifecycle := body.lifecycle.get
  deprecatedInVersion := body.deprecatedInVersion.get
  replacedByPublicId := body.replacedByPublicId.get

def applyIdentity (body : IdentityBody) (identity : TaxonomyIdentity) : TaxonomyIdentity where
  publicId := body.publicId.getOr identity.publicId
  semanticKey := body.semanticKey.getOr identity.semanticKey
  taxonomyVersion := body.taxonomyVersion.getOr identity.taxonomyVersion
  lifecycle := body.lifecycle.getOr identity.lifecycle
  deprecatedInVersion := body.deprecatedInVersion.getOr identity.deprecatedInVersion
  replacedByPublicId := body.replacedByPublicId.getOr identity.replacedByPublicId

def upsertCategory (body : CategoryBody) : Option CategoryModel → CategoryModel
  | none =>
    { name := body.name
      type := body.categoryType
      identity := newIdentity body.identity }
  | some model =>
    { name := body.name
      type := body.categoryType
      identity := applyIdentity body.identity model.identity }

def upsertSubcategory (body : SubcategoryBody) : Option SubCategoryModel → SubCategoryModel
  | none =>
    { name := body.name
      categoryId := body.categoryId
      isDefault := body.isDefault.getD true
      parentPublicId := body.parentPublicId.get
      isFallback := body.isFallback.get
      identity := newIdentity body.identity }
  | some model =>
    { name := body.name
      categoryId := body.categoryId
      isDefault := body.isDefault.getD true
      parentPublicId := body.parentPublicId.getOr model.parentPublicId
      isFallback := body.isFallback.getOr model.isFallback
      identity := applyIdentity body.identity model.identity }

/-- The copy after a known event; an unknown type gives none. -/
def dispatch (copy : ReadCopy) : BodyOfType → Option ReadCopy
  | .category kind body =>
    let stored := copy.categories body.categoryId
    let model := if kind = .deleted then none else some (upsertCategory body stored)
    some { copy with categories := Function.update copy.categories body.categoryId model }
  | .subcategory kind body =>
    let stored := copy.subcategories body.subcategoryId
    let model := if kind = .deleted then none else some (upsertSubcategory body stored)
    some { copy with
      subcategories := Function.update copy.subcategories body.subcategoryId model }
  | .unknown _ => none

def isDuplicate (copy : ReadCopy) (correlationId : String) : Bool :=
  correlationId ≠ "" && copy.processedEvents.contains correlationId

/-- `handle` where no statement fails: the copy and the inbox change together. -/
def handle (copy : ReadCopy) (payload : Payload) : ReadCopy :=
  if isDuplicate copy payload.correlationId then copy
  else
    match dispatch copy payload.body with
    | none => copy
    | some written =>
      if payload.correlationId = "" then written
      else { written with processedEvents := copy.processedEvents ++ [payload.correlationId] }

theorem get_json {Value : Type} (field : Option Value) : (jsonOf field).get = field := by
  cases field with
  | none | some => rfl

/-- A field of a serialised event replaces the stored value, also where it is unset. -/
theorem get_or_json {Value : Type} (field current : Option Value) :
    (jsonOf field).getOr current = field := by
  cases field with
  | none | some => rfl

theorem apply_identity_json (identity stored : TaxonomyIdentity) :
    applyIdentity (identityJson identity) stored = identity := by
  unfold applyIdentity identityJson
  simp only [get_or_json]

theorem new_identity_json (identity : TaxonomyIdentity) :
    newIdentity (identityJson identity) = identity := by
  unfold newIdentity identityJson
  simp only [get_json]

def categoryModelOf (event : CategoryEvent) : CategoryModel where
  name := event.payload.name
  type := event.payload.categoryType
  identity := event.identity

def subcategoryModelOf (event : SubcategoryEvent) : SubCategoryModel where
  name := event.payload.name
  categoryId := event.payload.categoryId
  isDefault := event.payload.isDefault
  parentPublicId := event.payload.parentPublicId
  isFallback := event.payload.isFallback
  identity := event.identity

def withRow (copy : ReadCopy) : TaxonomyMessage → ReadCopy
  | .category event =>
    { copy with
      categories := Function.update copy.categories event.payload.categoryId
        (keptRow event.kind (categoryModelOf event)) }
  | .subcategory event =>
    { copy with
      subcategories := Function.update copy.subcategories event.payload.subcategoryId
        (keptRow event.kind (subcategoryModelOf event)) }

theorem upsert_category_json (event : CategoryEvent) (stored : Option CategoryModel) :
    upsertCategory
      { categoryId := event.payload.categoryId
        name := event.payload.name
        categoryType := event.payload.categoryType
        identity := identityJson event.identity } stored = categoryModelOf event := by
  cases stored with
  | none => simp [upsertCategory, categoryModelOf, new_identity_json]
  | some => simp [upsertCategory, categoryModelOf, apply_identity_json]

theorem upsert_subcategory_json (event : SubcategoryEvent) (stored : Option SubCategoryModel) :
    upsertSubcategory
      { subcategoryId := event.payload.subcategoryId
        name := event.payload.name
        categoryId := event.payload.categoryId
        isDefault := some event.payload.isDefault
        parentPublicId := jsonOf event.payload.parentPublicId
        isFallback := jsonOf event.payload.isFallback
        identity := identityJson event.identity } stored = subcategoryModelOf event := by
  cases stored with
  | none => simp [upsertSubcategory, subcategoryModelOf, new_identity_json, get_json]
  | some => simp [upsertSubcategory, subcategoryModelOf, apply_identity_json, get_or_json]

theorem dispatch_json (copy : ReadCopy) (message : TaxonomyMessage) :
    dispatch copy (toJson message).body = some (withRow copy message) := by
  cases message with
  | category =>
    unfold toJson categoryJson dispatch withRow
    dsimp only
    rw [upsert_category_json]
    rfl
  | subcategory =>
    unfold toJson subcategoryJson dispatch withRow
    dsimp only
    rw [upsert_subcategory_json]
    rfl

def messageId (message : TaxonomyMessage) : String := (toJson message).correlationId

variable {copy : ReadCopy} {message : TaxonomyMessage}

theorem handle_duplicate (duplicate : isDuplicate copy (messageId message) = true) :
    handle copy (toJson message) = copy := by
  unfold handle
  exact if_pos duplicate

theorem handle_new (new : isDuplicate copy (messageId message) = false) :
    (handle copy (toJson message)).categories = (withRow copy message).categories ∧
      (handle copy (toJson message)).subcategories = (withRow copy message).subcategories := by
  unfold messageId at new
  unfold handle
  rw [new, dispatch_json]
  dsimp only
  by_cases unnamed : (toJson message).correlationId = ""
  · simp [unnamed]
  · simp [unnamed]

theorem handle_inbox (new : isDuplicate copy (messageId message) = false)
    (named : messageId message ≠ "") :
    (handle copy (toJson message)).processedEvents =
      copy.processedEvents ++ [messageId message] := by
  unfold messageId at new named ⊢
  unfold handle
  rw [new, dispatch_json]
  simp [named]

end FinanceTracker.Transaction.TaxonomySync
