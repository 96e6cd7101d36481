import Mathlib.Data.List.Sort
import Mathlib.Data.List.Pairwise
import FinanceTracker.Analytics.GuardedUpsert
import FinanceTracker.Shared.TaxonomyEvents

/-!
# The taxonomy projection of analytics-service

One document per category and per subcategory, written by the guarded full-state
upsert. The identity fields and the description are optional: a null value is
left out of the upsert, so it does not overwrite the value of an earlier event.
-/

namespace FinanceTracker.Analytics.TaxonomyStore

open Library Deliveries Runs Shared.TaxonomyEvents TransactionStore GuardedUpsert

inductive FieldValue where
  | text (value : String)
  | number (value : Int)
  | flag (value : Bool)
  deriving DecidableEq

inductive IdentityKey where
  | publicId
  | semanticKey
  | taxonomyVersion
  | lifecycle
  | deprecatedInVersion
  | replacedByPublicId
  | description
  deriving DecidableEq

inductive SubcategoryKey where
  | shared (key : IdentityKey)
  | parentPublicId
  | isFallback
  deriving DecidableEq

structure CategoryFields where
  docType : String := "category"
  categoryId : Int
  name : String
  categoryType : String
  displayOrder : Int
  deriving DecidableEq

structure SubcategoryFields where
  docType : String := "subcategory"
  subcategoryId : Int
  categoryId : Int
  name : String
  isDefault : Bool
  deriving DecidableEq

abbrev CategoryDoc := GuardedDoc CategoryFields IdentityKey FieldValue

abbrev SubcategoryDoc := GuardedDoc SubcategoryFields SubcategoryKey FieldValue

def identityFields (identity : TaxonomyIdentity) (description : Option String) :
    IdentityKey → Option FieldValue
  | .publicId => identity.publicId.map .text
  | .semanticKey => identity.semanticKey.map .text
  | .taxonomyVersion => identity.taxonomyVersion.map .number
  | .lifecycle => identity.lifecycle.map .text
  | .deprecatedInVersion => identity.deprecatedInVersion.map .number
  | .replacedByPublicId => identity.replacedByPublicId.map .text
  | .description => description.map .text

/-- The parameters of `upsert_category` for an event. -/
def categoryState (event : CategoryEvent) : FullState CategoryFields IdentityKey FieldValue where
  required :=
    { categoryId := event.payload.categoryId
      name := event.payload.name
      categoryType := event.payload.categoryType
      displayOrder := event.payload.displayOrder }
  optional := identityFields event.identity event.payload.description
  isDeleted := event.isDeleted
  eventTs := eventTsMillis event.timestamp

/-- The parameters of `upsert_subcategory` for an event. -/
def subcategoryState (event : SubcategoryEvent) :
    FullState SubcategoryFields SubcategoryKey FieldValue where
  required :=
    { subcategoryId := event.payload.subcategoryId
      categoryId := event.payload.categoryId
      name := event.payload.name
      isDefault := event.payload.isDefault }
  optional := fun
    | .shared key => identityFields event.identity event.payload.description key
    | .parentPublicId => event.payload.parentPublicId.map .text
    | .isFallback => event.payload.isFallback.map .flag
  isDeleted := event.isDeleted
  eventTs := eventTsMillis event.timestamp

def getSubcategoryName (stored : Option SubcategoryDoc) : Option String :=
  stored.bind fun doc =>
    if doc.isDeleted then none else doc.required.map SubcategoryFields.name

/-- The document after the event, and the name to propagate: that of an applied
update. -/
def handleCategory (event : CategoryEvent) (stored : Option CategoryDoc) :
    Option CategoryDoc × Option String :=
  let upserted := guardedFullStateUpsert (categoryState event) stored
  (upserted.1, if upserted.2 ∧ event.kind = .updated then some event.payload.name else none)

def handleSubcategory (event : SubcategoryEvent) (stored : Option SubcategoryDoc) :
    Option SubcategoryDoc × Option String :=
  let upserted := guardedFullStateUpsert (subcategoryState event) stored
  (upserted.1, if upserted.2 ∧ event.kind = .updated then some event.payload.name else none)

def projectCategory (deliveries : List CategoryEvent) : Option CategoryDoc :=
  runFrom (fun stored event => (handleCategory event stored).1) none deliveries

def projectSubcategory (deliveries : List SubcategoryEvent) : Option SubcategoryDoc :=
  runFrom (fun stored event => (handleSubcategory event stored).1) none deliveries

structure TaxonomyHistory (Payload : Type) (idOf : Payload → Int) where
  id : Int
  events : List (TaxonomyEvent Payload)
  oneId : ∀ event ∈ events, idOf event.payload = id
  distinct : events.Pairwise fun first second => first.timestamp ≠ second.timestamp
  deleteNewest : ∀ deleted ∈ events, deleted.isDeleted = true →
    ∀ other ∈ events, other.timestamp ≤ deleted.timestamp

abbrev CategoryHistory := TaxonomyHistory CategoryPayload CategoryPayload.categoryId

abbrev SubcategoryHistory := TaxonomyHistory SubcategoryPayload SubcategoryPayload.subcategoryId

def timestampOrder {Payload : Type} (events : List (TaxonomyEvent Payload)) :
    List (TaxonomyEvent Payload) :=
  events.mergeSort fun first second => first.timestamp ≤ second.timestamp

theorem timestamp_order_covers {Payload : Type} (events : List (TaxonomyEvent Payload)) :
    Covers (timestampOrder events) events := by
  intro _
  exact List.mem_mergeSort

/-- Every order and repetition gives the document of the events in timestamp order. -/
def CategoryConverges (history : CategoryHistory) : Prop :=
  ∀ deliveries, Covers deliveries history.events →
    projectCategory deliveries = projectCategory (timestampOrder history.events)

def SubcategoryConverges (history : SubcategoryHistory) : Prop :=
  ∀ deliveries, Covers deliveries history.events →
    projectSubcategory deliveries = projectSubcategory (timestampOrder history.events)

theorem history_delete_last {Payload Required Key : Type} {idOf : Payload → Int}
    (history : TaxonomyHistory Payload idOf)
    (full : TaxonomyEvent Payload → FullState Required Key FieldValue)
    (stamps : ∀ event, (full event).eventTs = eventTsMillis event.timestamp)
    (deletes : ∀ event, (full event).isDeleted = event.isDeleted) :
    DeleteLast full history.events := by
  constructor
  · intro deleted member isDeleted other otherIn
    unfold stampOf
    rw [stamps, stamps]
    rw [deletes] at isDeleted
    exact event_ts_millis_mono (history.deleteNewest deleted member isDeleted other otherIn)
  · intro first firstIn second secondIn firstDeleted secondDeleted
    rw [deletes] at firstDeleted secondDeleted
    have same := Int.le_antisymm
      (history.deleteNewest second secondIn secondDeleted first firstIn)
      (history.deleteNewest first firstIn firstDeleted second secondIn)
    have symmetric : Std.Symm fun first second : TaxonomyEvent Payload =>
        first.timestamp ≠ second.timestamp := ⟨fun _ _ unequal => unequal.symm⟩
    by_contra different
    exact history.distinct.forall firstIn secondIn different same

theorem taxonomy_converges_iff (categories : CategoryHistory)
    (subcategories : SubcategoryHistory) :
    (CategoryConverges categories ↔ Settled categoryState categories.events) ∧
      (SubcategoryConverges subcategories ↔ Settled subcategoryState subcategories.events) := by
  constructor
  · apply same_as_iff_settled
    · exact history_delete_last categories categoryState (fun _ => rfl) fun _ => rfl
    · exact timestamp_order_covers categories.events
  · apply same_as_iff_settled
    · exact history_delete_last subcategories subcategoryState (fun _ => rfl) fun _ => rfl
    · exact timestamp_order_covers subcategories.events

/-- A version 3 snapshot of category 3 at 10 ms. -/
def canonicalEvent : CategoryEvent where
  kind := .updated
  eventVersion := 3
  correlationId := "canonical"
  timestamp := 10000
  identity :=
    { publicId := some "01980000-0000-7000-8000-000000000003"
      semanticKey := some "food"
      taxonomyVersion := some 1
      lifecycle := some "active" }
  payload := { categoryId := 3, name := "Mad", categoryType := "expense" }

/-- A version 2 rename of it at 20 ms, without an identity. -/
def legacyEvent : CategoryEvent where
  kind := .updated
  eventVersion := 2
  correlationId := "legacy"
  timestamp := 20000
  payload := { categoryId := 3, name := "Mad og drikke", categoryType := "expense" }

def mixedHistory : CategoryHistory where
  id := 3
  events := [canonicalEvent, legacyEvent]
  oneId := by decide
  distinct := by decide
  deleteNewest := by decide

/-- The older event leaves its `public_id` in the document only when it comes first. -/
theorem mixed_history_diverges : ¬ CategoryConverges mixedHistory := by
  intro converges
  have swapped : Covers [legacyEvent, canonicalEvent] mixedHistory.events := by
    intro _
    rw [show mixedHistory.events = [canonicalEvent, legacyEvent] from rfl, List.mem_cons,
      List.mem_singleton, List.mem_cons, List.mem_singleton, or_comm]
  have reversed := (converges _ swapped).trans (converges _ (covers_self _)).symm
  have publicIds := congrArg (fun doc => doc.map fun doc => doc.optional .publicId) reversed
  revert publicIds
  decide +kernel

end FinanceTracker.Analytics.TaxonomyStore
