import Mathlib.Init

/-!
# Taxonomy events

The contract events of categories and subcategories, with the fields that
analytics-service and transaction-service read. Every event carries the full
state of its row; the canonical identity is missing from legacy events.
-/

namespace FinanceTracker.Shared.TaxonomyEvents

inductive EventKind where
  | created
  | updated
  | deleted
  deriving DecidableEq

/-- The fields of `_TaxonomySnapshotEvent`. -/
structure TaxonomyIdentity where
  publicId : Option String := none
  semanticKey : Option String := none
  taxonomyVersion : Option Int := none
  lifecycle : Option String := none
  deprecatedInVersion : Option Int := none
  replacedByPublicId : Option String := none
  deriving DecidableEq

structure CategoryPayload where
  categoryId : Int
  name : String
  categoryType : String
  displayOrder : Int := 0
  description : Option String := none
  deriving DecidableEq

structure SubcategoryPayload where
  subcategoryId : Int
  name : String
  categoryId : Int
  isDefault : Bool := true
  parentPublicId : Option String := none
  isFallback : Option Bool := none
  description : Option String := none
  deriving DecidableEq

/-- `timestamp` is in microseconds since the epoch. -/
structure TaxonomyEvent (Payload : Type) where
  kind : EventKind
  eventVersion : Int
  correlationId : String
  timestamp : Int
  identity : TaxonomyIdentity := {}
  payload : Payload
  deriving DecidableEq

abbrev CategoryEvent := TaxonomyEvent CategoryPayload

abbrev SubcategoryEvent := TaxonomyEvent SubcategoryPayload

def TaxonomyEvent.isDeleted {Payload : Type} (event : TaxonomyEvent Payload) : Bool :=
  event.kind = .deleted

end FinanceTracker.Shared.TaxonomyEvents
