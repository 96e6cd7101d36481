import FinanceTracker.Library.Runs
import FinanceTracker.Library.SerialRows
import FinanceTracker.Shared.TaxonomyEvents

/-!
# The taxonomy of categorization-service

The use cases of the owner of categories and subcategories. Each writes the row
and its event in one unit of work: a call that raises writes neither. Merchants
and rules are other tables; of them a call is told how many refer to a row.
-/

namespace FinanceTracker.Categorization.CategoryService

open Library Runs SerialRows Shared.TaxonomyEvents

inductive CategoryType where
  | expense
  | income
  | transfer
  deriving DecidableEq

def CategoryType.value : CategoryType → String
  | .expense => "expense"
  | .income => "income"
  | .transfer => "transfer"

structure Category where
  id : Int
  name : String
  type : CategoryType
  displayOrder : Int := 0
  publicId : Option String := none
  semanticKey : Option String := none
  lifecycle : String := "active"
  deriving DecidableEq

structure SubCategory where
  id : Int
  name : String
  categoryId : Int
  isDefault : Bool := true
  publicId : Option String := none
  semanticKey : Option String := none
  lifecycle : String := "active"
  deriving DecidableEq

inductive TaxonomyMessage where
  | category (event : CategoryEvent)
  | subcategory (event : SubcategoryEvent)
  deriving DecidableEq

structure OwnerTables where
  categories : SerialTable Category.id := SerialTable.empty
  subcategories : SerialTable SubCategory.id := SerialTable.empty
  outbox : List TaxonomyMessage := []

inductive CategoryError where
  | categoryNotFound (categoryId : Int)
  | subCategoryNotFound (subcategoryId : Int)
  | duplicateCategoryName (name : String)
  | duplicateSubCategoryName (name : String)
  | invalidCategoryType (value : String)
  | categoryHasSubcategories (categoryId : Int) (count : Nat)
  | subCategoryInUse (subcategoryId : Int) (reason : String)
  | multipleResultsFound
  deriving DecidableEq

def fallbackSubcategoryName : String := "Anden"

def parseCategoryType : String → Except CategoryError CategoryType
  | "expense" => .ok .expense
  | "income" => .ok .income
  | "transfer" => .ok .transfer
  | value => .error (.invalidCategoryType value)

def scalarOneOrNone {Row : Type} : List Row → Except CategoryError (Option Row)
  | [] => .ok none
  | [row] => .ok (some row)
  | _ => .error .multipleResultsFound

def findByName (tables : OwnerTables) (name : String) : Except CategoryError (Option Category) :=
  scalarOneOrNone (tables.categories.rows.filter fun category =>
    category.name = name && category.lifecycle = "active")

def findByCategoryId (tables : OwnerTables) (categoryId : Int) : List SubCategory :=
  tables.subcategories.rows.filter fun sub =>
    sub.categoryId = categoryId && sub.lifecycle = "active"

def findByNameAndCategory (tables : OwnerTables) (name : String) (categoryId : Int) :
    Except CategoryError (Option SubCategory) :=
  scalarOneOrNone (tables.subcategories.rows.filter fun sub =>
    sub.name = name && sub.categoryId = categoryId && sub.lifecycle = "active")

/-- What the constructor of an event draws: a random id and the time in microseconds. -/
structure EventStamp where
  correlationId : String
  timestamp : Int

def categoryEvent (kind : EventKind) (stamp : EventStamp) (category : Category) :
    CategoryEvent where
  kind := kind
  eventVersion := 2
  correlationId := stamp.correlationId
  timestamp := stamp.timestamp
  payload :=
    { categoryId := category.id
      name := category.name
      categoryType := category.type.value
      displayOrder := category.displayOrder }

def subcategoryEvent (kind : EventKind) (stamp : EventStamp) (sub : SubCategory) :
    SubcategoryEvent where
  kind := kind
  eventVersion := 1
  correlationId := stamp.correlationId
  timestamp := stamp.timestamp
  payload :=
    { subcategoryId := sub.id
      name := sub.name
      categoryId := sub.categoryId
      isDefault := sub.isDefault }

def publishCategory (kind : EventKind) (stamp : EventStamp) (category : Category)
    (categories : SerialTable Category.id) (tables : OwnerTables) : OwnerTables :=
  { tables with
    categories := categories
    outbox := tables.outbox ++ [.category (categoryEvent kind stamp category)] }

def publishSubcategory (kind : EventKind) (stamp : EventStamp) (sub : SubCategory)
    (subcategories : SerialTable SubCategory.id) (tables : OwnerTables) : OwnerTables :=
  { tables with
    subcategories := subcategories
    outbox := tables.outbox ++ [.subcategory (subcategoryEvent kind stamp sub)] }

structure CreateCategoryDTO where
  name : String
  type : String
  displayOrder : Int := 0

structure UpdateCategoryDTO where
  name : Option String := none
  type : Option String := none
  displayOrder : Option Int := none

def createCategory (stamp : EventStamp) (dto : CreateCategoryDTO) (tables : OwnerTables) :
    Except CategoryError OwnerTables := do
  let categoryType ← parseCategoryType dto.type
  if (← findByName tables dto.name).isSome then throw (.duplicateCategoryName dto.name)
  let make : Int → Category := fun id =>
    { id := id, name := dto.name, type := categoryType, displayOrder := dto.displayOrder }
  return publishCategory .created stamp (make tables.categories.nextId)
    (tables.categories.insert make fun _ => rfl) tables

/-- Another category with the name, looked for only where the name changes. -/
def categoryDuplicate (tables : OwnerTables) (existing : Category) (name : String) :
    Except CategoryError (Option Category) :=
  if name ≠ existing.name then findByName tables name else .ok none

def updateCategory (stamp : EventStamp) (categoryId : Int) (dto : UpdateCategoryDTO)
    (tables : OwnerTables) : Except CategoryError OwnerTables := do
  match tables.categories.find categoryId with
  | none => throw (.categoryNotFound categoryId)
  | some existing =>
    let categoryType ← dto.type.mapM parseCategoryType
    if dto.name = none ∧ dto.type = none ∧ dto.displayOrder = none then return tables
    let name := dto.name.getD existing.name
    if (← categoryDuplicate tables existing name).isSome then throw (.duplicateCategoryName name)
    let change : Category → Category := fun category =>
      { category with
        name := name
        type := categoryType.getD category.type
        displayOrder := dto.displayOrder.getD category.displayOrder }
    return publishCategory .updated stamp (change existing)
      (tables.categories.update categoryId change fun _ => rfl) tables

def deleteCategory (stamp : EventStamp) (categoryId : Int) (tables : OwnerTables) :
    Except CategoryError OwnerTables := do
  match tables.categories.find categoryId with
  | none => throw (.categoryNotFound categoryId)
  | some existing =>
    let subcategories := findByCategoryId tables categoryId
    if subcategories ≠ [] then
      throw (.categoryHasSubcategories categoryId subcategories.length)
    return publishCategory .deleted stamp existing (tables.categories.delete categoryId) tables

structure CreateSubCategoryDTO where
  name : String

structure UpdateSubCategoryDTO where
  name : Option String := none
  categoryId : Option Int := none

def createSubcategory (stamp : EventStamp) (categoryId : Int) (dto : CreateSubCategoryDTO)
    (tables : OwnerTables) : Except CategoryError OwnerTables := do
  if (tables.categories.find categoryId).isNone then throw (.categoryNotFound categoryId)
  if (← findByNameAndCategory tables dto.name categoryId).isSome then
    throw (.duplicateSubCategoryName dto.name)
  let make : Int → SubCategory := fun id =>
    { id := id, name := dto.name, categoryId := categoryId, isDefault := false }
  return publishSubcategory .created stamp (make tables.subcategories.nextId)
    (tables.subcategories.insert make fun _ => rfl) tables

def subcategoryDuplicate (tables : OwnerTables) (existing : SubCategory) (targetName : String)
    (targetCategoryId : Int) : Except CategoryError (Option SubCategory) :=
  if (targetName, targetCategoryId) ≠ (existing.name, existing.categoryId) then
    findByNameAndCategory tables targetName targetCategoryId
  else .ok none

def updateSubcategory (stamp : EventStamp) (subcategoryId : Int) (dto : UpdateSubCategoryDTO)
    (tables : OwnerTables) : Except CategoryError OwnerTables := do
  match tables.subcategories.find subcategoryId with
  | none => throw (.subCategoryNotFound subcategoryId)
  | some existing =>
    let targetCategoryId := dto.categoryId.getD existing.categoryId
    let targetName := dto.name.getD existing.name
    if targetCategoryId ≠ existing.categoryId ∧
        (tables.categories.find targetCategoryId).isNone then
      throw (.categoryNotFound targetCategoryId)
    if dto.name = none ∧ dto.categoryId = none then return tables
    let duplicate ← subcategoryDuplicate tables existing targetName targetCategoryId
    if duplicate.any fun sub => sub.id ≠ subcategoryId then
      throw (.duplicateSubCategoryName targetName)
    let change : SubCategory → SubCategory := fun sub =>
      { sub with name := targetName, categoryId := targetCategoryId }
    return publishSubcategory .updated stamp (change existing)
      (tables.subcategories.update subcategoryId change fun _ => rfl) tables

/-- `merchants` and `rules` are the numbers of rows that refer to the subcategory. -/
def deleteSubcategory (stamp : EventStamp) (subcategoryId : Int) (merchants rules : Nat)
    (tables : OwnerTables) : Except CategoryError OwnerTables := do
  match tables.subcategories.find subcategoryId with
  | none => throw (.subCategoryNotFound subcategoryId)
  | some existing =>
    if existing.name = fallbackSubcategoryName then
      throw (.subCategoryInUse subcategoryId "it is the rule engine's fallback subcategory")
    if merchants ≠ 0 then
      throw (.subCategoryInUse subcategoryId
        (toString merchants ++ " merchant mappings reference it"))
    if rules ≠ 0 then
      throw (.subCategoryInUse subcategoryId
        (toString rules ++ " categorization rules reference it"))
    return publishSubcategory .deleted stamp existing
      (tables.subcategories.delete subcategoryId) tables

inductive Operation where
  | createCategory (dto : CreateCategoryDTO)
  | updateCategory (categoryId : Int) (dto : UpdateCategoryDTO)
  | deleteCategory (categoryId : Int)
  | createSubcategory (categoryId : Int) (dto : CreateSubCategoryDTO)
  | updateSubcategory (subcategoryId : Int) (dto : UpdateSubCategoryDTO)
  | deleteSubcategory (subcategoryId : Int) (merchants rules : Nat)

def call (stamp : EventStamp) : Operation → OwnerTables → Except CategoryError OwnerTables
  | .createCategory dto => createCategory stamp dto
  | .updateCategory categoryId dto => updateCategory stamp categoryId dto
  | .deleteCategory categoryId => deleteCategory stamp categoryId
  | .createSubcategory categoryId dto => createSubcategory stamp categoryId dto
  | .updateSubcategory subcategoryId dto => updateSubcategory stamp subcategoryId dto
  | .deleteSubcategory subcategoryId merchants rules =>
    deleteSubcategory stamp subcategoryId merchants rules

/-- The row that an event of the kind tells of, as the table has it afterwards. -/
def keptRow {Row : Type} (kind : EventKind) (row : Row) : Option Row :=
  if kind = .deleted then none else some row

/-- A call that returns changes nothing or writes one row with its event. -/
inductive Written (stamp : EventStamp) (tables : OwnerTables) : OwnerTables → Prop where
  | unchanged : Written stamp tables tables
  | category (kind : EventKind) (category : Category) (categories : SerialTable Category.id)
      (found : categories.find =
        Function.update tables.categories.find category.id (keptRow kind category)) :
      Written stamp tables (publishCategory kind stamp category categories tables)
  | subcategory (kind : EventKind) (sub : SubCategory)
      (subcategories : SerialTable SubCategory.id)
      (found : subcategories.find =
        Function.update tables.subcategories.find sub.id (keptRow kind sub)) :
      Written stamp tables (publishSubcategory kind stamp sub subcategories tables)

theorem check_passed {check : Prop} [Decidable check] {failure : CategoryError}
    {rest : Except CategoryError OwnerTables} {next : OwnerTables}
    (done : (if check then .error failure else rest) = .ok next) : rest = .ok next := by
  by_cases failed : check
  · rw [if_pos failed] at done
    cases done
  · rw [if_neg failed] at done
    exact done

section Calls

variable {stamp : EventStamp} {tables next : OwnerTables}

theorem create_category_written {dto : CreateCategoryDTO}
    (done : createCategory stamp dto tables = .ok next) : Written stamp tables next := by
  obtain ⟨_, named⟩ := rest_ok done
  obtain ⟨_, checked⟩ := rest_ok named
  cases check_passed checked
  apply Written.category
  exact find_insert _ _ _

theorem update_category_written {categoryId : Int} {dto : UpdateCategoryDTO}
    (done : updateCategory stamp categoryId dto tables = .ok next) :
    Written stamp tables next := by
  unfold updateCategory at done
  cases found : tables.categories.find categoryId with
  | none =>
    rw [found] at done
    cases done
  | some =>
    rw [found] at done
    obtain ⟨_, given⟩ := rest_ok done
    by_cases empty : dto.name = none ∧ dto.type = none ∧ dto.displayOrder = none
    · rw [if_pos empty] at given
      cases given
      exact Written.unchanged
    · rw [if_neg empty] at given
      obtain ⟨_, checked⟩ := rest_ok given
      cases check_passed checked
      apply Written.category
      rw [find_update, found]
      congr
      exact (find_key found).symm

theorem delete_category_written {categoryId : Int}
    (done : deleteCategory stamp categoryId tables = .ok next) : Written stamp tables next := by
  unfold deleteCategory at done
  cases found : tables.categories.find categoryId with
  | none =>
    rw [found] at done
    cases done
  | some =>
    rw [found] at done
    cases check_passed done
    apply Written.category
    rw [find_delete, find_key found]
    rfl

theorem create_subcategory_written {categoryId : Int} {dto : CreateSubCategoryDTO}
    (done : createSubcategory stamp categoryId dto tables = .ok next) :
    Written stamp tables next := by
  obtain ⟨_, _, checked⟩ := bind_eq_ok.mp (check_passed done)
  cases check_passed checked
  apply Written.subcategory
  exact find_insert _ _ _

theorem update_subcategory_written {subcategoryId : Int} {dto : UpdateSubCategoryDTO}
    (done : updateSubcategory stamp subcategoryId dto tables = .ok next) :
    Written stamp tables next := by
  unfold updateSubcategory at done
  cases found : tables.subcategories.find subcategoryId with
  | none =>
    rw [found] at done
    cases done
  | some =>
    rw [found] at done
    have given := check_passed done
    by_cases empty : dto.name = none ∧ dto.categoryId = none
    · rw [if_pos empty] at given
      cases given
      exact Written.unchanged
    · rw [if_neg empty] at given
      obtain ⟨_, checked⟩ := rest_ok given
      cases check_passed checked
      apply Written.subcategory
      rw [find_update, found]
      congr
      exact (find_key found).symm

theorem delete_subcategory_written {subcategoryId : Int} {merchants rules : Nat}
    (done : deleteSubcategory stamp subcategoryId merchants rules tables = .ok next) :
    Written stamp tables next := by
  unfold deleteSubcategory at done
  cases found : tables.subcategories.find subcategoryId with
  | none =>
    rw [found] at done
    cases done
  | some =>
    rw [found] at done
    cases check_passed (check_passed (check_passed done))
    apply Written.subcategory
    rw [find_delete, find_key found]
    rfl

theorem call_written {operation : Operation} (done : call stamp operation tables = .ok next) :
    Written stamp tables next := by
  cases operation with
  | createCategory => exact create_category_written done
  | updateCategory => exact update_category_written done
  | deleteCategory => exact delete_category_written done
  | createSubcategory => exact create_subcategory_written done
  | updateSubcategory => exact update_subcategory_written done
  | deleteSubcategory => exact delete_subcategory_written done

end Calls

end FinanceTracker.Categorization.CategoryService
