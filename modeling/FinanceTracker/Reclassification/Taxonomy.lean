import FinanceTracker.Reclassification.Registry

/-!
# The taxonomy

`app/domain/taxonomy_definitions.py` of categorization-service: the keys of the categories
and of their subcategories, which `validate_mapping` holds the proposals to.
-/

namespace FinanceTracker.Reclassification.Taxonomy


/-- The keys of the categories with their types. -/
def parents : List (String × String) :=
  [("food_drink", "expense"), ("housing", "expense"), ("transport", "expense"),
    ("services_insurance", "expense"), ("health_personal_care", "expense"),
    ("shopping", "expense"), ("leisure_experiences", "expense"), ("travel", "expense"),
    ("family_education", "expense"), ("public_tax", "expense"), ("financial_costs", "expense"),
    ("income", "income"), ("transfers_wealth", "transfer")]

def children : List (String × List String) :=
  [("food_drink", ["groceries", "restaurant_cafe", "takeaway", "kiosk", "food_drink_unspecified"]),
    ("housing", ["rent", "home_utilities", "housing_association", "home_maintenance",
      "housing_unspecified"]),
    ("transport", ["public_transport", "fuel_charging", "parking_tolls", "vehicle_service",
      "cycling_micromobility", "transport_unspecified"]),
    ("services_insurance", ["mobile_internet", "digital_services", "memberships", "insurance",
      "services_unspecified"]),
    ("health_personal_care", ["pharmacy_medicine", "treatment", "hairdresser", "personal_care",
      "health_care_unspecified"]),
    ("shopping", ["clothing_footwear", "electronics", "furniture_homeware", "hardware_diy",
      "shopping_unspecified"]),
    ("leisure_experiences", ["bar_nightlife", "culture_events", "sport_fitness", "gaming_hobby",
      "leisure_unspecified"]),
    ("travel", ["flight_long_distance", "accommodation", "package_travel", "travel_unspecified"]),
    ("family_education", ["children_childcare", "education_materials", "gifts_donations", "pets",
      "family_education_unspecified"]),
    ("public_tax", ["tax", "fines", "public_fees", "public_unspecified"]),
    ("financial_costs", ["bank_fees", "interest_expense", "loan_fx_fees",
      "financial_costs_unspecified"]),
    ("income", ["salary", "self_employment", "public_benefits", "pension_holiday_pay",
      "capital_income", "refund", "other_income"]),
    ("transfers_wealth", ["own_accounts_savings", "investment", "loan_principal",
      "credit_card_settlement", "cash_withdrawal", "person_transfer", "unknown_transfer"])]

def categoryKeys : List String := parents.map Prod.fst

def subcategoryKeys : List String := children.flatMap Prod.snd

/-- The category of a subcategory. -/
def parentOf (key : String) : Option String :=
  (children.find? fun entry => key ∈ entry.2).map Prod.fst

theorem category_keys_distinct : categoryKeys.Nodup := by decide +kernel

theorem subcategory_keys_distinct : subcategoryKeys.Nodup := by decide +kernel

theorem category_not_subcategory : ∀ key ∈ categoryKeys, key ∉ subcategoryKeys := by decide +kernel

theorem parent_known : ∀ key ∈ subcategoryKeys, ∃ parent, parentOf key = some parent ∧ parent ∈ categoryKeys := by
  decide +kernel

end FinanceTracker.Reclassification.Taxonomy
