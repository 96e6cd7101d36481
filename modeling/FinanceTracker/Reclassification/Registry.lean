import FinanceTracker.Reclassification.Contracts

/-!
# The pinned registry

`app/domain/reclassification.py` of categorization-service: the legacy proposals and the
mapping file that is written from them, with the identities of
`app/domain/taxonomy_identity.py`. Importing the source validates that every target is a
key of the taxonomy.
-/

namespace FinanceTracker.Reclassification.Registry

open Library JsonText Sha256 SortedBy Contracts

def seedVersion : String := "taxonomy-2026-08-01-v1"

/-- 2026-08-01T00:00:00Z. -/
def pinnedUnixMs : ℕ := 1785542400000

def intFromBytes (bytes : List UInt8) : ℕ :=
  bytes.foldl (fun value byte => value * 256 + byte.toNat) 0

def uuidDigits (value : ℕ) : List Char :=
  ((List.range 32).map fun place => Nat.digitChar (value / 16 ^ place % 16)).reverse

def uuidText (value : ℕ) : String :=
  let digits := uuidDigits value
  String.ofList (digits.take 8 ++ '-' :: (digits.drop 8).take 4 ++ '-' :: (digits.drop 12).take 4 ++
    '-' :: (digits.drop 16).take 4 ++ '-' :: digits.drop 20)

def pinnedUuid7 (semanticKey : String) : String :=
  let digest := intFromBytes ((sha256 (seedVersion ++ ":" ++ semanticKey).toUTF8.data.toList).take 10)
  uuidText ((pinnedUnixMs &&& (2 ^ 48 - 1)) <<< 80 ||| 0x7 <<< 76 |||
    (digest >>> 68 &&& 0xfff) <<< 64 ||| 0b10 <<< 62 ||| digest &&& (2 ^ 62 - 1))

def mappingVersion : String := "tax07-2026-08-01-v1"

structure LegacyProposal where
  legacyId : ℤ
  disposition : Disposition
  reasonCode : String
  targetKeys : List String

def safeCategoryTargets : List (ℤ × String) :=
  [(1, "food_drink"), (2, "housing"), (3, "transport"), (4, "leisure_experiences"), (9, "income"),
    (10, "transfers_wealth")]

def reviewCategoryTargets : List (ℤ × List String) :=
  [(5, ["health_personal_care", "shopping"]), (6, ["housing", "shopping"]),
    (7, ["financial_costs", "transfers_wealth"]), (8, ["other_income", "unknown_transfer"])]

def safeProposals (reasonCode : String) (targets : List (ℤ × String)) : List LegacyProposal :=
  targets.map fun entry => ⟨entry.1, .safeOneToOne, reasonCode, [entry.2]⟩

def splitProposals (disposition : Disposition) (reasonCode : String)
    (targets : List (ℤ × List String)) : List LegacyProposal :=
  targets.map fun entry => ⟨entry.1, disposition, reasonCode, entry.2⟩

def categoryProposals : List LegacyProposal :=
  safeProposals "direct_parent_mapping" safeCategoryTargets ++
    splitProposals .manualReview "split_parent_requires_child" reviewCategoryTargets

def safeSubcategoryTargets : List (ℤ × String) :=
  [(1, "groceries"), (2, "restaurant_cafe"), (3, "takeaway"), (4, "restaurant_cafe"), (5, "kiosk"),
    (6, "rent"), (7, "home_utilities"), (8, "insurance"), (9, "mobile_internet"),
    (10, "home_maintenance"), (11, "public_transport"), (12, "fuel_charging"),
    (13, "vehicle_service"), (14, "parking_tolls"), (15, "cycling_micromobility"),
    (17, "bar_nightlife"), (19, "sport_fitness"), (22, "hairdresser"), (23, "pharmacy_medicine"),
    (24, "clothing_footwear"), (26, "electronics"), (28, "interest_expense"), (29, "investment"),
    (30, "cash_withdrawal"), (31, "services_unspecified"), (33, "salary"),
    (34, "public_benefits"), (36, "capital_income")]

def evidenceSubcategoryTargets : List (ℤ × List String) :=
  [(16, ["digital_services", "memberships", "services_unspecified"]),
    (18, ["culture_events", "gaming_hobby", "leisure_unspecified"]),
    (20, ["sport_fitness", "clothing_footwear", "shopping_unspecified"]),
    (21, ["personal_care", "health_care_unspecified"]),
    (25, ["furniture_homeware", "hardware_diy"]),
    (27, ["bank_fees", "loan_fx_fees", "financial_costs_unspecified"]),
    (32, ["other_income", "unknown_transfer"]),
    (35, ["person_transfer", "other_income", "refund"]),
    (37, ["own_accounts_savings", "unknown_transfer"]), (38, ["person_transfer", "unknown_transfer"]),
    (39, ["person_transfer", "unknown_transfer"]),
    (40, ["own_accounts_savings", "person_transfer", "unknown_transfer"]),
    (41, ["own_accounts_savings", "unknown_transfer"])]

def subcategoryProposals : List LegacyProposal :=
  safeProposals "direct_leaf_mapping" safeSubcategoryTargets ++
    splitProposals .evidenceProposal "split_leaf_requires_evidence" evidenceSubcategoryTargets

def LegacyProposal.entry (proposal : LegacyProposal) : MappingEntry where
  legacyId := proposal.legacyId
  disposition := proposal.disposition
  reasonCode := proposal.reasonCode
  targets := proposal.targetKeys.map fun key => ⟨key, pinnedUuid7 key⟩

/-- The registry that `mapping_payload` serializes. -/
def mappingRegistry : MappingRegistry where
  mappingVersion := Registry.mappingVersion
  taxonomyVersion := seedVersion
  categories := (sortedBy LegacyProposal.legacyId categoryProposals).map LegacyProposal.entry
  subcategories := (sortedBy LegacyProposal.legacyId subcategoryProposals).map LegacyProposal.entry

/-- `mapping_bytes()`, which `json.dumps` writes in ASCII; none where it raises. -/
def mappingBytes : Option ByteArray :=
  (dumpsAscii (.obj mappingRegistry.asPayload)).map fun text => (String.ofList (text ++ ['\n'])).toUTF8

def mappingSha256 : Option String := mappingBytes.map hexdigest

end FinanceTracker.Reclassification.Registry
