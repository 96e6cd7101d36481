import FinanceTracker.Categorization.RuleEngineProvider
import FinanceTracker.Library.LastWrite
import FinanceTracker.Library.Substrings

/-!
# Matching

The `match` of the three rule engines. An evidence is what a caller passes to it; its
amount is the number that `str` writes for the float.
-/

namespace FinanceTracker.Categorization.Matching

open Library LastWrite Substrings
open LearnedRules (CategorizationRule CharTables)
open RuleEngineProvider

inductive Direction where
  | incoming
  | outgoing
  deriving DecidableEq

def Direction.value : Direction → String
  | .incoming => "incoming"
  | .outgoing => "outgoing"

structure Evidence where
  description : String
  amount : ℚ
  direction : Direction
  merchant : Option String := none
  counterparty : Option String := none
  provider : Option String := none
  country : Option String := none
  deriving DecidableEq

inductive CategorizationTier where
  | rule
  | ml
  | llm
  | manual
  | fallback
  deriving DecidableEq

inductive Confidence where
  | high
  | medium
  | low
  deriving DecidableEq

structure CategorizationResult where
  categoryId : ℤ
  subcategoryId : ℤ
  merchantId : Option ℤ := none
  tier : CategorizationTier := .rule
  confidence : Confidence := .high
  deriving DecidableEq

/-- `lookup.get(subcategory_name)`: of entries with one name the dict keeps the last. -/
def idsOf (subcategoryLookup : List (String × (ℤ × ℤ))) (name : String) : Option (ℤ × ℤ) :=
  (lastOf Prod.fst subcategoryLookup name).map Prod.snd

/-- `RuleEngine.match`. A keyword whose subcategory is unknown is passed over. -/
def keywordMatch (tables : CharTables) (engine : RuleEngine)
    (evidence : Evidence) : Option CategorizationResult :=
  let descNormalised := normalizeForMatching tables evidence.description
  engine.sortedKeywords.findSome? fun keyword =>
    if occursIn keyword.1 descNormalised then
      (idsOf engine.lookup keyword.2).map fun ids =>
        { categoryId := ids.2, subcategoryId := ids.1 }
    else none

/-- `TieredRuleEngine.match` over what each engine answers. -/
def tieredMatch (engines : List (Evidence → Option CategorizationResult)) (evidence : Evidence) :
    Option CategorizationResult :=
  engines.findSome? fun engine => engine evidence

/-- The engine that `get(user_id)` returns for an overlay. -/
def userEngine (tables : CharTables) (userEngines : List RuleEngine)
    (globalEngine : Evidence → Option CategorizationResult) :
    Evidence → Option CategorizationResult :=
  if userEngines = [] then globalEngine
  else tieredMatch (userEngines.map (keywordMatch tables) ++ [globalEngine])

structure PersistedSeedRule where
  targetSubcategoryId : ℤ
  targetCategoryId : ℤ
  matchField : String
  operator : String
  direction : String
  confidence : Confidence
  pattern : String
  aliases : List String := []
  provider : Option String := none
  country : Option String := none
  minimumAmount : Option ℚ := none
  maximumAmount : Option ℚ := none
  merchantId : Option ℤ := none
  deriving DecidableEq

def sortLength (rule : PersistedSeedRule) : ℕ :=
  (rule.aliases.map String.length).max?.getD rule.pattern.length

def constrainedRules (rules : List PersistedSeedRule) : List PersistedSeedRule :=
  rules.mergeSort fun first second => sortLength second ≤ sortLength first

/-- `evidence.get(rule.match_field)`. -/
def fieldOf (evidence : Evidence) (matchField : String) : Option String :=
  if matchField = "description" then some evidence.description
  else if matchField = "merchant" then evidence.merchant
  else if matchField = "counterparty" then evidence.counterparty
  else none

/-- A constraint that is set has to hold. -/
def constrained {Value : Type} (constraint : Option Value) (holds : Value → Bool) : Bool :=
  constraint.all holds

def constraintsMet (rule : PersistedSeedRule) (evidence : Evidence) : Bool :=
  (rule.direction = "any" || rule.direction = evidence.direction.value) &&
    constrained rule.provider (fun provider => some provider = evidence.provider) &&
    constrained rule.country (fun country => some country = evidence.country) &&
    constrained rule.minimumAmount (fun minimum => minimum ≤ |evidence.amount|) &&
    constrained rule.maximumAmount (fun maximum => |evidence.amount| ≤ maximum)

def candidates (rule : PersistedSeedRule) : List String :=
  if rule.aliases = [] then [rule.pattern] else rule.aliases

def operatorMatches (value pattern operator : String) : Bool :=
  if operator = "equals" then value = pattern
  else if operator = "prefix" then startsWith value pattern
  else occursIn pattern value

/-- Whether the loop answers from the rule. -/
def ruleMatches (tables : CharTables) (evidence : Evidence) (rule : PersistedSeedRule) : Bool :=
  match fieldOf evidence rule.matchField with
  | none => false
  | some raw => constraintsMet rule evidence &&
      (candidates rule).any fun value =>
        operatorMatches (normalizeForMatching tables raw) (normalizeForMatching tables value)
          rule.operator

def PersistedSeedRule.result (rule : PersistedSeedRule) : CategorizationResult where
  categoryId := rule.targetCategoryId
  subcategoryId := rule.targetSubcategoryId
  merchantId := rule.merchantId
  tier := .rule
  confidence := rule.confidence

def constrainedRule (tables : CharTables) (rules : List PersistedSeedRule) (evidence : Evidence) :
    Option PersistedSeedRule :=
  (constrainedRules rules).find? (ruleMatches tables evidence)

def constrainedMatch (tables : CharTables) (rules : List PersistedSeedRule)
    (evidence : Evidence) : Option CategorizationResult :=
  (constrainedRule tables rules evidence).map PersistedSeedRule.result

end FinanceTracker.Categorization.Matching
