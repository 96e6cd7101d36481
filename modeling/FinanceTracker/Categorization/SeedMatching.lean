import FinanceTracker.Categorization.Matching

/-!
# The reference semantics of seed rules

`rule_applies` over the seed contracts, and the runtime engine built from one seed. The
two collapse whitespace and spell the Danish letters on different sides: the reference
does both to the text, the engine spells text and pattern alike and leaves whitespace as
it is.
-/

namespace FinanceTracker.Categorization.SeedMatching

open Library.Substrings List
open Library.Texts (isSpace strip)
open LearnedRules (CharTables transliterate)
open Matching
open RuleEngineProvider (normalizeForMatching)

inductive MatchField where
  | merchant
  | counterparty
  | description
  deriving DecidableEq

def MatchField.value : MatchField → String
  | .merchant => "merchant"
  | .counterparty => "counterparty"
  | .description => "description"

inductive MatchOperator where
  | equals
  | contains
  | startsWith
  deriving DecidableEq

def MatchOperator.value : MatchOperator → String
  | .equals => "equals"
  | .contains => "contains"
  | .startsWith => "prefix"

inductive TransactionDirection where
  | outgoing
  | incoming
  | any
  deriving DecidableEq

def TransactionDirection.value : TransactionDirection → String
  | .outgoing => "outgoing"
  | .incoming => "incoming"
  | .any => "any"

structure CategorizationRuleSeed where
  matchField : MatchField
  operator : MatchOperator
  direction : TransactionDirection
  confidence : Confidence
  provenance : String
  merchantKey : Option String := none
  pattern : Option String := none
  provider : Option String := none
  country : Option String := none
  minimumAmount : Option ℚ := none
  maximumAmount : Option ℚ := none

/-- `__post_init__`: the text of the error that it raises. -/
def postInit (tables : CharTables) (seed : CategorizationRuleSeed) : Option String :=
  if seed.merchantKey.isSome = seed.pattern.isSome then
    some "a rule must reference exactly one merchant or explicit pattern"
  else if seed.pattern.any fun pattern => pattern ≠ tables.lower (strip pattern) then
    some "rule patterns must be normalized lowercase text"
  else if seed.minimumAmount.any fun minimum =>
      seed.maximumAmount.any fun maximum => maximum < minimum then
    some "minimum_amount must not exceed maximum_amount"
  else if strip seed.provenance = "" then some "rule provenance is required"
  else none

/-- `" ".join(text.split())`. -/
def collapse (chars : List Char) : List Char :=
  [' '].intercalate ((chars.splitOnP isSpace).filter fun word => word ≠ [])

def normalizeSeedText (tables : CharTables) (value : String) : String :=
  String.ofList (collapse ((tables.lower value).toList.flatMap transliterate))

def directionFromAmount (amount : ℚ) : Option TransactionDirection :=
  if 0 < amount then some .incoming
  else if amount < 0 then some .outgoing
  else none

structure RuleEvidence where
  description : String
  merchantKey : Option String
  counterparty : Option String
  amount : ℚ
  provider : Option String := none
  country : Option String := none

/-- The text that a rule with an explicit pattern looks at. -/
def candidateText (tables : CharTables) (matchField : MatchField) (evidence : RuleEvidence) :
    Option String :=
  match matchField with
  | .description => some (normalizeSeedText tables evidence.description)
  | .counterparty => some (normalizeSeedText tables (evidence.counterparty.getD ""))
  | .merchant => none

def referenceMatches (candidate pattern : String) : MatchOperator → Bool
  | .equals => candidate = pattern
  | .startsWith => startsWith candidate pattern
  | .contains => occursIn pattern candidate

def ruleApplies (tables : CharTables) (rule : CategorizationRuleSeed) (evidence : RuleEvidence) :
    Bool :=
  let direction := directionFromAmount evidence.amount
  if direction = none && rule.direction ≠ .any then false
  else if direction ≠ none && !(rule.direction = .any || some rule.direction = direction) then false
  else if rule.provider ≠ none && rule.provider ≠ evidence.provider then false
  else if rule.country ≠ none && rule.country ≠ evidence.country then false
  else if rule.minimumAmount.any fun minimum => |evidence.amount| < minimum then false
  else if rule.maximumAmount.any fun maximum => maximum < |evidence.amount| then false
  else if rule.merchantKey ≠ none then rule.merchantKey = evidence.merchantKey
  else
    match candidateText tables rule.matchField evidence with
    | none => false
    | some candidate => referenceMatches candidate (rule.pattern.getD "") rule.operator

/-- The row of a seed with an explicit pattern, as the provider reads it back. -/
def persisted (seed : CategorizationRuleSeed) (pattern : String)
    (targetSubcategoryId targetCategoryId : ℤ) : PersistedSeedRule where
  targetSubcategoryId := targetSubcategoryId
  targetCategoryId := targetCategoryId
  matchField := seed.matchField.value
  operator := seed.operator.value
  direction := seed.direction.value
  confidence := seed.confidence
  pattern := pattern
  provider := seed.provider
  country := seed.country
  minimumAmount := seed.minimumAmount
  maximumAmount := seed.maximumAmount

def engineEvidence (evidence : RuleEvidence) (direction : Direction) : Evidence where
  description := evidence.description
  amount := evidence.amount
  direction := direction
  merchant := evidence.merchantKey
  counterparty := evidence.counterparty
  provider := evidence.provider
  country := evidence.country

def directionOf : Direction → TransactionDirection
  | .incoming => .incoming
  | .outgoing => .outgoing

def fieldText (evidence : RuleEvidence) : MatchField → Option String
  | .description => some evidence.description
  | .counterparty => evidence.counterparty
  | .merchant => none

def isDanish (char : Char) : Bool := char = 'ø' || char = 'æ' || char = 'å'

/-- A missing text is asked for a pattern that is not empty; a pattern with a Danish letter
does not match; and for other patterns it makes no difference that the engine leaves the
whitespace of the text as it is. -/
def TextAgrees (tables : CharTables) (pattern : String) (operator : MatchOperator) :
    Option String → Prop
  | none => pattern ≠ ""
  | some raw =>
    if pattern.toList.any isDanish then
      referenceMatches (normalizeForMatching tables raw) (normalizeForMatching tables pattern)
        operator = false
    else
      referenceMatches (normalizeForMatching tables raw) pattern operator =
        referenceMatches (normalizeSeedText tables raw) pattern operator

section Constraints

variable {tables : CharTables} {seed : CategorizationRuleSeed} {evidence : RuleEvidence}
  {direction : Direction} {pattern : String}

theorem direction_met : (seed.direction.value = "any" || seed.direction.value = direction.value : Bool) =
    (seed.direction = .any || seed.direction = directionOf direction : Bool) := by
  cases seed.direction <;> cases direction <;> decide

theorem equal_met {Value : Type} [DecidableEq Value] (constraint given : Option Value) :
    constrained constraint (fun value => some value = given) =
      !(constraint ≠ none && constraint ≠ given : Bool) := by
  cases constraint with
  | none => rfl
  | some value =>
    change decide (some value = given) = _
    by_cases same : some value = given <;> simp [same]

theorem minimum_met (minimum : Option ℚ) (amount : ℚ) :
    constrained minimum (fun minimum => minimum ≤ amount) =
      !(minimum.any fun minimum => amount < minimum : Bool) := by
  cases minimum with
  | none => rfl
  | some minimum =>
    unfold constrained
    by_cases below : amount < minimum <;> simp [below, not_le.mpr, not_lt.mp]

theorem maximum_met (maximum : Option ℚ) (amount : ℚ) :
    constrained maximum (fun maximum => amount ≤ maximum) =
      !(maximum.any fun maximum => maximum < amount : Bool) := by
  cases maximum with
  | none => rfl
  | some maximum =>
    unfold constrained
    by_cases above : maximum < amount <;> simp [above, not_le.mpr, not_lt.mp]

/-- The reference asks for the constraints of the engine, and then for its own text. -/
theorem rule_applies_eq (agrees : directionFromAmount evidence.amount = some (directionOf direction))
    (noMerchant : seed.merchantKey = none) (isPattern : seed.pattern = some pattern)
    (targetSubcategoryId targetCategoryId : ℤ) :
    ruleApplies tables seed evidence =
      (constraintsMet (persisted seed pattern targetSubcategoryId targetCategoryId)
          (engineEvidence evidence direction) &&
        match candidateText tables seed.matchField evidence with
        | none => false
        | some candidate => referenceMatches candidate pattern seed.operator) := by
  have isMet : constraintsMet (persisted seed pattern targetSubcategoryId targetCategoryId)
      (engineEvidence evidence direction) =
      ((seed.direction = .any || seed.direction = directionOf direction : Bool) &&
        !(seed.provider ≠ none && seed.provider ≠ evidence.provider : Bool) &&
        !(seed.country ≠ none && seed.country ≠ evidence.country : Bool) &&
        !(seed.minimumAmount.any fun minimum => |evidence.amount| < minimum : Bool) &&
        !(seed.maximumAmount.any fun maximum => maximum < |evidence.amount| : Bool)) := by
    rw [← direction_met, ← equal_met, ← equal_met, ← minimum_met, ← maximum_met]
    rfl
  rw [isMet]
  unfold ruleApplies
  rw [agrees, noMerchant, isPattern]
  simp only [Bool.if_false_left, Bool.decide_eq_true, reduceCtorEq, decide_false, Bool.false_and,
    Bool.true_and, ne_eq, not_false_eq_true, decide_true, Bool.not_not,
    Option.some.injEq, not_true_eq_false, if_false, Option.getD_some, Bool.and_assoc]
end Constraints

section Texts

variable {tables : CharTables}

theorem operator_matches_eq (value pattern : String) (operator : MatchOperator) :
    operatorMatches value pattern operator.value = referenceMatches value pattern operator := by
  cases operator <;> rfl

theorem spelled_not_danish {char spelled : Char} (member : spelled ∈ transliterate char) :
    isDanish spelled = false := by
  have letters (first second : Char) (among : spelled ∈ [first, second])
      (plainFirst : isDanish first = false) (plainSecond : isDanish second = false) :
      isDanish spelled = false := by
    rcases mem_pair.mp among with isFirst | isSecond
    · rw [isFirst, plainFirst]
    · rw [isSecond, plainSecond]
  unfold transliterate at member
  split_ifs at member with isOe isAe isAa
  · exact letters 'o' 'e' member (by decide) (by decide)
  · exact letters 'a' 'e' member (by decide) (by decide)
  · exact letters 'a' 'a' member (by decide) (by decide)
  · rw [mem_singleton.mp member]
    unfold isDanish
    simp [isOe, isAe, isAa]

theorem plain_spelling {chars : List Char} (plain : chars.any isDanish = false) :
    chars.flatMap transliterate = chars := by
  induction chars with
  | nil => rfl
  | cons char chars ih =>
    rw [any_cons, Bool.or_eq_false_iff] at plain
    obtain ⟨head, tail⟩ := plain
    have alone : transliterate char = [char] := by
      unfold isDanish at head
      simp only [Bool.or_eq_false_iff, decide_eq_false_iff_not] at head
      unfold transliterate
      rw [if_neg head.1.1, if_neg head.1.2, if_neg head.2]
    rw [flatMap_cons, alone, ih tail]
    rfl

theorem mem_collapse {chars : List Char} {char : Char} (member : char ∈ collapse chars) :
    char = ' ' ∨ char ∈ chars := by
  rcases mem_of_mem_join member with isBlank | ⟨word, isWord, inWord⟩
  · exact Or.inl (mem_singleton.mp isBlank)
  · exact Or.inr (mem_of_mem_split (mem_filter.mp isWord).1 inWord)

theorem seed_text_not_danish (text : String) :
    (normalizeSeedText tables text).toList.any isDanish = false := by
  unfold normalizeSeedText
  rw [String.toList_ofList, any_eq_false]
  intro _ member
  rw [Bool.not_eq_true]
  rcases mem_collapse member with isBlank | inText
  · rw [isBlank]
    decide
  · obtain ⟨_, _, spelled⟩ := mem_flatMap.mp inText
    exact spelled_not_danish spelled

theorem danish_unmatched {pattern : String} (danish : pattern.toList.any isDanish = true)
    (text : String) (operator : MatchOperator) :
    referenceMatches (normalizeSeedText tables text) pattern operator = false := by
  obtain ⟨char, member, isLetter⟩ := any_eq_true.mp danish
  have absent : char ∉ (normalizeSeedText tables text).toList := by
    intro present
    have plain : (normalizeSeedText tables text).toList.any isDanish = false :=
      seed_text_not_danish text
    exact any_eq_false.mp plain char present isLetter
  rw [← Bool.not_eq_true]
  intro matched
  apply absent
  cases operator with
  | equals =>
    have same : normalizeSeedText tables text = pattern := of_decide_eq_true matched
    rw [same]
    exact member
  | startsWith => exact (starts_iff.mp matched).subset member
  | contains => exact (occurs_iff.mp matched).subset member

end Texts
section Refinement

variable {tables : CharTables} {seed : CategorizationRuleSeed} {evidence : RuleEvidence}
  {direction : Direction} {pattern : String}

theorem accepted_pattern (valid : postInit tables seed = none)
    (isPattern : seed.pattern = some pattern) : pattern = tables.lower (strip pattern) := by
  unfold postInit at valid
  rw [isPattern] at valid
  split at valid
  · cases valid
  · split at valid
    · cases valid
    · next accepted => simpa using accepted

theorem accepted_source (valid : postInit tables seed = none)
    (isPattern : seed.pattern = some pattern) : seed.merchantKey = none := by
  unfold postInit at valid
  rw [isPattern] at valid
  split at valid
  · cases valid
  · next one => simpa using one

theorem normalize_plain (settled : tables.lower pattern = pattern)
    (plain : pattern.toList.any isDanish = false) : normalizeForMatching tables pattern = pattern := by
  unfold normalizeForMatching
  rw [settled, plain_spelling plain, String.ofList_toList]

theorem field_of_engine (explicit : seed.matchField ≠ .merchant) :
    fieldOf (engineEvidence evidence direction) seed.matchField.value =
      fieldText evidence seed.matchField := by
  cases isField : seed.matchField with
  | merchant => exact absurd isField explicit
  | counterparty | description => rfl

theorem candidate_of_field (explicit : seed.matchField ≠ .merchant) :
    candidateText tables seed.matchField evidence =
      some (normalizeSeedText tables ((fieldText evidence seed.matchField).getD "")) := by
  cases isField : seed.matchField with
  | merchant => exact absurd isField explicit
  | counterparty | description => rfl

theorem single_engine (targetSubcategoryId targetCategoryId : ℤ)
    (explicit : seed.matchField ≠ .merchant) :
    (constrainedMatch tables [persisted seed pattern targetSubcategoryId targetCategoryId]
        (engineEvidence evidence direction)).isSome =
      (constraintsMet (persisted seed pattern targetSubcategoryId targetCategoryId)
          (engineEvidence evidence direction) &&
        match fieldText evidence seed.matchField with
        | none => false
        | some raw => referenceMatches (normalizeForMatching tables raw)
            (normalizeForMatching tables pattern) seed.operator) := by
  unfold constrainedMatch constrainedRule constrainedRules
  rw [mergeSort_singleton, Option.isSome_map, List.find?_singleton]
  have isMatch : ruleMatches tables (engineEvidence evidence direction)
      (persisted seed pattern targetSubcategoryId targetCategoryId) =
      match fieldText evidence seed.matchField with
      | none => false
      | some raw => constraintsMet (persisted seed pattern targetSubcategoryId targetCategoryId)
            (engineEvidence evidence direction) &&
          referenceMatches (normalizeForMatching tables raw) (normalizeForMatching tables pattern)
            seed.operator := by
    unfold ruleMatches
    have isField : fieldOf (engineEvidence evidence direction)
        (persisted seed pattern targetSubcategoryId targetCategoryId).matchField =
        fieldText evidence seed.matchField := field_of_engine explicit
    rw [isField]
    cases fieldText evidence seed.matchField with
    | none => rfl
    | some =>
      have one : candidates (persisted seed pattern targetSubcategoryId targetCategoryId) =
          [pattern] := rfl
      have isOperator : (persisted seed pattern targetSubcategoryId targetCategoryId).operator =
          seed.operator.value := rfl
      simp only [one, isOperator, any_cons, any_nil, Bool.or_false, operator_matches_eq]
  have found : ∀ matched : Bool, (if matched = true then
      some (persisted seed pattern targetSubcategoryId targetCategoryId) else none).isSome =
        matched := by
    intro matched
    cases matched <;> rfl
  rw [found, isMatch]
  cases fieldText evidence seed.matchField with
  | none => rw [Bool.and_false]
  | some => rfl

theorem empty_candidate (text : String) (operator : MatchOperator) :
    referenceMatches "" text operator = true ↔ text = "" := by
  cases operator with
  | equals =>
    change decide ("" = text) = true ↔ text = ""
    rw [decide_eq_true_eq, eq_comm]
  | startsWith =>
    change startsWith "" text = true ↔ text = ""
    rw [starts_iff, String.toList_empty, prefix_nil, String.toList_eq_nil_iff]
  | contains =>
    change occursIn text "" = true ↔ text = ""
    rw [occurs_iff, String.toList_empty, infix_nil, String.toList_eq_nil_iff]

/-- Where single spaces separate the words of the text, a pattern without Danish letters
is compared alike. -/
theorem spaced_text_agrees {operator : MatchOperator} {raw : String}
    (plain : pattern.toList.any isDanish = false)
    (spaced : normalizeSeedText tables raw = normalizeForMatching tables raw) :
    TextAgrees tables pattern operator (some raw) := by
  unfold TextAgrees
  simp only [plain, spaced, Bool.false_eq_true, if_false]

/-- The engine of a seed with an explicit pattern matches as the reference says exactly
when the constraints are not met or the text agrees. -/
theorem engine_refines_reference
    (empty : tables.lower "" = "")
    (lowered : ∀ text, tables.lower (tables.lower text) = tables.lower text)
    (valid : postInit tables seed = none) (isPattern : seed.pattern = some pattern)
    (explicit : seed.matchField ≠ .merchant)
    (agrees : directionFromAmount evidence.amount = some (directionOf direction))
    (targetSubcategoryId targetCategoryId : ℤ) :
    ((constrainedMatch tables [persisted seed pattern targetSubcategoryId targetCategoryId]
          (engineEvidence evidence direction)).isSome = true ↔
        ruleApplies tables seed evidence = true) ↔
      (constraintsMet (persisted seed pattern targetSubcategoryId targetCategoryId)
          (engineEvidence evidence direction) = true →
        TextAgrees tables pattern seed.operator (fieldText evidence seed.matchField)) := by
  have settled : tables.lower pattern = pattern := by
    rw [accepted_pattern valid isPattern, lowered]
  rw [single_engine targetSubcategoryId targetCategoryId explicit,
    rule_applies_eq agrees (accepted_source valid isPattern) isPattern targetSubcategoryId
      targetCategoryId, candidate_of_field explicit]
  cases constraintsMet (persisted seed pattern targetSubcategoryId targetCategoryId)
      (engineEvidence evidence direction) with
  | false => simp
  | true =>
    simp only [Bool.true_and, true_implies]
    cases fieldText evidence seed.matchField with
    | none =>
      have blank : normalizeSeedText tables "" = "" := by
        unfold normalizeSeedText
        rw [empty]
        rfl
      change (false = true ↔ referenceMatches (normalizeSeedText tables "") pattern
        seed.operator = true) ↔ pattern ≠ ""
      rw [blank, empty_candidate]
      simp
    | some raw =>
      change (referenceMatches (normalizeForMatching tables raw)
          (normalizeForMatching tables pattern) seed.operator = true ↔
        referenceMatches (normalizeSeedText tables raw) pattern seed.operator = true) ↔
        TextAgrees tables pattern seed.operator (some raw)
      unfold TextAgrees
      cases isLetter : pattern.toList.any isDanish with
      | true =>
        rw [danish_unmatched isLetter]
        simp
      | false =>
        rw [normalize_plain settled isLetter, ← Bool.eq_iff_iff]
        simp

end Refinement

def unchanged : CharTables where
  lower := fun text => text
  isAlpha := Char.isAlpha

def nettoSeed : CategorizationRuleSeed where
  matchField := .description
  operator := .contains
  direction := .outgoing
  confidence := .high
  provenance := "reviewed"
  pattern := some "netto nord"

def spent (description : String) : RuleEvidence where
  description := description
  merchantKey := none
  counterparty := none
  amount := -120

theorem plain_text_refines :
    (constrainedMatch unchanged [persisted nettoSeed "netto nord" 3 1]
        (engineEvidence (spent "dk netto nord") .outgoing)).isSome = true ↔
      ruleApplies unchanged nettoSeed (spent "dk netto nord") = true :=
  (engine_refines_reference rfl (fun _ => rfl) (by decide +kernel) rfl (by decide)
    (by decide +kernel) 3 1).mpr fun _ =>
      spaced_text_agrees (by decide +kernel) (by decide +kernel)

/-- The two spaces of the description stand in the way of the engine only. -/
theorem wide_text_not_refined :
    ¬ ∀ (tables : CharTables) (seed : CategorizationRuleSeed) (pattern : String)
      (evidence : RuleEvidence) (direction : Direction) (targetSubcategoryId targetCategoryId : ℤ),
      tables.lower "" = "" → (∀ text, tables.lower (tables.lower text) = tables.lower text) →
      postInit tables seed = none → seed.pattern = some pattern → seed.matchField ≠ .merchant →
      directionFromAmount evidence.amount = some (directionOf direction) →
      ((constrainedMatch tables [persisted seed pattern targetSubcategoryId targetCategoryId]
          (engineEvidence evidence direction)).isSome = true ↔
        ruleApplies tables seed evidence = true) := by
  intro always
  have refines := always unchanged nettoSeed "netto nord" (spent "netto  nord") .outgoing 3 1 rfl
    (fun _ => rfl) (by decide +kernel) rfl (by decide) (by decide +kernel)
  have applies : ruleApplies unchanged nettoSeed (spent "netto  nord") = true := by
    decide +kernel
  have unmatched : (constrainedMatch unchanged [persisted nettoSeed "netto nord" 3 1]
      (engineEvidence (spent "netto  nord") .outgoing)).isSome = false := by
    decide +kernel
  have matched := refines.mpr applies
  rw [unmatched] at matched
  contradiction

end FinanceTracker.Categorization.SeedMatching
