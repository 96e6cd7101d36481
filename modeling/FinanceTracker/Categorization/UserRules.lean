import FinanceTracker.Categorization.Matching

/-!
# The rules of a user

The rules table under the calls of `RuleService`, whose bodies have passed the checks of
their DTOs, and under the corrections that the consumer has processed. A pattern is
stripped after its length was checked, so whitespace is stored as the empty pattern,
which occurs in every description.
-/

namespace FinanceTracker.Categorization.UserRules

open Library KeyedRows Runs Substrings List
open Library.Texts (strip)
open LearnedRules (CategorizationRule CategoryCorrected CharTables
  Lesson RuleTable flush lessonOf normalizeMerchantPattern retargeted transliterate)
open RuleEngineProvider (CreateRule Database RuleServiceError
  SubCategory UpdateRule createRule deleteRule getOwnedRule keyTaken normalizeForMatching setField
  setTarget updateRule)

/-- A body that pydantic has accepted. -/
structure CreateRuleDTO extends CreateRule where
  patternBounds : 2 ≤ patternValue.length ∧ patternValue.length ≤ 200
  subcategoryPositive : 0 < subcategoryId
  priorityBounds : 20 ≤ priority ∧ priority ≤ 90

structure UpdateRuleDTO extends UpdateRule where
  patternBounds : ∀ text, patternValue = some (some text) → 2 ≤ text.length ∧ text.length ≤ 200
  subcategoryPositive : ∀ id, subcategoryId = some (some id) → 0 < id
  priorityBounds : ∀ value, priority = some (some value) → 20 ≤ value ∧ value ≤ 90

/-- The rule of a lesson, which is retargeted where it is stored already. -/
def learn (database : Database) (lesson : Lesson) : Database :=
  match database.rules.find? fun rule => rule.key = lesson.key with
  | some existing =>
    { database with
      rules := replace CategorizationRule.id database.rules existing.id
        (retargeted existing lesson) }
  | none =>
    { database with
      rules := database.rules ++ [lesson.rule database.nextId]
      nextId := database.nextId + 1 }

/-- `_handle` of the consumer of corrections. -/
def handle (tables : CharTables) (database : Database) (event : CategoryCorrected) : Database :=
  match lessonOf tables event with
  | some lesson => if database.knows lesson.subcategoryId then learn database lesson else database
  | none => database

inductive Label where
  | createRule (userId : ℤ) (dto : CreateRuleDTO)
  | updateRule (userId : ℤ) (ruleId : ℕ) (dto : UpdateRuleDTO)
  | deleteRule (userId : ℤ) (ruleId : ℕ)
  | correct (event : CategoryCorrected)
  | setTaxonomy (subcategories : List SubCategory) (categoryIds : List ℤ)

def afterCall (database : Database) : Except RuleServiceError Database → Database
  | .ok next => next
  | .error _ => database

def step (tables : CharTables) (database : Database) : Label → Database
  | .createRule userId dto => afterCall database (createRule database userId dto.toCreateRule)
  | .updateRule userId ruleId dto =>
    afterCall database (updateRule database userId ruleId dto.toUpdateRule)
  | .deleteRule userId ruleId => afterCall database (deleteRule database userId ruleId)
  | .correct event => handle tables database event
  | .setTaxonomy subcategories categoryIds =>
    { database with subcategories := subcategories, categoryIds := categoryIds }

/-- The flush of an instance that runs alone does what `learn` does. -/
theorem flush_learns (rules : RuleTable) (database : Database) (lesson : Lesson)
    (sameRows : database.rules = rules.rows) (sameId : database.nextId = rules.nextId) :
    (flush rules (some { lesson := lesson, existing := rules.findByUserAndPattern lesson })).map
        (fun next => (next.rows, next.nextId)) =
      some ((learn database lesson).rules, (learn database lesson).nextId) := by
  unfold flush learn RuleTable.findByUserAndPattern
  rw [sameRows]
  cases isFound : rules.rows.find? fun rule => rule.key = lesson.key with
  | none =>
    have free : ¬∃ rule ∈ rules.rows, rule.key = lesson.key := by
      simpa using List.find?_eq_none.mp isFound
    simp only [RuleTable.create, dif_neg free, Option.map_some, sameId]
  | some existing =>
    have stored : ∃ rule ∈ rules.rows, rule.id = existing.id :=
      ⟨existing, mem_of_find?_eq_some isFound, rfl⟩
    simp only [RuleTable.update, if_pos stored, Option.map_some, sameId]

def NoneMatchesAll (tables : CharTables) (database : Database) : Prop :=
  ∀ rule ∈ database.rules, rule.userId ≠ none →
    normalizeForMatching tables rule.patternValue ≠ "" ∧ ∃ description,
      occursIn (normalizeForMatching tables rule.patternValue)
        (normalizeForMatching tables description) = false

def NoneEmpty (database : Database) : Prop :=
  ∀ rule ∈ database.rules, rule.userId ≠ none → rule.patternValue ≠ ""

theorem transliterate_ne_nil (char : Char) : transliterate char ≠ [] := by
  unfold transliterate
  split_ifs <;> simp

section Lowered

variable {tables : CharTables} (lowers : ∀ text, tables.lower text = "" ↔ text = "")

include lowers

theorem normalize_empty_iff (text : String) :
    normalizeForMatching tables text = "" ↔ text = "" := by
  rw [← lowers text]
  unfold normalizeForMatching
  rw [String.ofList_eq_empty_iff, flatMap_eq_nil_iff]
  constructor
  · intro allGone
    rw [← String.toList_eq_nil_iff, eq_nil_iff_forall_not_mem]
    exact fun char member => transliterate_ne_nil char (allGone char member)
  · intro isEmpty _ member
    rw [isEmpty] at member
    cases member

theorem none_matches_all_iff (database : Database) :
    NoneMatchesAll tables database ↔ NoneEmpty database := by
  constructor
  · intro none rule member owned isEmpty
    exact (none rule member owned).1 ((normalize_empty_iff lowers _).mpr isEmpty)
  · intro nonempty rule member owned
    have stays : normalizeForMatching tables rule.patternValue ≠ "" := fun isEmpty =>
      nonempty rule member owned ((normalize_empty_iff lowers _).mp isEmpty)
    refine ⟨stays, "", ?_⟩
    rw [(normalize_empty_iff lowers "").mpr rfl, ← Bool.not_eq_true, occurs_iff]
    intro occurs
    rw [String.toList_empty, infix_nil, String.toList_eq_nil_iff] at occurs
    exact stays occurs

end Lowered

/-- An update that is refused whatever its pattern: the rule is not the user's, the new
subcategory is unknown, or a column would become null. -/
def otherwiseRefused (database : Database) (userId : ℤ) (ruleId : ℕ) (dto : UpdateRule) : Bool :=
  ((lookup CategorizationRule.id database.rules ruleId).all fun rule =>
      rule.userId ≠ some userId) ||
    (dto.subcategoryId.join.any fun subcategoryId => !database.knows subcategoryId) ||
    dto.priority = some none || dto.active = some none

/-- No call gets as far as storing a pattern of whitespace. -/
def givesText (database : Database) : Label → Bool
  | .createRule _ dto => strip dto.patternValue ≠ "" || !database.knows dto.subcategoryId
  | .updateRule userId ruleId dto =>
    (dto.patternValue.join.all fun text => strip text ≠ "") ||
      otherwiseRefused database userId ruleId dto.toUpdateRule
  | .deleteRule _ _ => true
  | .correct _ => true
  | .setTaxonomy _ _ => true

section Steps

variable {tables : CharTables} {database next : Database}

theorem none_empty_of_subset (nonempty : NoneEmpty database)
    (fewer : ∀ rule ∈ next.rules, rule ∈ database.rules) : NoneEmpty next :=
  fun rule member => nonempty rule (fewer rule member)

theorem none_empty_append (nonempty : NoneEmpty database) (rule : CategorizationRule)
    (rows : next.rules = database.rules ++ [rule]) (owned : rule.userId ≠ none) :
    NoneEmpty next ↔ rule.patternValue ≠ "" := by
  unfold NoneEmpty
  rw [rows]
  constructor
  · intro after
    exact after rule (mem_append_right _ (mem_singleton_self rule)) owned
  · intro isText other member ownedOther
    rcases mem_snoc.mp member with before | rfl
    · exact nonempty other before ownedOther
    · exact isText

variable {rule changed : CategorizationRule} {lesson : Lesson} {Value : Type}
  {field : Option (Option Value)}

theorem empty_key_free (nonempty : NoneEmpty database) (owned : rule.userId ≠ none)
    (isEmpty : rule.patternValue = "") {rules : List CategorizationRule}
    (stored : ∀ other ∈ rules, other ∈ database.rules) :
    keyTaken rules rule.key = false := by
  unfold keyTaken
  rw [any_eq_false]
  intro other member isKey
  have sameKey : other.key = rule.key := of_decide_eq_true isKey
  have sameUser : other.userId = rule.userId := congrArg LearnedRules.RuleKey.userId sameKey
  have samePattern : other.patternValue = rule.patternValue :=
    congrArg LearnedRules.RuleKey.patternValue sameKey
  apply nonempty other (stored other member)
  · rw [sameUser]
    exact owned
  · rw [samePattern]
    exact isEmpty

theorem create_none_empty (nonempty : NoneEmpty database) (userId : ℤ) (dto : CreateRule) :
    NoneEmpty (afterCall database (createRule database userId dto)) ↔
      (strip dto.patternValue ≠ "" || !database.knows dto.subcategoryId) = true := by
  let rule : CategorizationRule := {
    id := database.nextId
    userId := some userId
    priority := dto.priority
    patternType := .keyword
    patternValue := strip dto.patternValue
    matchesSubcategoryId := dto.subcategoryId
    active := dto.active }
  have owned : rule.userId ≠ none := Option.some_ne_none userId
  unfold createRule
  cases isKnown : database.knows dto.subcategoryId with
  | false => simpa [afterCall] using nonempty
  | true =>
    simp only [Bool.not_true, Bool.false_eq_true, if_false, Bool.or_false, decide_eq_true_eq]
    split
    · next taken =>
      refine ⟨fun _ isEmpty => ?_, fun _ => nonempty⟩
      have free : keyTaken database.rules rule.key = false :=
        empty_key_free nonempty owned isEmpty fun _ member => member
      exact absurd taken (Bool.eq_false_iff.mp free)
    · exact none_empty_append nonempty rule rfl owned

theorem delete_none_empty (nonempty : NoneEmpty database) (userId : ℤ) (ruleId : ℕ) :
    NoneEmpty (afterCall database (deleteRule database userId ruleId)) := by
  unfold deleteRule
  cases isOwned : getOwnedRule database userId ruleId with
  | error => exact nonempty
  | ok =>
    rw [ok_bind]
    exact none_empty_of_subset nonempty fun _ member => (mem_filter.mp member).1

theorem learn_none_empty (nonempty : NoneEmpty database) (isText : lesson.pattern ≠ "") :
    NoneEmpty (learn database lesson) := by
  unfold learn
  split
  · intro rule member owned
    rcases mem_replace.mp member with ⟨before, _⟩ | ⟨old, before, _, rfl⟩
    · exact nonempty rule before owned
    · exact nonempty old before owned
  · exact (none_empty_append nonempty (lesson.rule database.nextId) rfl (by
      simp [Lesson.rule])).mpr isText

theorem lesson_pattern {event : CategoryCorrected} (taught : lessonOf tables event = some lesson) :
    lesson.pattern ≠ "" := by
  unfold lessonOf at taught
  dsimp only at taught
  split at taught
  · split at taught
    · contradiction
    · next userId subcategoryId _ _ learnable =>
      cases taught
      exact fun isEmpty => learnable (Or.inr (Or.inl isEmpty))
  · contradiction

theorem handle_none_empty (nonempty : NoneEmpty database) (event : CategoryCorrected) :
    NoneEmpty (handle tables database event) := by
  unfold handle
  split
  · next lesson taught =>
    split
    · exact learn_none_empty nonempty (lesson_pattern taught)
    · exact nonempty
  · exact nonempty

/-- What an update that returns has read and written. -/
structure Updates (database : Database) (userId : ℤ) (ruleId : ℕ) (dto : UpdateRule)
    (changed : CategorizationRule) : Prop where
  given : dto.patternValue ≠ some none
  owned : ∃ rule, getOwnedRule database userId ruleId = .ok rule ∧
    changed.id = rule.id ∧ changed.userId = rule.userId ∧ changed.patternType = rule.patternType ∧
    setTarget database dto.subcategoryId rule.matchesSubcategoryId =
      .ok changed.matchesSubcategoryId ∧
    setField (dto.patternValue.map fun value => value.map strip) rule.patternValue =
      .ok changed.patternValue ∧
    setField dto.priority rule.priority = .ok changed.priority ∧
    setField dto.active rule.active = .ok changed.active
  free : keyTaken (database.rules.filter fun other => other.id ≠ ruleId) changed.key = false

variable {userId : ℤ} {ruleId : ℕ} {dto : UpdateRule}

theorem update_rule_iff : updateRule database userId ruleId dto = .ok next ↔
      ∃ changed, Updates database userId ruleId dto changed ∧
        next = { database with
          rules := replace CategorizationRule.id database.rules ruleId fun _ => changed } := by
  unfold updateRule
  by_cases null : dto.patternValue = some none
  · rw [if_pos null]
    constructor
    · intro returned
      cases returned
    · rintro ⟨changed, updates, _⟩
      exact absurd null updates.given
  · rw [if_neg null]
    simp only [bind_eq_ok]
    constructor
    · rintro ⟨rule, isOwned, target, isTarget, pattern, isPattern, priority, isPriority, active,
        isActive, returned⟩
      split at returned
      · cases returned
      · next free =>
        cases returned
        refine ⟨_, ?_, rfl⟩
        exact ⟨null, ⟨rule, isOwned, rfl, rfl, rfl, isTarget, isPattern, isPriority, isActive⟩,
          Bool.eq_false_iff.mpr free⟩
    · rintro ⟨changed, updates, rfl⟩
      obtain ⟨rule, isOwned, _, _, _, isTarget, isPattern, isPriority, isActive⟩ :=
        updates.owned
      refine ⟨rule, isOwned, _, isTarget, _, isPattern, _, isPriority, _, isActive, ?_⟩
      have whole : { rule with
          matchesSubcategoryId := changed.matchesSubcategoryId
          patternValue := changed.patternValue
          priority := changed.priority
          active := changed.active } = changed := by
        cases changed
        simp_all
      rw [whole, updates.free]
      rfl
theorem owned_user (isOwned : getOwnedRule database userId ruleId = .ok rule) :
    lookup CategorizationRule.id database.rules ruleId = some rule ∧ rule.userId = some userId := by
  unfold getOwnedRule at isOwned
  split at isOwned
  · next stored isStored =>
    split at isOwned
    · next isUser =>
      cases isOwned
      exact ⟨isStored, isUser⟩
    · cases isOwned
  · cases isOwned

theorem updates_none_empty (nonempty : NoneEmpty database)
    (updates : Updates database userId ruleId dto changed)
    (rows : next.rules = replace CategorizationRule.id database.rules ruleId fun _ => changed) :
    NoneEmpty next ↔ ∀ text, dto.patternValue = some (some text) → strip text ≠ "" := by
  obtain ⟨rule, isOwned, _, sameUser, _, _, isPattern, _⟩ := updates.owned
  obtain ⟨isStored, isUser⟩ := owned_user isOwned
  have stored := lookup_mem isStored
  have owned : changed.userId ≠ none := by
    rw [sameUser, isUser]
    exact Option.some_ne_none userId
  have isNew : changed ∈ next.rules := by
    rw [rows, mem_replace]
    exact Or.inr ⟨rule, stored.1, stored.2, rfl⟩
  have changedPattern : NoneEmpty next ↔ changed.patternValue ≠ "" := by
    constructor
    · exact fun after => after changed isNew owned
    · intro isText other member ownedOther
      rw [rows] at member
      rcases mem_replace.mp member with ⟨before, _⟩ | ⟨_, _, _, rfl⟩
      · exact nonempty other before ownedOther
      · exact isText
  have kept : rule.patternValue ≠ "" := nonempty rule stored.1 (by rw [isUser]; simp)
  rw [changedPattern]
  cases given : dto.patternValue with
  | none =>
    rw [given] at isPattern
    have same : rule.patternValue = changed.patternValue := Except.ok.inj isPattern
    rw [← same]
    simp [kept]
  | some value =>
    cases value with
    | none => exact absurd given updates.given
    | some text =>
      rw [given] at isPattern
      have same : strip text = changed.patternValue := Except.ok.inj isPattern
      rw [← same]
      simp

theorem set_field_returns (notNull : field ≠ some none) (stored : Value) :
    ∃ value, setField field stored = .ok value := by
  unfold setField
  split
  · exact ⟨stored, rfl⟩
  · exact ⟨_, rfl⟩
  · exact absurd rfl notNull

theorem blank_update_returns (nonempty : NoneEmpty database) {text : String}
    (given : dto.patternValue = some (some text)) (blank : strip text = "")
    (allowed : otherwiseRefused database userId ruleId dto = false) :
    ∃ changed, Updates database userId ruleId dto changed := by
  unfold otherwiseRefused at allowed
  simp only [Bool.or_eq_false_iff, decide_eq_false_iff_not] at allowed
  obtain ⟨⟨⟨isOwned, isKnown⟩, priorityGiven⟩, activeGiven⟩ := allowed
  obtain ⟨rule, isStored, isUser⟩ : ∃ rule,
      lookup CategorizationRule.id database.rules ruleId = some rule ∧
        rule.userId = some userId := by
    cases isStored : lookup CategorizationRule.id database.rules ruleId with
    | none => simp [isStored] at isOwned
    | some rule => exact ⟨rule, rfl, by simpa [isStored] using isOwned⟩
  have owned : getOwnedRule database userId ruleId = .ok rule := by
    unfold getOwnedRule
    rw [isStored]
    exact if_pos isUser
  obtain ⟨target, isTarget⟩ : ∃ target,
      setTarget database dto.subcategoryId rule.matchesSubcategoryId = .ok target := by
    unfold setTarget
    split
    · next subcategoryId isGiven =>
      have known : database.knows subcategoryId = true := by simpa [isGiven] using isKnown
      exact ⟨subcategoryId, if_pos known⟩
    · exact ⟨_, rfl⟩
  obtain ⟨priority, isPriority⟩ := set_field_returns priorityGiven rule.priority
  obtain ⟨active, isActive⟩ := set_field_returns activeGiven rule.active
  have isPattern : setField (dto.patternValue.map fun value => value.map strip)
      rule.patternValue = .ok "" := by
    rw [given, ← blank]
    rfl
  refine ⟨{ rule with
    matchesSubcategoryId := target
    patternValue := ""
    priority := priority
    active := active }, by simp [given], ⟨rule, owned, rfl, rfl, rfl, isTarget, isPattern,
      isPriority, isActive⟩, ?_⟩
  apply empty_key_free nonempty
  · simp [isUser]
  · rfl
  · exact fun other member => (mem_filter.mp member).1

theorem set_field_given {stored value : Value} (returned : setField field stored = .ok value) :
    field ≠ some none := by
  intro isNull
  rw [isNull] at returned
  cases returned

theorem updates_not_refused (updates : Updates database userId ruleId dto changed) :
    otherwiseRefused database userId ruleId dto = false := by
  obtain ⟨_, isOwned, _, _, _, isTarget, _, isPriority, isActive⟩ := updates.owned
  obtain ⟨isStored, isUser⟩ := owned_user isOwned
  have known : (dto.subcategoryId.join.any fun subcategoryId =>
      !database.knows subcategoryId) = false := by
    unfold setTarget at isTarget
    split at isTarget
    · next subcategoryId isGiven =>
      split at isTarget
      · next isKnown => simp [isGiven, isKnown]
      · cases isTarget
    · next notGiven =>
      rcases isField : dto.subcategoryId with _ | _ | subcategoryId
      · rfl
      · rfl
      · exact (notGiven subcategoryId isField).elim
  unfold otherwiseRefused
  rw [isStored, known]
  simp [isUser, set_field_given isPriority, set_field_given isActive]

theorem update_none_empty (nonempty : NoneEmpty database) (userId : ℤ) (ruleId : ℕ)
    (dto : UpdateRule) :
    NoneEmpty (afterCall database (updateRule database userId ruleId dto)) ↔
      ((dto.patternValue.join.all fun text => strip text ≠ "") ||
        otherwiseRefused database userId ruleId dto) = true := by
  have givesText : (dto.patternValue.join.all fun text => strip text ≠ "") = true ↔
      ∀ text, dto.patternValue = some (some text) → strip text ≠ "" := by
    rcases dto.patternValue with _ | _ | text <;> simp
  cases returned : updateRule database userId ruleId dto with
  | ok result =>
    obtain ⟨changed, updates, isResult⟩ := update_rule_iff.mp returned
    have rows : result.rules =
        replace CategorizationRule.id database.rules ruleId fun _ => changed := by rw [isResult]
    rw [updates_not_refused updates, Bool.or_false, givesText]
    exact updates_none_empty nonempty updates rows
  | error =>
    refine ⟨fun _ => ?_, fun _ => nonempty⟩
    rw [Bool.or_eq_true, givesText]
    by_contra neither
    obtain ⟨blankGiven, allowed⟩ := not_or.mp neither
    push Not at blankGiven
    obtain ⟨_, given, blank⟩ := blankGiven
    obtain ⟨changed, updates⟩ :=
      blank_update_returns nonempty given blank (Bool.eq_false_iff.mpr allowed)
    rw [update_rule_iff.mpr ⟨changed, updates, rfl⟩] at returned
    cases returned

end Steps

theorem step_none_empty (tables : CharTables) (database : Database) (label : Label)
    (nonempty : NoneEmpty database) :
    NoneEmpty (step tables database label) ↔ givesText database label = true := by
  cases label with
  | createRule userId dto => exact create_none_empty nonempty userId dto.toCreateRule
  | updateRule userId ruleId dto => exact update_none_empty nonempty userId ruleId dto.toUpdateRule
  | deleteRule userId ruleId =>
    exact iff_of_true (delete_none_empty nonempty userId ruleId) rfl
  | correct event => exact iff_of_true (handle_none_empty nonempty event) rfl
  | setTaxonomy => exact iff_of_true nonempty rfl

/-- From a table without rules of users, every rule of a user fails to match some
description in each state of a run exactly when no call of the run gets as far as storing
a pattern of whitespace. -/
theorem user_rules_miss_something {tables : CharTables}
    (lowers : ∀ text, tables.lower text = "" ↔ text = "") {database : Database}
    (seeds : ∀ rule ∈ database.rules, rule.userId = none) (labels : List Label) :
    (∀ before, before <+: labels → NoneMatchesAll tables (runFrom (step tables) database before)) ↔
      AllSteps (step tables) (fun database label => givesText database label = true) database
        labels := by
  have initial : NoneEmpty database := fun rule member owned =>
    absurd (seeds rule member) owned
  simp only [none_matches_all_iff lowers]
  have any : ∀ (state : Database) (label : Label), (fun _ => True) state →
      (fun _ => True) (step tables state label) := fun _ _ _ => trivial
  exact run_kept_iff (step tables) any
    (fun database label _ => step_none_empty tables database label) trivial initial labels

def lowercaseTables : CharTables where
  lower := fun text => text
  isAlpha := Char.isAlpha

def taxonomy : Database where
  subcategories := [{ id := 3, name := "Dagligvarer", categoryId := 1 }]
  categoryIds := [1]

def ruleBody (text : String) (short : 2 ≤ text.length) (long : text.length ≤ 200) :
    CreateRuleDTO where
  patternValue := text
  subcategoryId := 3
  patternBounds := ⟨short, long⟩
  subcategoryPositive := by decide
  priorityBounds := by decide

def renamedBody : UpdateRuleDTO where
  patternValue := some (some " foetex ")
  patternBounds := by
    intro _ given
    cases given
    decide
  subcategoryPositive := by simp
  priorityBounds := by simp

def nettoCorrected : CategoryCorrected where
  correlationId := "first"
  userId := some 7
  subcategoryId := some 3
  description := some "netto 1"

def textLabels : List Label :=
  [.createRule 7 (ruleBody "netto" (by decide) (by decide)), .correct nettoCorrected,
    .updateRule 7 1 renamedBody, .deleteRule 7 2]

theorem texts_miss_something : AllSteps (step lowercaseTables)
        (fun database label => givesText database label = true) taxonomy textLabels ∧
      ∀ before, before <+: textLabels →
        NoneMatchesAll lowercaseTables (runFrom (step lowercaseTables) taxonomy before) := by
  have gives : AllSteps (step lowercaseTables)
      (fun database label => givesText database label = true) taxonomy textLabels := by
    decide +kernel
  exact ⟨gives,
    (user_rules_miss_something (fun _ => Iff.rfl) (by decide) textLabels).mpr gives⟩

theorem blank_rule_matches_all :
    ¬ ∀ (tables : CharTables), (∀ text, tables.lower text = "" ↔ text = "") →
      ∀ labels : List Label, NoneMatchesAll tables (runFrom (step tables) taxonomy labels) := by
  intro always
  have misses := always lowercaseTables (fun _ => Iff.rfl)
    [.createRule 7 (ruleBody "  " (by decide) (by decide))]
  have stored : ∃ rule ∈ (runFrom (step lowercaseTables) taxonomy
      [.createRule 7 (ruleBody "  " (by decide) (by decide))]).rules,
      rule.userId ≠ none ∧ rule.patternValue = "" := by
    decide +kernel
  obtain ⟨rule, member, owned, isEmpty⟩ := stored
  apply (misses rule member owned).1
  rw [isEmpty]
  rfl

end FinanceTracker.Categorization.UserRules
