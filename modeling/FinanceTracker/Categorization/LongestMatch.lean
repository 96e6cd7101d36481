import FinanceTracker.Categorization.Matching
import FinanceTracker.Library.RankedSearch

/-!
# The longest match of the seed rules

Whether the rule that `ConstrainedRuleEngine.match` answers from has the longest matching
pattern. The rules are sorted once by the longest alias that each owns, whether or not
that alias will be the one that matches.
-/

namespace FinanceTracker.Categorization.LongestMatch

open Library.RankedSearch List
open LearnedRules (CharTables)
open Matching
open RuleEngineProvider (normalizeForMatching)

variable {tables : CharTables} {rules : List PersistedSeedRule} {evidence : Evidence}

/-- The aliases, or the pattern, with which an applicable rule matches. -/
def matchingCandidates (tables : CharTables) (evidence : Evidence) (rule : PersistedSeedRule) :
    List String :=
  match fieldOf evidence rule.matchField with
  | none => []
  | some raw =>
    if constraintsMet rule evidence then
      (candidates rule).filter fun value =>
        operatorMatches (normalizeForMatching tables raw) (normalizeForMatching tables value)
          rule.operator
    else []

def candidateLength (tables : CharTables) (candidate : String) : ℕ :=
  (normalizeForMatching tables candidate).length

def longestMatch (tables : CharTables) (evidence : Evidence) (rule : PersistedSeedRule) : ℕ :=
  ((matchingCandidates tables evidence rule).map (candidateLength tables)).max?.getD 0

/-- No applicable rule matches with a longer candidate than the rule that answers. -/
def LongestWins (tables : CharTables) (rules : List PersistedSeedRule) (evidence : Evidence) :
    Prop :=
  ∀ winner, constrainedRule tables rules evidence = some winner →
    ∀ rule ∈ rules, ∀ candidate ∈ matchingCandidates tables evidence rule,
      candidateLength tables candidate ≤ longestMatch tables evidence winner

/-- No rule applies and matches where there is no answer. -/
def NoneOnlyUnmatched (tables : CharTables) (rules : List PersistedSeedRule)
    (evidence : Evidence) : Prop :=
  constrainedMatch tables rules evidence = none →
    ∀ rule ∈ rules, matchingCandidates tables evidence rule = []

def ownsLonger (first second : PersistedSeedRule) : Bool :=
  decide (sortLength second ≤ sortLength first)

def OwnerMatchesLongest (tables : CharTables) (rules : List PersistedSeedRule)
    (evidence : Evidence) : Prop :=
  ∀ owner, FirstBest ownsLonger (ruleMatches tables evidence) rules owner →
    ∀ rule ∈ rules, ruleMatches tables evidence rule = true →
      longestMatch tables evidence rule ≤ longestMatch tables evidence owner

variable {rule : PersistedSeedRule}

theorem rule_matches_iff :
    ruleMatches tables evidence rule = true ↔ matchingCandidates tables evidence rule ≠ [] := by
  unfold ruleMatches matchingCandidates
  cases fieldOf evidence rule.matchField with
  | none => simp
  | some =>
    cases constraintsMet rule evidence with
    | false => simp
    | true =>
      simp only [Bool.true_and, if_true, any_eq_true]
      constructor
      · intro ⟨value, member, isMatch⟩
        exact ne_nil_of_mem (mem_filter.mpr ⟨member, isMatch⟩)
      · intro nonempty
        obtain ⟨value, member⟩ := exists_mem_of_ne_nil _ nonempty
        exact ⟨value, mem_filter.mp member⟩

theorem candidate_length_le {candidate : String}
    (member : candidate ∈ matchingCandidates tables evidence rule) :
    candidateLength tables candidate ≤ longestMatch tables evidence rule := by
  unfold longestMatch
  have isLength : candidateLength tables candidate ∈
      (matchingCandidates tables evidence rule).map (candidateLength tables) :=
    mem_map_of_mem member
  cases isMax : ((matchingCandidates tables evidence rule).map (candidateLength tables)).max? with
  | none =>
    rw [List.max?_eq_none_iff] at isMax
    rw [isMax] at isLength
    cases isLength
  | some => exact (List.max?_eq_some_iff.mp isMax).2 _ isLength

theorem longest_match_le_iff {bound : ℕ} : longestMatch tables evidence rule ≤ bound ↔
      ∀ candidate ∈ matchingCandidates tables evidence rule,
        candidateLength tables candidate ≤ bound := by
  constructor
  · exact fun atMost candidate member => le_trans (candidate_length_le member) atMost
  · intro all
    unfold longestMatch
    cases isMax : ((matchingCandidates tables evidence rule).map (candidateLength tables)).max? with
    | none => exact Nat.zero_le bound
    | some =>
      obtain ⟨candidate, member, isLongest⟩ :=
        mem_map.mp (List.max?_eq_some_iff.mp isMax).1
      rw [Option.getD_some, ← isLongest]
      exact all candidate member

theorem constrained_rule_iff : constrainedRule tables rules evidence = some rule ↔
      FirstBest ownsLonger (ruleMatches tables evidence) rules rule := by
  apply find_sorted_iff
  · intro _ _ _ before after
    rw [decide_eq_true_eq] at before after ⊢
    omega
  · intro _ _
    rw [Bool.or_eq_true, decide_eq_true_eq, decide_eq_true_eq]
    omega

theorem unmatched_without_answer : NoneOnlyUnmatched tables rules evidence := by
  intro noAnswer rule member
  unfold constrainedMatch constrainedRule constrainedRules at noAnswer
  rw [Option.map_eq_none_iff, List.find?_eq_none] at noAnswer
  have unmatched := noAnswer rule (mem_mergeSort.mpr member)
  by_contra nonempty
  exact unmatched (rule_matches_iff.mpr nonempty)

/-- The longest match wins exactly when, of the matching rules, the first that owns the
longest alias is the one that matches with the longest; without an answer no rule applies
and matches. -/
theorem longest_match_wins_iff (tables : CharTables) (rules : List PersistedSeedRule)
    (evidence : Evidence) :
    (LongestWins tables rules evidence ∧ NoneOnlyUnmatched tables rules evidence) ↔
      OwnerMatchesLongest tables rules evidence := by
  constructor
  · intro ⟨wins, _⟩ owner isOwner rule member _
    rw [longest_match_le_iff]
    exact wins owner (constrained_rule_iff.mpr isOwner) rule member
  · intro owns
    refine ⟨?_, unmatched_without_answer⟩
    intro winner isWinner rule member _ isCandidate
    have isOwner := constrained_rule_iff.mp isWinner
    have matching := rule_matches_iff.mpr (ne_nil_of_mem isCandidate)
    exact le_trans (candidate_length_le isCandidate) (owns winner isOwner rule member matching)

def asLowered : CharTables where
  lower := fun text => text
  isAlpha := Char.isAlpha

def nettoChain : PersistedSeedRule where
  targetSubcategoryId := 3
  targetCategoryId := 1
  matchField := "description"
  operator := "contains"
  direction := "outgoing"
  confidence := .high
  pattern := "netto_chain"
  aliases := ["netto", "netto supermarked koebenhavn"]

def nettoNord : PersistedSeedRule where
  targetSubcategoryId := 4
  targetCategoryId := 1
  matchField := "description"
  operator := "contains"
  direction := "outgoing"
  confidence := .high
  pattern := "netto nord"

def nordPurchase : Evidence where
  description := "netto nord"
  amount := 120
  direction := .outgoing

/-- The chain answers with its short alias since it owns a long one. -/
theorem long_alias_wins :
    ¬ ∀ (tables : CharTables) (rules : List PersistedSeedRule) (evidence : Evidence),
      LongestWins tables rules evidence ∧ NoneOnlyUnmatched tables rules evidence := by
  intro always
  have wins := (always asLowered [nettoNord, nettoChain] nordPurchase).1
  have chainMatches : ruleMatches asLowered nordPurchase nettoChain = true := by
    decide +kernel
  have isChain : constrainedRule asLowered [nettoNord, nettoChain] nordPurchase = some nettoChain :=
    constrained_rule_iff.mpr (.later (.here chainMatches fun _ none => by cases none) fun _ => by
      decide)
  have atMost := wins nettoChain isChain nettoNord mem_cons_self "netto nord" (by decide +kernel)
  exact absurd atMost (by decide +kernel)

end FinanceTracker.Categorization.LongestMatch
