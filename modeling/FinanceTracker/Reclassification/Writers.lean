import FinanceTracker.Library.Runs
import FinanceTracker.Reclassification.Contracts

/-!
# The writers of the services

What the three `apply_reclassification` share: a loop over the rows of a manifest that
counts one outcome for each row, and returns the counts sorted by their names. The
first exception ends it.
-/

namespace FinanceTracker.Reclassification.Writers

open Library Counters KeyedRows Runs SortedBy List Contracts

inductive Outcome where
  | alreadyApplied
  | applied
  | skippedChanged
  | skippedCollision
  | skippedMissing
  | skippedProtected
  | validated
  deriving DecidableEq

def Outcome.text : Outcome → String
  | .alreadyApplied => "already_applied"
  | .applied => "applied"
  | .skippedChanged => "skipped_changed"
  | .skippedCollision => "skipped_collision"
  | .skippedMissing => "skipped_missing"
  | .skippedProtected => "skipped_protected"
  | .validated => "validated"

theorem outcome_text_injective {first second : Outcome} (same : first.text = second.text) :
    first = second := by
  cases first <;> cases second <;> first | rfl | exact absurd same (by decide)

/-- `"validated" if not execute else "applied"`. -/
def written (execute : Bool) : Outcome := if execute then .applied else .validated

/-- `dict(sorted(counts.items()))`. -/
def countsOf (outcomes : List Outcome) : Counter String ℕ :=
  sortedBy Prod.fst ((tally outcomes).map fun entry => (entry.1.text, entry.2))

theorem counts_total (outcomes : List Outcome) :
    ((countsOf outcomes).map Prod.snd).sum = outcomes.length := by
  have started : DistinctKeys Prod.fst ([] : Counter Outcome ℕ) := nodup_nil
  have total := total_of_items (fun outcome => outcome) outcomes started
  rw [map_nil, sum_nil, Nat.zero_add] at total
  unfold countsOf
  rw [((sorted_perm _ _).map Prod.snd).sum_eq, map_map]
  exact total

theorem mem_counts_iff {outcomes : List Outcome} {outcome : Outcome} :
    outcome.text ∈ (countsOf outcomes).map Prod.fst ↔ outcome ∈ outcomes := by
  unfold countsOf
  rw [((sorted_perm _ _).map Prod.fst).mem_iff, map_map]
  constructor
  · intro present
    obtain ⟨_, inTally, same⟩ := mem_map.mp present
    rw [← outcome_text_injective same]
    exact mem_tally_keys.mp (mem_map_of_mem inTally)
  · intro present
    obtain ⟨entry, inTally, rfl⟩ := mem_map.mp (mem_tally_keys.mpr present)
    exact mem_map.mpr ⟨entry, inTally, rfl⟩

def dryName : Outcome → Outcome
  | .applied => .validated
  | outcome => outcome

/-- The counts of a run that executes, with its applied rows as validated ones. -/
def dryCounts (counts : Counter String ℕ) : Counter String ℕ :=
  sortedBy Prod.fst (counts.map fun entry =>
    (if entry.1 = Outcome.applied.text then Outcome.validated.text else entry.1, entry.2))

theorem dry_name_text (outcome : Outcome) : (dryName outcome).text =
    if outcome.text = Outcome.applied.text then Outcome.validated.text else outcome.text := by
  cases outcome <;> decide

theorem dry_counts {outcomes : List Outcome} (executed : Outcome.validated ∉ outcomes) :
    countsOf (outcomes.map dryName) = dryCounts (countsOf outcomes) := by
  have apart : ∀ first ∈ outcomes, ∀ second ∈ outcomes, dryName first = dryName second → first = second := by
    intro first firstIn second secondIn _
    have firstOther : first ≠ .validated := fun isIt => executed (isIt ▸ firstIn)
    have secondOther : second ≠ .validated := fun isIt => executed (isIt ▸ secondIn)
    cases first <;> cases second <;> simp_all [dryName]
  have named : DistinctKeys Prod.fst ((tally (outcomes.map dryName)).map fun entry =>
      (entry.1.text, entry.2)) := by
    unfold DistinctKeys
    rw [map_map]
    have texts := (tally_distinct (outcomes.map dryName)).map fun _ _ => outcome_text_injective
    rwa [map_map] at texts
  unfold countsOf dryCounts
  refine sorted_eq_of_perm named ?_
  rw [tally_map dryName outcomes apart, map_map]
  refine .trans (.of_eq ?_) ((sorted_perm _ _).symm.map _)
  rw [map_map]
  apply map_congr_left
  intro _ _
  simp only [Function.comp_apply, dry_name_text]

inductive WriterError where
  | unsupportedSourceKind (sourceKind : String)
  | multipleResultsFound
  | portFailed
  | categoryConflict (semanticKey : String)
  | subcategoryConflict (semanticKey : String)
  | targetNotFound (targetKey : String)
  | parentNotFound (targetKey : String)
  | notAnInteger (text : String)
  | integrity
  deriving DecidableEq

/-- The tiers that a user or a reviewer gave; only ASCII letters lower to theirs. -/
def isProtectedTier (tier : String) : Bool := tier.toLower ∈ ["manual", "user", "gold"]

def scalarOneOrNone {Row : Type} : List Row → Except WriterError (Option Row)
  | [] => .ok none
  | [row] => .ok (some row)
  | _ => .error .multipleResultsFound

def sourceIdOf (row : ExecutionRow) : Except WriterError ℤ :=
  match FinanceTracker.Library.Texts.intOfText row.sourceId with
  | none => .error (.notAnInteger row.sourceId)
  | some id => .ok id

section Loop

variable {State : Type} (step : State → ExecutionRow → Except WriterError (State × Outcome))

def applyRows : State → List ExecutionRow → Except WriterError (State × List Outcome)
  | state, [] => .ok (state, [])
  | state, row :: rows => do
    let (next, outcome) ← step state row
    let (last, outcomes) ← applyRows next rows
    .ok (last, outcome :: outcomes)

def applyManifest (state : State) (manifest : ExecutionManifest) :
    Except WriterError (State × Counter String ℕ) := do
  let (last, outcomes) ← applyRows step state manifest.rows
  .ok (last, countsOf outcomes)

end Loop

/-- What a dry run reports when it validates that many rows. -/
def validatedCounts (rows : ℕ) : Counter String ℕ :=
  if rows = 0 then [] else [(Outcome.validated.text, rows)]

theorem validated_counts_iff {outcomes : List Outcome} :
    countsOf outcomes = validatedCounts outcomes.length ↔ ∀ outcome ∈ outcomes, outcome = .validated := by
  constructor
  · intro counts outcome member
    have present : outcome.text ∈ (countsOf outcomes).map Prod.fst := mem_counts_iff.mpr member
    rw [counts, validatedCounts] at present
    split at present
    · cases present
    · exact outcome_text_injective (mem_singleton.mp present)
  · intro validated
    unfold countsOf validatedCounts
    rw [tally_same validated]
    by_cases empty : outcomes = []
    · rw [if_pos empty, empty]
      rfl
    · rw [if_neg empty, if_neg (fun zero => empty (length_eq_zero_iff.mp zero))]
      rfl

section Validation

variable {State : Type} {step : State → ExecutionRow → Except WriterError (State × Outcome)}
  {Holds : State → Prop} {Ready : ExecutionRow → Prop}

/-- In every state that the dry run can be in, a row is validated when it is ready only. -/
structure Validates (step : State → ExecutionRow → Except WriterError (State × Outcome))
    (Holds : State → Prop) (Ready : ExecutionRow → Prop) (row : ExecutionRow) : Prop where
  keeps : ∀ {state next : State} {outcome : Outcome}, Holds state →
    step state row = .ok (next, outcome) → Holds next
  ready : ∀ {state next : State}, Holds state → step state row = .ok (next, .validated) → Ready row
  validates : ∀ {state : State}, Holds state → Ready row → ∃ next, step state row = .ok (next, .validated)

variable {state : State} {rows : List ExecutionRow}

theorem apply_rows_cons {last : State} {row : ExecutionRow} {outcomes : List Outcome} :
    applyRows step state (row :: rows) = .ok (last, outcomes) ↔
      ∃ next outcome rest, step state row = .ok (next, outcome) ∧
        applyRows step next rows = .ok (last, rest) ∧ outcomes = outcome :: rest := by
  rw [applyRows]
  constructor
  · intro returned
    obtain ⟨⟨next, outcome⟩, first, returned⟩ := bind_eq_ok.mp returned
    obtain ⟨⟨_, rest⟩, others, returned⟩ := bind_eq_ok.mp returned
    cases returned
    exact ⟨next, outcome, rest, first, others, rfl⟩
  · rintro ⟨next, outcome, rest, first, others, rfl⟩
    exact bind_eq_ok.mpr ⟨(next, outcome), first, bind_eq_ok.mpr ⟨(last, rest), others, rfl⟩⟩

theorem apply_rows_length {last : State} {outcomes : List Outcome}
    (returned : applyRows step state rows = .ok (last, outcomes)) :
    outcomes.length = rows.length := by
  induction rows generalizing state outcomes with
  | nil =>
    cases returned
    rfl
  | cons row rows ih =>
    obtain ⟨_, _, _, _, others, rfl⟩ := apply_rows_cons.mp returned
    simp [ih others]

theorem apply_rows_validated_iff (checks : ∀ row ∈ rows, Validates step Holds Ready row)
    (holds : Holds state) :
    (∃ last outcomes, applyRows step state rows = .ok (last, outcomes) ∧
      ∀ outcome ∈ outcomes, outcome = .validated) ↔ ∀ row ∈ rows, Ready row := by
  induction rows generalizing state with
  | nil =>
    constructor
    · intro _ _ member
      cases member
    · intro _
      exact ⟨state, [], rfl, fun outcome member => by cases member⟩
  | cons row rows ih =>
    have here := checks row mem_cons_self
    have later := fun {state : State} (holds : Holds state) =>
      ih (fun other member => checks other (mem_cons_of_mem _ member)) holds
    rw [forall_mem_cons]
    constructor
    · rintro ⟨last, outcomes, returned, validated⟩
      obtain ⟨_, _, rest, first, others, rfl⟩ := apply_rows_cons.mp returned
      obtain ⟨rfl, restValidated⟩ := forall_mem_cons.mp validated
      exact ⟨here.ready holds first,
        (later (here.keeps holds first)).mp ⟨last, rest, others, restValidated⟩⟩
    · rintro ⟨ready, restReady⟩
      obtain ⟨next, first⟩ := here.validates holds ready
      obtain ⟨last, outcomes, others, validated⟩ := (later (here.keeps holds first)).mpr restReady
      exact ⟨last, .validated :: outcomes,
        apply_rows_cons.mpr ⟨next, .validated, outcomes, first, others, rfl⟩,
        forall_mem_cons.mpr ⟨rfl, validated⟩⟩

/-- A dry run reports every row as validated when every row is ready, and else it does not. -/
theorem manifest_validated_iff {manifest : ExecutionManifest}
    (checks : ∀ row ∈ manifest.rows, Validates step Holds Ready row) (holds : Holds state) :
    (∃ last, applyManifest step state manifest = .ok (last, validatedCounts manifest.rows.length)) ↔
      ∀ row ∈ manifest.rows, Ready row := by
  rw [← apply_rows_validated_iff checks holds]
  unfold applyManifest
  constructor
  · rintro ⟨last, returned⟩
    obtain ⟨⟨after, outcomes⟩, rows, returned⟩ := bind_eq_ok.mp returned
    have counts : countsOf outcomes = validatedCounts manifest.rows.length :=
      congrArg Prod.snd (Except.ok.inj returned)
    rw [← apply_rows_length rows] at counts
    exact ⟨after, outcomes, rows, validated_counts_iff.mp counts⟩
  · rintro ⟨last, outcomes, rows, validated⟩
    refine ⟨last, bind_eq_ok.mpr ⟨(last, outcomes), rows, ?_⟩⟩
    simp only [validated_counts_iff.mpr validated, apply_rows_length rows]

end Validation

end FinanceTracker.Reclassification.Writers
