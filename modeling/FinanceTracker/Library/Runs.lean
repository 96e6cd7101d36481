import Mathlib.Data.List.Basic
import Mathlib.Data.List.Induction

/-!
# Runs of a deterministic labelled system

A system is a step function on states; a label carries whatever the environment
chooses (an argument, a clock reading, a delivery, a crash point). A run is the
fold of the step function over a finite list of labels. The induction over runs
is packaged here once: with an unconditional step lemma, and with a step lemma
for runs all of whose steps meet a condition on the state before the step.
-/

namespace FinanceTracker.Library.Runs

open List

section Lists

variable {Elem : Type*} {earlier : List Elem} {last : Elem}

theorem mem_snoc {elem : Elem} : elem ∈ earlier ++ [last] ↔ elem ∈ earlier ∨ elem = last := by
  simp

theorem forall_snoc {holds : Elem → Prop} (before : ∀ elem ∈ earlier, holds elem)
    (here : holds last) : ∀ elem ∈ earlier ++ [last], holds elem := by
  intro _ member
  rcases mem_snoc.mp member with old | rfl
  · exact before _ old
  · exact here

end Lists

section Runs

variable {State Label : Type*} (step : State → Label → State)

def runFrom (state : State) (labels : List Label) : State :=
  labels.foldl step state

@[simp] theorem run_from_nil (state : State) : runFrom step state [] = state := rfl

@[simp] theorem run_from_cons (state : State) (label : Label) (labels : List Label) :
    runFrom step state (label :: labels) = runFrom step (step state label) labels := rfl

theorem run_from_append (state : State) (labels later : List Label) :
    runFrom step state (labels ++ later) = runFrom step (runFrom step state labels) later := by
  exact foldl_append

theorem run_from_snoc (state : State) (labels : List Label) (label : Label) :
    runFrom step state (labels ++ [label]) = step (runFrom step state labels) label := by
  rw [run_from_append]
  rfl

/-- A property kept by every step is kept by every run. -/
theorem run_keeps {Inv : State → Prop} (keeps : ∀ state label, Inv state → Inv (step state label))
    {state : State} (initial : Inv state) (labels : List Label) :
    Inv (runFrom step state labels) := by
  induction labels generalizing state with
  | nil => exact initial
  | cons label labels ih => exact ih (keeps state label initial)

/-- A property of the labels so far and the state, kept by every step. -/
theorem run_history_keeps {Inv : List Label → State → Prop} {state : State}
    (initial : Inv [] state) (labels : List Label)
    (keeps : ∀ before current label, label ∈ labels → Inv before current →
      Inv (before ++ [label]) (step current label)) :
    Inv labels (runFrom step state labels) := by
  induction labels using List.reverseRecOn with
  | nil => exact initial
  | append_singleton before label ih =>
    rw [run_from_snoc]
    apply keeps
    · simp
    · apply ih
      intro earlier current other member
      exact keeps earlier current other (mem_append_left _ member)

/-- Every step of the run from `state` meets `allowed` in the state it starts from. -/
def AllSteps (allowed : State → Label → Prop) : State → List Label → Prop
  | _, [] => True
  | state, label :: labels => allowed state label ∧ AllSteps allowed (step state label) labels

instance decidableAllSteps (allowed : State → Label → Prop)
    [decide : ∀ state label, Decidable (allowed state label)] :
    ∀ (state : State) (labels : List Label), Decidable (AllSteps step allowed state labels)
  | _, [] => isTrue trivial
  | state, label :: labels =>
    match decide state label, decidableAllSteps allowed (step state label) labels with
    | isTrue head, isTrue tail => isTrue ⟨head, tail⟩
    | isFalse head, _ => isFalse fun both => head both.1
    | _, isFalse tail => isFalse fun both => tail both.2

variable {allowed : State → Label → Prop} {state : State} {labels : List Label}

theorem all_steps_append {later : List Label} : AllSteps step allowed state (labels ++ later) ↔
      AllSteps step allowed state labels ∧
        AllSteps step allowed (runFrom step state labels) later := by
  induction labels generalizing state with
  | nil => simp [AllSteps]
  | cons label labels ih => simp [AllSteps, ih, and_assoc]

theorem all_steps_of_forall (always : ∀ state label, allowed state label) (state : State)
    (labels : List Label) :
    AllSteps step allowed state labels := by
  induction labels generalizing state with
  | nil => trivial
  | cons label labels ih => exact ⟨always state label, ih (step state label)⟩

theorem all_steps_congr {other : State → Label → Prop}
    (same : ∀ state label, allowed state label ↔ other state label) (state : State)
    (labels : List Label) :
    AllSteps step allowed state labels ↔ AllSteps step other state labels := by
  induction labels generalizing state with
  | nil => rfl
  | cons label labels ih =>
    unfold AllSteps
    rw [same, ih]

/-- The labels of a run may be known to meet a condition of their own. -/
theorem all_steps_and {meets : Label → Prop} (steps : AllSteps step allowed state labels)
    (always : ∀ label ∈ labels, meets label) :
    AllSteps step (fun state label => allowed state label ∧ meets label) state labels := by
  induction labels generalizing state with
  | nil => trivial
  | cons label labels ih =>
    refine ⟨⟨steps.1, always label mem_cons_self⟩, ih steps.2 ?_⟩
    exact fun other member => always other (mem_cons_of_mem label member)

/-- Steps that meet a condition in states with an invariant meet what follows from it. -/
theorem all_steps_imp {other : State → Label → Prop} {Inv : State → Prop}
    (keeps : ∀ state label, Inv state → Inv (step state label))
    (gives : ∀ state label, Inv state → allowed state label → other state label)
    (initial : Inv state) (steps : AllSteps step allowed state labels) :
    AllSteps step other state labels := by
  induction labels generalizing state with
  | nil => trivial
  | cons label labels ih =>
    exact ⟨gives state label initial steps.1, ih (keeps state label initial) steps.2⟩

theorem allowed_run_keeps {Inv : State → Prop}
    (keeps : ∀ state label, allowed state label → Inv state → Inv (step state label))
    (initial : Inv state) (labels : List Label) (steps : AllSteps step allowed state labels) :
    Inv (runFrom step state labels) := by
  induction labels generalizing state with
  | nil => exact initial
  | cons label labels ih =>
    exact ih (keeps state label steps.1 initial) steps.2

theorem run_kept_iff {allowed : State → Label → Prop} {Inv Kept : State → Prop}
    (invariant : ∀ state label, Inv state → Inv (step state label))
    (keeps : ∀ state label, Inv state → Kept state →
      (Kept (step state label) ↔ allowed state label))
    {state : State} (initial : Inv state) (kept : Kept state) (labels : List Label) :
    (∀ before, before <+: labels → Kept (runFrom step state before)) ↔
      AllSteps step allowed state labels := by
  induction labels generalizing state with
  | nil => simp [AllSteps, kept]
  | cons label labels ih =>
    have here := keeps state label initial kept
    have later := @ih _ (invariant state label initial)
    constructor
    · intro always
      have keptAfter : Kept (step state label) := always [label] ⟨labels, rfl⟩
      refine ⟨here.mp keptAfter, (later keptAfter).mp ?_⟩
      intro before isPrefix
      exact always (label :: before) (cons_prefix_cons.mpr ⟨rfl, isPrefix⟩)
    · intro steps before isPrefix
      have keptAfter := here.mpr steps.1
      cases before with
      | nil => exact kept
      | cons first before =>
        obtain ⟨rfl, rest⟩ := cons_prefix_cons.mp isPrefix
        exact (later keptAfter).mpr steps.2 before rest

end Runs

section Outcomes

variable {Error Value Other : Type}

/-- A computation that returns is a first part that returns and a rest that returns. -/
theorem bind_eq_ok {first : Except Error Value} {rest : Value → Except Error Other}
    {result : Other} :
    (first >>= rest) = .ok result ↔ ∃ value, first = .ok value ∧ rest value = .ok result := by
  cases first with
  | error | ok => simp [bind, Except.bind]

theorem rest_ok {first : Except Error Value} {rest : Value → Except Error Other} {result : Other}
    (returned : (first >>= rest) = .ok result) : ∃ value, rest value = .ok result := by
  obtain ⟨value, _, returned⟩ := bind_eq_ok.mp returned
  exact ⟨value, returned⟩

theorem ok_bind (value : Value) (rest : Value → Except Error Other) :
    (Except.ok value >>= rest) = rest value := rfl

theorem error_bind (error : Error) (rest : Value → Except Error Other) :
    (Except.error error >>= rest) = .error error := rfl

/-- A property of what was read so far and the state, kept by every step that returns. -/
theorem fold_ok_keeps {State Label : Type} {step : State → Label → Except Error State}
    {Inv : List Label → State → Prop} {labels : List Label}
    (keeps : ∀ before state label next, label ∈ labels → Inv before state →
      step state label = .ok next → Inv (before ++ [label]) next)
    {state result : State} (initial : Inv [] state)
    (returned : labels.foldlM step state = .ok result) : Inv labels result := by
  have run : ∀ (rest before : List Label) (state : State), before ++ rest = labels →
      Inv before state → rest.foldlM step state = .ok result → Inv labels result := by
    intro rest
    induction rest with
    | nil =>
      intro _ _ whole inv returned
      cases returned
      rw [append_nil] at whole
      rw [← whole]
      exact inv
    | cons label rest ih =>
      intro before state whole inv returned
      rw [foldlM_cons] at returned
      obtain ⟨next, stepped, returned⟩ := bind_eq_ok.mp returned
      have member : label ∈ labels := by
        rw [← whole]
        exact mem_append_right _ mem_cons_self
      refine ih (before ++ [label]) next ?_ (keeps before state label next member inv stepped)
        returned
      rw [append_assoc, singleton_append]
      exact whole
  exact run labels [] state rfl initial returned

/-- A property of what was read so far and the state, from which every step returns and
which it keeps. -/
theorem fold_returns {State Label : Type} {step : State → Label → Except Error State}
    {Inv : List Label → State → Prop} {labels : List Label}
    (steps : ∀ before label after state, labels = before ++ label :: after → Inv before state →
      ∃ next, step state label = .ok next ∧ Inv (before ++ [label]) next)
    {state : State} (initial : Inv [] state) :
    ∃ result, labels.foldlM step state = .ok result ∧ Inv labels result := by
  have run : ∀ (rest before : List Label) (state : State), labels = before ++ rest →
      Inv before state → ∃ result, rest.foldlM step state = .ok result ∧ Inv labels result := by
    intro rest
    induction rest with
    | nil =>
      intro _ state whole inv
      rw [append_nil] at whole
      exact ⟨state, rfl, whole ▸ inv⟩
    | cons label rest ih =>
      intro before state whole inv
      obtain ⟨next, stepped, kept⟩ := steps before label rest state whole inv
      obtain ⟨result, returned, final⟩ := ih (before ++ [label]) next (by simpa using whole) kept
      refine ⟨result, ?_, final⟩
      rw [foldlM_cons, stepped, ok_bind]
      exact returned
  exact run labels [] state rfl initial

/-- A property of the state, kept by every step that gives a state. -/
theorem fold_some_keeps {State Label : Type} {step : State → Label → Option State}
    {Inv : State → Prop}
    (keeps : ∀ state label next, Inv state → step state label = some next → Inv next)
    {labels : List Label} {state result : State} (initial : Inv state)
    (returned : labels.foldlM step state = some result) : Inv result := by
  induction labels generalizing state with
  | nil =>
    cases returned
    exact initial
  | cons label labels ih =>
    rw [foldlM_cons] at returned
    obtain ⟨next, stepped, returned⟩ := Option.bind_eq_some_iff.mp returned
    exact ih (keeps state label next initial stepped) returned

/-- The state after a call: the new one when it returns, the old one when it raises. -/
def stateAfter {State : Type} (state : State) : Except Error (State × Value) → State
  | .ok (next, _) => next
  | .error _ => state

theorem state_after_cases {State : Type} (state : State) (call : Except Error (State × Value)) :
    stateAfter state call = state ∨ ∃ value, call = .ok (stateAfter state call, value) := by
  cases call with
  | error => exact Or.inl rfl
  | ok result => exact Or.inr ⟨result.2, rfl⟩

end Outcomes

end FinanceTracker.Library.Runs
