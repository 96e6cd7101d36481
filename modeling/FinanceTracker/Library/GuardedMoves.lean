import Mathlib.Data.List.Basic

/-!
# Guarded moves

A pass over a list of moves with one item. A move says where it takes an item that is at
a place, if it takes it at all. One pass makes one move at most and a second pass none
exactly where no move of the list takes the item on from where its first move puts it.
-/

namespace FinanceTracker.Library.GuardedMoves

open List

variable {Place Move : Type*} (takes : Move → Place → Option Place)

/-- The moves that a pass makes with an item at the place. -/
def made : Place → List Move → List Move
  | _, [] => []
  | place, move :: moves =>
    match takes move place with
    | none => made place moves
    | some there => move :: made there moves

def First (place : Place) (moves : List Move) (move : Move) (there : Place) : Prop :=
  ∃ front back, moves = front ++ move :: back ∧ (∀ other ∈ front, takes other place = none) ∧
    takes move place = some there

/-- No move takes the item on from where the first one that takes it puts it. -/
def Settles (place : Place) (moves : List Move) : Prop :=
  ∀ move there, First takes place moves move there → ∀ other ∈ moves, takes other there = none

variable {takes} {place there : Place} {moves front back : List Move} {move : Move}

theorem made_stays (stays : takes move place = none) :
    made takes place (move :: moves) = made takes place moves := by
  rw [made, stays]

theorem made_takes (taken : takes move place = some there) :
    made takes place (move :: moves) = move :: made takes there moves := by
  rw [made, taken]

theorem made_nil_iff : made takes place moves = [] ↔ ∀ move ∈ moves, takes move place = none := by
  induction moves with
  | nil => simp [made]
  | cons move moves ih =>
    rw [forall_mem_cons]
    cases taken : takes move place with
    | none => rw [made_stays taken, ih, and_iff_right rfl]
    | some => simp [made_takes taken]

theorem made_first (stays : ∀ other ∈ front, takes other place = none)
    (taken : takes move place = some there) :
    made takes place (front ++ move :: back) = move :: made takes there back := by
  induction front with
  | nil => exact made_takes taken
  | cons other front ih =>
    obtain ⟨here, later⟩ := forall_mem_cons.mp stays
    rw [cons_append, made_stays here, ih later]

theorem first_of_made {rest : List Move} (isMade : made takes place moves = move :: rest) :
    ∃ front back there, moves = front ++ move :: back ∧ (∀ other ∈ front, takes other place = none) ∧
      takes move place = some there ∧ rest = made takes there back := by
  induction moves with
  | nil => cases isMade
  | cons other moves ih =>
    cases taken : takes other place with
    | some there =>
      rw [made_takes taken] at isMade
      obtain ⟨rfl, rfl⟩ := List.cons.inj isMade
      exact ⟨[], moves, there, rfl, fun other member => (not_mem_nil member).elim, taken, rfl⟩
    | none =>
      rw [made_stays taken] at isMade
      obtain ⟨front, back, there, rfl, early, takesIt, isRest⟩ := ih isMade
      exact ⟨other :: front, back, there, rfl, forall_mem_cons.mpr ⟨taken, early⟩, takesIt, isRest⟩

theorem made_sublist (place : Place) (moves : List Move) : (made takes place moves).Sublist moves := by
  induction moves generalizing place with
  | nil => exact List.Sublist.refl []
  | cons move moves ih =>
    cases taken : takes move place with
    | none =>
      rw [made_stays taken]
      exact (ih place).cons move
    | some there =>
      rw [made_takes taken]
      exact (ih there).cons_cons move

/-- One pass makes one move at most, and a second pass none. -/
theorem settles_iff : Settles takes place moves ↔ made takes place moves = [] ∨
    ∃ move there, made takes place moves = [move] ∧ takes move place = some there ∧
      made takes there moves = [] := by
  constructor
  · intro settles
    cases isMade : made takes place moves with
    | nil => exact .inl rfl
    | cons move =>
      obtain ⟨front, back, there, isMoves, early, taken, rfl⟩ := first_of_made isMade
      have still := settles move there ⟨front, back, isMoves, early, taken⟩
      have nothingMore : made takes there back = [] := by
        refine made_nil_iff.mpr fun other member => still other ?_
        rw [isMoves]
        exact mem_append_right _ (mem_cons_of_mem _ member)
      exact .inr ⟨move, there, by rw [nothingMore], taken, made_nil_iff.mpr still⟩
  · rintro (none | ⟨only, stop, isMade, stopped, again⟩) move there ⟨front, back, rfl, early, taken⟩
    · rw [made_first early taken] at none
      contradiction
    · rw [made_first early taken] at isMade
      obtain ⟨rfl, _⟩ := List.cons.inj isMade
      cases stopped.symm.trans taken
      exact made_nil_iff.mp again

end FinanceTracker.Library.GuardedMoves
