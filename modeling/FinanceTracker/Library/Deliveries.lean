import Mathlib.Data.List.MinMax

/-!
# At-least-once deliveries of stamped events

A finite set of events is delivered in any order, each event at least once. An
event is at the top when no event of the set carries a greater stamp; several
events can be, since distinct events may carry one stamp.
-/

namespace FinanceTracker.Library.Deliveries

open List

variable {Event : Type*}

/-- The deliveries contain each of the events, any number of times, and no other. -/
def Covers (deliveries events : List Event) : Prop :=
  ∀ event, event ∈ deliveries ↔ event ∈ events

theorem covers_self (events : List Event) : Covers events events := fun _ => Iff.rfl

variable {events : List Event} {event : Event}

theorem covers_redelivered (member : event ∈ events) : Covers (events ++ [event]) events := by
  intro _
  rw [mem_append, mem_singleton]
  constructor
  · rintro (old | rfl)
    · exact old
    · exact member
  · exact Or.inl

variable (stamp : Event → Int)

def AtTop (events : List Event) (event : Event) : Prop :=
  ∀ other ∈ events, stamp other ≤ stamp event

instance (events : List Event) (event : Event) : Decidable (AtTop stamp events event) := by
  unfold AtTop
  infer_instance

theorem top_stamps_eq {first second : Event} (firstIn : first ∈ events) (secondIn : second ∈ events)
    (firstTop : AtTop stamp events first) (secondTop : AtTop stamp events second) :
    stamp first = stamp second :=
  Int.le_antisymm (secondTop first firstIn) (firstTop second secondIn)

theorem exists_top (member : event ∈ events) : ∃ top ∈ events, AtTop stamp events top := by
  induction events generalizing event with
  | nil => contradiction
  | cons head tail ih =>
    cases tail with
    | nil =>
      refine ⟨head, mem_singleton_self head, ?_⟩
      intro _ inside
      rw [mem_singleton.mp inside]
    | cons =>
      obtain ⟨top, topIn, isTop⟩ := ih mem_cons_self
      by_cases newer : stamp top ≤ stamp head
      · refine ⟨head, mem_cons_self, ?_⟩
        intro other inside
        rcases mem_cons.mp inside with rfl | later
        · exact Int.le_refl _
        · exact Int.le_trans (isTop other later) newer
      · refine ⟨top, mem_cons_of_mem _ topIn, ?_⟩
        intro other inside
        rcases mem_cons.mp inside with rfl | later
        · exact Int.le_of_lt (Int.not_le.mp newer)
        · exact isTop other later

theorem exists_top_of_kind (kind : Event → Bool) (member : event ∈ events)
    (isKind : kind event = true) :
    ∃ top ∈ events, kind top = true ∧
      ∀ other ∈ events, kind other = true → stamp other ≤ stamp top := by
  have inside : event ∈ events.filter kind := mem_filter.mpr ⟨member, isKind⟩
  obtain ⟨top, topIn, isTop⟩ := exists_top stamp inside
  have both := mem_filter.mp topIn
  exact ⟨top, both.1, both.2, fun other otherIn otherKind =>
    isTop other (mem_filter.mpr ⟨otherIn, otherKind⟩)⟩

end FinanceTracker.Library.Deliveries
