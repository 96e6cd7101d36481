import Mathlib.Data.List.Perm.Basic

/-!
# Serial orders of committed operations

Operations on one value committed by concurrent transactions are serialisable when
some order of them, run one after the other, gives the value. An operation that
wrote on what it found is the next of the order. One that wrote nothing has its
place where the order passes through the value that it read.
-/

namespace FinanceTracker.Library.SerialOrder

open List

variable {Value Operation : Type*} (apply : Value → Operation → Value)

/-- The execution of the order passes through the value. -/
def Visits (start : Value) (order : List Operation) (value : Value) : Prop :=
  ∃ before, before <+: order ∧ before.foldl apply start = value

/-- Some order of the operations leads to the value and passes through all that was seen. -/
def SerialSeeing (start : Value) (operations : List Operation) (seen : Value → Prop)
    (value : Value) : Prop :=
  ∃ order : List Operation, order.Perm operations ∧ order.foldl apply start = value ∧
    ∀ read, seen read → Visits apply start order read

def Serial (start : Value) (operations : List Operation) (value : Value) : Prop :=
  ∃ order : List Operation, order.Perm operations ∧ order.foldl apply start = value

variable {apply} {start value : Value} {order operations : List Operation}
  {seen other : Value → Prop}

theorem visits_last : Visits apply start order (order.foldl apply start) :=
  ⟨order, prefix_rfl, rfl⟩

theorem visits_append (visits : Visits apply start order value) (later : List Operation) :
    Visits apply start (order ++ later) value := by
  obtain ⟨before, isPrefix, leads⟩ := visits
  exact ⟨before, isPrefix.trans (prefix_append order later), leads⟩

variable {operation : Operation} {before after : List Operation}

/-- An operation that changes nothing can be put where the order passes through its value. -/
theorem insert_unchanged
    (unchanged : apply (before.foldl apply start) operation = before.foldl apply start) :
    (before ++ operation :: after).foldl apply start = (before ++ after).foldl apply start := by
  rw [foldl_append, foldl_cons, unchanged, foldl_append]

theorem visits_insert
    (unchanged : apply (before.foldl apply start) operation = before.foldl apply start)
    (visits : Visits apply start (before ++ after) value) :
    Visits apply start (before ++ operation :: after) value := by
  obtain ⟨sooner, isPrefix, leads⟩ := visits
  rcases prefix_or_prefix_of_prefix isPrefix (prefix_append before after) with
    within | ⟨rest, rfl⟩
  · exact ⟨sooner, within.trans (prefix_append before _), leads⟩
  · have isRest : rest <+: after := (prefix_append_right_inj before).mp isPrefix
    refine ⟨before ++ operation :: rest, ?_, ?_⟩
    · rw [prefix_append_right_inj, cons_prefix_cons]
      exact ⟨rfl, isRest⟩
    · rw [insert_unchanged unchanged, leads]

theorem serial_start : SerialSeeing apply start [] (fun _ => False) start :=
  ⟨[], List.Perm.refl [], rfl, fun _ never => never.elim⟩

theorem serial_of_seeing (serial : SerialSeeing apply start operations seen value) :
    Serial apply start operations value := by
  obtain ⟨order, perm, leads, _⟩ := serial
  exact ⟨order, perm, leads⟩

theorem serial_sees_less (serial : SerialSeeing apply start operations seen value)
    (less : ∀ read, other read → seen read) : SerialSeeing apply start operations other value := by
  obtain ⟨order, perm, leads, sees⟩ := serial
  exact ⟨order, perm, leads, fun read isSeen => sees read (less read isSeen)⟩

theorem serial_reads (serial : SerialSeeing apply start operations seen value) :
    SerialSeeing apply start operations (fun read => read = value ∨ seen read) value := by
  obtain ⟨order, perm, leads, sees⟩ := serial
  refine ⟨order, perm, leads, ?_⟩
  intro read isRead
  rcases isRead with now | sooner
  · rw [now, ← leads]
    exact visits_last
  · exact sees read sooner

theorem serial_applies (serial : SerialSeeing apply start operations seen value)
    (operation : Operation) :
    SerialSeeing apply start (operations ++ [operation]) seen (apply value operation) := by
  obtain ⟨order, perm, leads, sees⟩ := serial
  refine ⟨order ++ [operation], perm.append_right _, ?_, ?_⟩
  · rw [foldl_append, leads]
    rfl
  · intro read isSeen
    exact visits_append (sees read isSeen) [operation]

/-- An operation that changes nothing of a value that was seen. -/
theorem serial_unchanged {read : Value} (serial : SerialSeeing apply start operations seen value)
    (isSeen : seen read) (unchanged : apply read operation = read) :
    SerialSeeing apply start (operations ++ [operation]) seen value := by
  obtain ⟨_, perm, leads, sees⟩ := serial
  obtain ⟨before, ⟨after, split⟩, reads⟩ := sees read isSeen
  rw [← reads] at unchanged
  refine ⟨before ++ operation :: after, ?_, ?_, ?_⟩
  · have moved : (before ++ operation :: after).Perm (operation :: (before ++ after)) :=
      perm_middle
    rw [split] at moved
    exact moved.trans ((perm.cons operation).trans (perm_append_singleton _ _).symm)
  · rw [insert_unchanged unchanged, split]
    exact leads
  · intro other otherSeen
    have visits := sees other otherSeen
    rw [← split] at visits
    exact visits_insert unchanged visits

end FinanceTracker.Library.SerialOrder
