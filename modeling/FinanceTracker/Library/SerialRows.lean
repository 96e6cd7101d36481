import FinanceTracker.Library.KeyedRows

/-!
# Tables with a serial primary key

The database numbers the rows: a new row gets a number above all earlier ones,
so the number of a deleted row is never given again.
-/

namespace FinanceTracker.Library.SerialRows

open KeyedRows

variable {Row : Type*} {key : Row → Int}

structure SerialTable {Row : Type*} (key : Row → Int) where
  rows : List Row
  nextId : Int
  fresh : ∀ row ∈ rows, key row < nextId

def SerialTable.empty : SerialTable key where
  rows := []
  nextId := 1
  fresh := fun _ member => absurd member List.not_mem_nil

def SerialTable.find (table : SerialTable key) (wanted : Int) : Option Row :=
  lookup key table.rows wanted

def SerialTable.insert (table : SerialTable key) (make : Int → Row) (keyed : ∀ id, key (make id) = id) :
    SerialTable key where
  rows := table.rows ++ [make table.nextId]
  nextId := table.nextId + 1
  fresh := by
    intro row member
    rcases List.mem_append.mp member with old | new
    · have below := table.fresh row old
      omega
    · rw [List.mem_singleton.mp new, keyed]
      omega

def SerialTable.update (table : SerialTable key) (wanted : Int) (change : Row → Row)
    (keeps : ∀ row, key (change row) = key row) : SerialTable key where
  rows := replace key table.rows wanted change
  nextId := table.nextId
  fresh := by
    intro row member
    rcases mem_replace.mp member with ⟨old, _⟩ | ⟨old, stored, _, rfl⟩
    · exact table.fresh row old
    · rw [keeps]
      exact table.fresh old stored

def SerialTable.delete (table : SerialTable key) (wanted : Int) : SerialTable key where
  rows := table.rows.filter fun row => key row ≠ wanted
  nextId := table.nextId
  fresh := fun row member => table.fresh row (List.mem_of_mem_filter member)

theorem find_key {table : SerialTable key} {wanted : Int} {row : Row}
    (found : table.find wanted = some row) : key row = wanted :=
  (lookup_mem found).2

theorem find_insert (table : SerialTable key) (make : Int → Row)
    (keyed : ∀ id, key (make id) = id) :
    (table.insert make keyed).find =
      Function.update table.find table.nextId (some (make table.nextId)) := by
  funext wanted
  have fresh : ∀ stored ∈ table.rows, key stored ≠ key (make table.nextId) := by
    intro stored member
    rw [keyed]
    exact Int.ne_of_lt (table.fresh stored member)
  unfold SerialTable.find SerialTable.insert
  rw [lookup_append fresh, keyed, Function.update_apply]

theorem find_update (table : SerialTable key) (wanted : Int) (change : Row → Row)
    (keeps : ∀ row, key (change row) = key row) :
    (table.update wanted change keeps).find =
      Function.update table.find wanted ((table.find wanted).map change) := by
  funext other
  unfold SerialTable.find SerialTable.update
  rw [lookup_replace (fun row _ _ => keeps row), Function.update_apply]
  by_cases here : other = wanted
  · rw [if_pos here, if_pos here, here]
  · rw [if_neg here, if_neg here]

theorem find_delete (table : SerialTable key) (wanted : Int) :
    (table.delete wanted).find = Function.update table.find wanted none := by
  funext other
  unfold SerialTable.find SerialTable.delete
  rw [Function.update_apply]
  by_cases here : other = wanted
  · rw [if_pos here, lookup_none_iff]
    intro _ member
    rw [here]
    exact of_decide_eq_true (List.mem_filter.mp member).2
  · rw [if_neg here]
    unfold lookup
    rw [List.find?_filter]
    congr 1
    funext row
    by_cases sought : key row = other
    · simp [sought, here]
    · simp [sought]

structure Numbered (table : SerialTable key) : Prop where
  distinct : DistinctKeys key table.rows
  positive : ∀ row ∈ table.rows, 0 < key row
  next : 0 < table.nextId

section Numbered

variable {table : SerialTable key}

theorem numbered_insert (numbered : Numbered table) (make : Int → Row)
    (keyed : ∀ id, key (make id) = id) : Numbered (table.insert make keyed) where
  distinct := by
    apply append_distinct numbered.distinct
    intro row member
    rw [keyed]
    exact Int.ne_of_lt (table.fresh row member)
  positive := by
    refine List.forall_mem_append.mpr ⟨numbered.positive, ?_⟩
    intro row new
    rw [List.mem_singleton.mp new, keyed]
    exact numbered.next
  next := Int.lt_add_one_of_le (Int.le_of_lt numbered.next)

theorem numbered_update (numbered : Numbered table) (wanted : Int) (change : Row → Row)
    (keeps : ∀ row, key (change row) = key row) : Numbered (table.update wanted change keeps) where
  distinct := replace_distinct numbered.distinct fun row _ _ => keeps row
  positive := by
    intro row member
    rcases mem_replace.mp member with ⟨old, _⟩ | ⟨old, stored, _, rfl⟩
    · exact numbered.positive row old
    · rw [keeps]
      exact numbered.positive old stored
  next := numbered.next

theorem numbered_delete (numbered : Numbered table) (wanted : Int) :
    Numbered (table.delete wanted) where
  distinct := numbered.distinct.sublist (List.filter_sublist.map key)
  positive := fun row member => numbered.positive row (List.mem_of_mem_filter member)
  next := numbered.next

end Numbered

end FinanceTracker.Library.SerialRows
