import Mathlib.Data.List.Nodup

/-!
# Rows with a primary key

A table is a list of rows in insertion order whose keys are distinct. A row is
read by its key and changed in place; insertion appends a row with a new key.
-/

namespace FinanceTracker.Library.KeyedRows

open List

variable {Row Key : Type*} [DecidableEq Key] (key : Row → Key)

def lookup (rows : List Row) (wanted : Key) : Option Row :=
  rows.find? fun row => key row = wanted

def replace (rows : List Row) (wanted : Key) (change : Row → Row) : List Row :=
  rows.map fun row => if key row = wanted then change row else row

def DistinctKeys (rows : List Row) : Prop := (rows.map key).Nodup

variable {key} {rows : List Row} {wanted : Key} {row : Row} {change : Row → Row}

theorem lookup_mem (found : lookup key rows wanted = some row) : row ∈ rows ∧ key row = wanted :=
  ⟨mem_of_find?_eq_some found, by simpa [lookup] using List.find?_some found⟩

theorem lookup_none_iff : lookup key rows wanted = none ↔ ∀ row ∈ rows, key row ≠ wanted := by
  simp [lookup, List.find?_eq_none]

theorem lookup_iff (distinct : DistinctKeys key rows) :
    lookup key rows wanted = some row ↔ row ∈ rows ∧ key row = wanted := by
  constructor
  · exact lookup_mem
  · rintro ⟨member, rfl⟩
    cases found : lookup key rows (key row) with
    | none => exact absurd rfl (lookup_none_iff.mp found row member)
    | some =>
      have stored := lookup_mem found
      rw [inj_on_of_nodup_map distinct stored.1 member stored.2]

theorem mem_replace : row ∈ replace key rows wanted change ↔
      (row ∈ rows ∧ key row ≠ wanted) ∨ ∃ old ∈ rows, key old = wanted ∧ row = change old := by
  simp only [replace, mem_map]
  constructor
  · rintro ⟨old, member, rfl⟩
    by_cases here : key old = wanted
    · exact Or.inr ⟨old, member, here, if_pos here⟩
    · rw [if_neg here]
      exact Or.inl ⟨member, here⟩
  · rintro (⟨member, other⟩ | ⟨old, member, here, rfl⟩)
    · exact ⟨row, member, if_neg other⟩
    · exact ⟨old, member, if_pos here⟩

theorem replace_keys (keeps : ∀ row ∈ rows, key row = wanted → key (change row) = key row) :
    (replace key rows wanted change).map key = rows.map key := by
  simp only [replace, map_map]
  apply map_congr_left
  intro row member
  by_cases here : key row = wanted
  · simp [here, keeps row member here]
  · simp [here]

theorem replace_distinct (distinct : DistinctKeys key rows)
    (keeps : ∀ row ∈ rows, key row = wanted → key (change row) = key row) :
    DistinctKeys key (replace key rows wanted change) := by
  unfold DistinctKeys
  rw [replace_keys keeps]
  exact distinct

omit [DecidableEq Key] in
theorem append_distinct (distinct : DistinctKeys key rows)
    (fresh : ∀ stored ∈ rows, key stored ≠ key row) : DistinctKeys key (rows ++ [row]) := by
  simp only [DistinctKeys, map_append, map_cons, map_nil]
  rw [nodup_append]
  refine ⟨distinct, nodup_singleton _, ?_⟩
  intro _ firstMember _ secondMember
  obtain ⟨stored, member, rfl⟩ := mem_map.mp firstMember
  rw [mem_singleton.mp secondMember]
  exact fresh stored member

omit [DecidableEq Key] in
theorem filter_at_most_one_iff (distinct : DistinctKeys key rows) (chosen : Row → Bool) :
    (rows.filter chosen).length ≤ 1 ↔ ∀ first ∈ rows, ∀ second ∈ rows,
      chosen first = true → chosen second = true → key first = key second := by
  constructor
  · intro one _ firstIn _ secondIn firstChosen secondChosen
    have firstFound := mem_filter.mpr ⟨firstIn, firstChosen⟩
    have secondFound := mem_filter.mpr ⟨secondIn, secondChosen⟩
    generalize rows.filter chosen = found at one firstFound secondFound
    match found, one with
    | [only], _ => rw [mem_singleton.mp firstFound, mem_singleton.mp secondFound]
  · intro sameKey
    have distinctFound : DistinctKeys key (rows.filter chosen) :=
      distinct.sublist (filter_sublist.map _)
    have same : ∀ first ∈ rows.filter chosen, ∀ second ∈ rows.filter chosen,
        key first = key second := by
      intro first firstFound second secondFound
      obtain ⟨firstIn, firstChosen⟩ := mem_filter.mp firstFound
      obtain ⟨secondIn, secondChosen⟩ := mem_filter.mp secondFound
      exact sameKey first firstIn second secondIn firstChosen secondChosen
    generalize rows.filter chosen = found at same distinctFound
    match found with
    | [] => exact Nat.zero_le 1
    | [only] => exact Nat.le_refl 1
    | first :: second :: rest =>
      exfalso
      have both := same first (by simp) second (by simp)
      simp [DistinctKeys, both] at distinctFound

theorem replace_appended (fresh : ∀ stored ∈ rows, key stored ≠ key row) :
    replace key (rows ++ [row]) (key row) change = rows ++ [change row] := by
  have same : replace key rows (key row) change = rows := by
    unfold replace
    conv_rhs => rw [← map_id rows]
    apply map_congr_left
    intro stored member
    simp [fresh stored member]
  unfold replace at same ⊢
  rw [map_append, same]
  simp

theorem lookup_map (keeps : ∀ row, key (change row) = key row) :
    lookup key (rows.map change) wanted = (lookup key rows wanted).map change := by
  unfold lookup
  rw [List.find?_map]
  congr 2
  funext row
  simp [keeps]

/-- A row is read back as changed when the key is its own, and as it was otherwise. -/
theorem lookup_replace {other : Key}
    (keeps : ∀ row ∈ rows, key row = wanted → key (change row) = key row) :
    lookup key (replace key rows wanted change) other =
      if other = wanted then (lookup key rows other).map change else lookup key rows other := by
  induction rows with
  | nil => simp [lookup, replace]
  | cons row rows ih =>
    have restKeeps : ∀ stored ∈ rows, key stored = wanted → key (change stored) = key stored :=
      fun stored member => keeps stored (mem_cons_of_mem _ member)
    have rest := ih restKeeps
    have head := keeps row mem_cons_self
    unfold lookup replace at rest ⊢
    rw [map_cons, List.find?_cons, List.find?_cons, rest]
    by_cases here : key row = wanted
    · have changed := head here
      by_cases sought : other = wanted
      · subst sought
        simp [here, changed]
      · simp [here, changed, sought, Ne.symm sought]
    · by_cases sought : key row = other
      · subst sought
        simp [here]
      · by_cases target : other = wanted
        · simp [here, target]
        · simp [here, sought, target]

theorem lookup_append (fresh : ∀ stored ∈ rows, key stored ≠ key row) :
    lookup key (rows ++ [row]) wanted =
      if wanted = key row then some row else lookup key rows wanted := by
  have absent : lookup key rows (key row) = none := lookup_none_iff.mpr fresh
  unfold lookup at absent ⊢
  rw [List.find?_append]
  by_cases here : wanted = key row
  · subst here
    rw [absent]
    simp
  · simp [here, Ne.symm here]

end FinanceTracker.Library.KeyedRows
