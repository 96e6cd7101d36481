import FinanceTracker.Library.KeyedRows

/-!
# Tables under READ COMMITTED

A row has a committed version and, while a transaction has written it, a pending one
that only its owner sees; the pending version is also the row lock. A commit makes the
versions of its owner the committed ones, a rollback drops them. A relation between the
rows that every view shows is kept by a statement exactly when the new version is in
the relation with what its owner sees, and by a commit exactly when the versions of the
owner are in the relation with those that other transactions hold.
-/

namespace FinanceTracker.Library.ReadCommitted

open KeyedRows List

/-- `none` stands for a row that is not there, or that its owner has deleted. -/
structure Versioned (Party Key Row : Type*) where
  id : Key
  committed : Option Row
  pending : Option (Party × Option Row) := none
  deriving DecidableEq

section Rows

variable {Party Key Row : Type*}

def Versioned.versions (row : Versioned Party Key Row) : List Row :=
  row.committed.toList ++ (row.pending.bind Prod.snd).toList

variable [DecidableEq Party]

/-- What a transaction sees of a row; `none` is a reader outside all transactions. -/
def Versioned.seenBy (viewer : Option Party) (row : Versioned Party Key Row) : Option Row :=
  match row.pending with
  | some (owner, version) => if viewer = some owner then version else row.committed
  | none => row.committed

def Versioned.heldBy (party : Party) (row : Versioned Party Key Row) : Option Row :=
  match row.pending with
  | some (owner, version) => if owner = party then version else none
  | none => none

def Versioned.heldByOthers (party : Party) (row : Versioned Party Key Row) : Option Row :=
  match row.pending with
  | some (owner, version) => if owner = party then none else version
  | none => none

def Versioned.isLockedFor (party : Party) (row : Versioned Party Key Row) : Bool :=
  row.pending.any fun lock => lock.1 ≠ party

def Versioned.write (party : Party) (wanted : Row → Bool) (change : Row → Option Row)
    (row : Versioned Party Key Row) : Versioned Party Key Row :=
  match row.seenBy (some party) with
  | none => row
  | some version =>
    if wanted version then { row with pending := some (party, change version) } else row

def Versioned.commit (party : Party) (row : Versioned Party Key Row) : Versioned Party Key Row :=
  match row.pending with
  | some (owner, version) =>
    if owner = party then { row with committed := version, pending := none } else row
  | none => row

def Versioned.rollback (party : Party) (row : Versioned Party Key Row) :
    Versioned Party Key Row :=
  match row.pending with
  | some (owner, _) => if owner = party then { row with pending := none } else row
  | none => row

omit [DecidableEq Party] in
theorem mem_versions {row : Versioned Party Key Row} {version : Row} : version ∈ row.versions ↔
      row.committed = some version ∨ ∃ owner, row.pending = some (owner, some version) := by
  simp [Versioned.versions, Option.bind_eq_some_iff, Prod.exists]

theorem seen_version {viewer : Option Party} {row : Versioned Party Key Row} {version : Row}
    (seen : row.seenBy viewer = some version) : version ∈ row.versions := by
  apply mem_versions.mpr
  unfold Versioned.seenBy at seen
  split at seen
  · next owner pending held =>
    split at seen
    · rw [seen] at held
      exact Or.inr ⟨owner, held⟩
    · exact Or.inl seen
  · exact Or.inl seen

theorem held_by_iff {party : Party} {row : Versioned Party Key Row} {version : Row} :
    row.heldBy party = some version ↔ row.pending = some (party, some version) := by
  unfold Versioned.heldBy
  split
  · next owner pending held =>
    rw [held]
    by_cases mine : owner = party
    · simp [mine]
    · simp [mine]
  · next free => simp [free]

theorem held_by_others_iff {party : Party} {row : Versioned Party Key Row} {version : Row} :
    row.heldByOthers party = some version ↔
      ∃ owner, owner ≠ party ∧ row.pending = some (owner, some version) := by
  unfold Versioned.heldByOthers
  split
  · next owner pending held =>
    rw [held]
    by_cases mine : owner = party
    · simp [mine]
    · simp [mine]
  · next free => simp [free]

theorem held_is_seen {party : Party} {row : Versioned Party Key Row} {version : Row}
    (held : row.heldBy party = some version) : row.seenBy (some party) = some version := by
  simp [Versioned.seenBy, held_by_iff.mp held]

theorem write_id (party : Party) (wanted : Row → Bool) (change : Row → Option Row)
    (row : Versioned Party Key Row) : (row.write party wanted change).id = row.id := by
  unfold Versioned.write
  split
  · rfl
  · split <;> rfl

theorem write_versions {party : Party} {wanted : Row → Bool} {change : Row → Option Row}
    {row : Versioned Party Key Row} {version : Row}
    (present : version ∈ (row.write party wanted change).versions) :
    version ∈ row.versions ∨ ∃ old ∈ row.versions, change old = some version := by
  unfold Versioned.write at present
  split at present
  · exact Or.inl present
  · next old seen =>
    split at present
    · rcases mem_versions.mp present with committed | ⟨owner, held⟩
      · exact Or.inl (mem_versions.mpr (Or.inl committed))
      · injection held with pair
        injection pair with _ changed
        exact Or.inr ⟨old, seen_version seen, changed⟩
    · exact Or.inl present

theorem commit_id (party : Party) (row : Versioned Party Key Row) :
    (row.commit party).id = row.id := by
  unfold Versioned.commit
  split
  · split <;> rfl
  · rfl

theorem commit_versions {party : Party} {row : Versioned Party Key Row} {version : Row}
    (present : version ∈ (row.commit party).versions) : version ∈ row.versions := by
  unfold Versioned.commit at present
  split at present
  · next owner pending held =>
    split at present
    · rcases mem_versions.mp present with committed | ⟨other, nothing⟩
      · dsimp only at committed
        rw [committed] at held
        exact mem_versions.mpr (Or.inr ⟨owner, held⟩)
      · cases nothing
    · exact present
  · exact present

theorem rollback_id (party : Party) (row : Versioned Party Key Row) :
    (row.rollback party).id = row.id := by
  unfold Versioned.rollback
  split
  · split <;> rfl
  · rfl

theorem rollback_versions {party : Party} {row : Versioned Party Key Row} {version : Row}
    (present : version ∈ (row.rollback party).versions) : version ∈ row.versions := by
  unfold Versioned.rollback at present
  split at present
  · split at present
    · rcases mem_versions.mp present with committed | ⟨other, nothing⟩
      · exact mem_versions.mpr (Or.inl committed)
      · cases nothing
    · exact present
  · exact present

end Rows

section Tables

variable {Party Key Row : Type*}

structure Table (Party : Type*) {Key Row : Type*} (key : Row → Key) where
  rows : List (Versioned Party Key Row)
  distinct : DistinctKeys Versioned.id rows
  labelled : ∀ row ∈ rows, ∀ version ∈ row.versions, key version = row.id

variable {key : Row → Key}

def Table.ofRows (rows : List Row) (distinct : DistinctKeys key rows) : Table Party key where
  rows := rows.map fun row => { id := key row, committed := some row }
  distinct := by
    unfold DistinctKeys at distinct ⊢
    rw [List.map_map]
    exact distinct
  labelled := by
    intro _ member _ present
    obtain ⟨_, _, rfl⟩ := List.mem_map.mp member
    simp only [Versioned.versions, Option.toList_some, Option.bind_none, Option.toList_none,
      List.append_nil, List.mem_singleton] at present
    rw [present]

variable [DecidableEq Party]

def Table.view (table : Table Party key) (viewer : Option Party) : List Row :=
  table.rows.filterMap fun row => row.seenBy viewer

def Table.held (table : Table Party key) (party : Party) : List Row :=
  table.rows.filterMap fun row => row.heldBy party

def Table.heldByOthers (table : Table Party key) (party : Party) : List Row :=
  table.rows.filterMap fun row => row.heldByOthers party

/-- The statement waits for a row that another transaction has written. -/
def Table.blocked (table : Table Party key) (party : Party) (wanted : Row → Bool) : Bool :=
  table.rows.any fun row =>
    (row.seenBy (some party)).any wanted && row.isLockedFor party

omit [DecidableEq Party] in
theorem labelled_map {rows : List (Versioned Party Key Row)}
    {change : Versioned Party Key Row → Versioned Party Key Row}
    (labelled : ∀ row ∈ rows, ∀ version ∈ row.versions, key version = row.id)
    (sameId : ∀ row, (change row).id = row.id)
    (versions : ∀ row ∈ rows, ∀ version ∈ (change row).versions,
      version ∈ row.versions ∨ key version = row.id) :
    ∀ row ∈ rows.map change, ∀ version ∈ row.versions, key version = row.id := by
  intro _ member version present
  obtain ⟨old, stored, rfl⟩ := mem_map.mp member
  rw [sameId]
  rcases versions old stored version present with before | labelledHere
  · exact labelled old stored version before
  · exact labelledHere

omit [DecidableEq Party] in
theorem distinct_map {rows : List (Versioned Party Key Row)}
    {change : Versioned Party Key Row → Versioned Party Key Row}
    (distinct : DistinctKeys Versioned.id rows) (sameId : ∀ row, (change row).id = row.id) :
    DistinctKeys Versioned.id (rows.map change) := by
  unfold DistinctKeys at distinct ⊢
  rw [map_map]
  have same : Versioned.id ∘ change = Versioned.id := funext sameId
  rw [same]
  exact distinct

def Table.insert (table : Table Party key) (party : Party) (row : Row)
    (fresh : ∀ stored ∈ table.rows, stored.id ≠ key row) : Table Party key where
  rows := table.rows ++ [{ id := key row, committed := none, pending := some (party, some row) }]
  distinct := append_distinct table.distinct fresh
  labelled := by
    intro stored member version present
    rcases List.mem_append.mp member with old | new
    · exact table.labelled stored old version present
    · rw [List.mem_singleton.mp new] at present ⊢
      simp only [Versioned.versions, Option.toList_none, Option.bind_some, Option.toList_some,
        List.nil_append, List.mem_singleton] at present
      rw [present]

def Table.write (table : Table Party key) (party : Party) (wanted : Row → Bool)
    (change : Row → Option Row) (keeps : ∀ old next, change old = some next → key next = key old) :
    Table Party key where
  rows := table.rows.map fun row => row.write party wanted change
  distinct := distinct_map table.distinct (write_id party wanted change)
  labelled := by
    apply labelled_map table.labelled (write_id party wanted change)
    intro row member version present
    rcases write_versions present with before | ⟨old, stored, changed⟩
    · exact Or.inl before
    · exact Or.inr ((keeps old version changed).trans (table.labelled row member old stored))

def Table.commit (table : Table Party key) (party : Party) : Table Party key where
  rows := table.rows.map fun row => row.commit party
  distinct := distinct_map table.distinct (commit_id party)
  labelled := labelled_map table.labelled (commit_id party)
    fun _ _ _ present => Or.inl (commit_versions present)

def Table.rollback (table : Table Party key) (party : Party) : Table Party key where
  rows := table.rows.map fun row => row.rollback party
  distinct := distinct_map table.distinct (rollback_id party)
  labelled := labelled_map table.labelled (rollback_id party)
    fun _ _ _ present => Or.inl (rollback_versions present)

end Tables

section Views

variable {Party Key Row : Type*} [DecidableEq Party] {key : Row → Key} {table : Table Party key}
  {party other : Party} {viewer : Option Party} {row : Row}

theorem mem_view : row ∈ table.view viewer ↔
    ∃ stored ∈ table.rows, stored.seenBy viewer = some row := by
  exact mem_filterMap

theorem mem_held : row ∈ table.held party ↔
    ∃ stored ∈ table.rows, stored.pending = some (party, some row) := by
  simp [Table.held, mem_filterMap, held_by_iff]

theorem mem_held_by_others : row ∈ table.heldByOthers party ↔
    ∃ owner, owner ≠ party ∧ row ∈ table.held owner := by
  simp only [Table.heldByOthers, mem_filterMap, held_by_others_iff, mem_held]
  constructor
  · rintro ⟨stored, member, owner, others, pending⟩
    exact ⟨owner, others, stored, member, pending⟩
  · rintro ⟨owner, others, stored, member, pending⟩
    exact ⟨stored, member, owner, others, pending⟩

theorem held_in_view (held : row ∈ table.held party) : row ∈ table.view (some party) := by
  obtain ⟨stored, member, pending⟩ := mem_held.mp held
  exact mem_view.mpr ⟨stored, member, held_is_seen (held_by_iff.mpr pending)⟩

theorem view_distinct : DistinctKeys key (table.view viewer) := by
  have distinct := table.distinct
  have labelled := table.labelled
  unfold Table.view
  generalize table.rows = rows at distinct labelled
  induction rows with
  | nil => exact nodup_nil
  | cons first rest ih =>
    obtain ⟨new, distinctRest⟩ := nodup_cons.mp distinct
    have later := ih distinctRest fun stored member =>
      labelled stored (mem_cons_of_mem first member)
    rw [filterMap_cons]
    cases seen : first.seenBy viewer with
    | none => exact later
    | some version =>
      refine nodup_cons.mpr ⟨?_, later⟩
      intro present
      obtain ⟨shown, inView, sameKey⟩ := mem_map.mp present
      obtain ⟨stored, member, seenThere⟩ := mem_filterMap.mp inView
      apply new
      rw [← labelled first mem_cons_self version (seen_version seen), ← sameKey,
        labelled stored (mem_cons_of_mem first member) shown (seen_version seenThere)]
      exact mem_map_of_mem member

theorem view_insert_owner {new : Row} (fresh : ∀ stored ∈ table.rows, stored.id ≠ key new) :
    (table.insert party new fresh).view (some party) = table.view (some party) ++ [new] := by
  simp [Table.view, Table.insert, Versioned.seenBy, filterMap_append]

theorem view_insert_others {new : Row} (fresh : ∀ stored ∈ table.rows, stored.id ≠ key new)
    (others : viewer ≠ some party) :
    (table.insert party new fresh).view viewer = table.view viewer := by
  simp [Table.view, Table.insert, Versioned.seenBy, filterMap_append, others]

section Write

variable {wanted : Row → Bool} {change : Row → Option Row}
  {keeps : ∀ old next, change old = some next → key next = key old}

theorem write_seen_by_owner (stored : Versioned Party Key Row) :
    (stored.write party wanted change).seenBy (some party) =
      (stored.seenBy (some party)).bind fun version =>
        if wanted version then change version else some version := by
  unfold Versioned.write
  cases seen : stored.seenBy (some party) with
  | none => simp [seen]
  | some version =>
    dsimp only [Option.bind_some]
    by_cases here : wanted version = true
    · simp [here, Versioned.seenBy]
    · simp [here, seen]

/-- Nobody else sees a change before the commit. -/
theorem write_seen_by_others {stored : Versioned Party Key Row} (others : viewer ≠ some party)
    (free : ((stored.seenBy (some party)).any wanted && stored.isLockedFor party) = false) :
    (stored.write party wanted change).seenBy viewer = stored.seenBy viewer := by
  unfold Versioned.write
  cases seen : stored.seenBy (some party) with
  | none => rfl
  | some version =>
    dsimp only
    by_cases here : wanted version = true
    · rw [if_pos here]
      have unlocked : stored.isLockedFor party = false := by
        simpa [seen, here] using free
      unfold Versioned.isLockedFor at unlocked
      unfold Versioned.seenBy
      dsimp only
      rw [if_neg others]
      cases held : stored.pending with
      | none => rfl
      | some lock =>
        have mine : lock.1 = party := by simpa [held] using unlocked
        simp [mine, others]
    · rw [if_neg here]

/-- The owner sees the statement done. -/
theorem view_write_owner : (table.write party wanted change keeps).view (some party) =
      (table.view (some party)).filterMap fun version =>
        if wanted version then change version else some version := by
  unfold Table.view Table.write
  rw [filterMap_map, filterMap_filterMap]
  apply filterMap_congr
  intro stored _
  exact write_seen_by_owner stored

theorem write_leaves_locked {stored : Versioned Party Key Row} {owner : Party}
    {version : Option Row} (others : owner ≠ party) (held : stored.pending = some (owner, version))
    (free : ((stored.seenBy (some party)).any wanted && stored.isLockedFor party) = false) :
    stored.write party wanted change = stored := by
  have locked : stored.isLockedFor party = true := by
    simp [Versioned.isLockedFor, held, others]
  rw [locked, Bool.and_true] at free
  unfold Versioned.write
  cases seen : stored.seenBy (some party) with
  | none => rfl
  | some shown =>
    have unwanted : wanted shown = false := by simpa [seen] using free
    simp [unwanted]

theorem view_write_others (others : viewer ≠ some party)
    (free : table.blocked party wanted = false) :
    (table.write party wanted change keeps).view viewer = table.view viewer := by
  unfold Table.view Table.write
  rw [filterMap_map]
  apply filterMap_congr
  intro stored member
  exact write_seen_by_others others (any_eq_false.mp free stored member |> eq_false_of_ne_true)

end Write

theorem view_rollback : (table.rollback party).view viewer =
    table.view (if viewer = some party then none else viewer) := by
  unfold Table.view Table.rollback
  rw [filterMap_map]
  apply filterMap_congr
  intro stored _
  unfold Versioned.rollback Versioned.seenBy
  dsimp only [Function.comp]
  cases held : stored.pending with
  | none => simp [held]
  | some lock =>
    by_cases mine : lock.1 = party
    · by_cases own : viewer = some party
      · simp [mine, own]
      · simp [mine, own]
    · by_cases own : viewer = some party
      · simp [held, mine, own, Ne.symm mine]
      · simp [held, mine, own]

/-- After a commit everybody without a transaction sees what the transaction saw. -/
theorem view_commit_settled (settled : viewer = none ∨ viewer = some party) :
    (table.commit party).view viewer = table.view (some party) := by
  unfold Table.view Table.commit
  rw [filterMap_map]
  apply filterMap_congr
  intro stored _
  unfold Versioned.commit Versioned.seenBy
  dsimp only [Function.comp]
  cases held : stored.pending with
  | none => simp [held]
  | some lock =>
    by_cases mine : lock.1 = party
    · simp [mine]
    · rcases settled with rfl | rfl
      · simp [held, mine, Ne.symm mine]
      · simp [held, mine]

theorem view_commit_others
    (shown : row ∈ (table.commit party).view (some other)) :
    row ∈ table.held party ∨ row ∈ table.held other ∨
      (row ∈ table.view (some party) ∧ row ∈ table.view (some other)) := by
  obtain ⟨_, committed, seen⟩ := mem_view.mp shown
  obtain ⟨before, member, rfl⟩ := mem_map.mp committed
  simp only [mem_held, mem_view]
  unfold Versioned.commit Versioned.seenBy at seen
  cases held : before.pending with
  | none =>
    simp only [held] at seen
    refine Or.inr (Or.inr ⟨⟨before, member, ?_⟩, ⟨before, member, ?_⟩⟩)
    · simpa [Versioned.seenBy, held] using seen
    · simpa [Versioned.seenBy, held] using seen
  | some lock =>
    obtain ⟨owner, _⟩ := lock
    by_cases mine : owner = party
    · simp only [held, mine, if_true] at seen
      refine Or.inl ⟨before, member, ?_⟩
      rw [held, mine, seen]
    · simp only [held, mine, if_false] at seen
      by_cases theirs : owner = other
      · simp only [theirs, if_true] at seen
        refine Or.inr (Or.inl ⟨before, member, ?_⟩)
        rw [held, theirs, seen]
      · have apart : some other ≠ some owner := fun same => theirs (Option.some.inj same).symm
        have own : some party ≠ some owner := fun same => mine (Option.some.inj same).symm
        simp only [if_neg apart] at seen
        refine Or.inr (Or.inr ⟨⟨before, member, ?_⟩, ⟨before, member, ?_⟩⟩)
        · simp [Versioned.seenBy, held, own, seen]
        · simp [Versioned.seenBy, held, apart, seen]

theorem commit_shows_held (held : row ∈ table.held party) (viewer : Option Party) :
    row ∈ (table.commit party).view viewer := by
  obtain ⟨stored, member, pending⟩ := mem_held.mp held
  refine mem_view.mpr ⟨stored.commit party, mem_map_of_mem member, ?_⟩
  simp [Versioned.commit, Versioned.seenBy, pending]

theorem commit_leaves_held (others : other ≠ party) (held : row ∈ table.held other) :
    row ∈ (table.commit party).view (some other) := by
  obtain ⟨stored, member, pending⟩ := mem_held.mp held
  refine mem_view.mpr ⟨stored.commit party, mem_map_of_mem member, ?_⟩
  simp [Versioned.commit, Versioned.seenBy, pending, others]

end Views

section Constraints

variable {Party Key Row : Type*} [DecidableEq Party] {key : Row → Key} {table : Table Party key}
  {party : Party} {related : Row → Row → Prop}

def AllRelated (related : Row → Row → Prop) (rows : List Row) : Prop :=
  ∀ first ∈ rows, ∀ second ∈ rows, related first second

def EveryView (related : Row → Row → Prop) (table : Table Party key) : Prop :=
  ∀ viewer, AllRelated related (table.view viewer)

theorem insert_every_view_iff
    (symmetric : ∀ first second, related first second → related second first)
    (holds : EveryView related table) {new : Row} (self : related new new)
    (fresh : ∀ stored ∈ table.rows, stored.id ≠ key new) :
    EveryView related (table.insert party new fresh) ↔
      ∀ shown ∈ table.view (some party), related new shown := by
  constructor
  · intro after shown member
    have own := after (some party)
    rw [view_insert_owner fresh] at own
    exact own new (mem_append_right _ (mem_singleton.mpr rfl)) shown
      (mem_append_left _ member)
  · intro compatible viewer
    by_cases mine : viewer = some party
    · rw [mine, view_insert_owner fresh]
      intro first firstShown second secondShown
      rcases mem_append.mp firstShown with old | new
      · rcases mem_append.mp secondShown with other | new
        · exact holds (some party) first old second other
        · rw [mem_singleton.mp new]
          exact symmetric _ _ (compatible first old)
      · rw [mem_singleton.mp new]
        rcases mem_append.mp secondShown with other | alsoNew
        · exact compatible second other
        · rw [mem_singleton.mp alsoNew]
          exact self
    · rw [view_insert_others fresh mine]
      exact holds viewer

theorem write_every_view_iff (holds : EveryView related table) {wanted : Row → Bool}
    {change : Row → Option Row}
    {keeps : ∀ old next, change old = some next → key next = key old}
    (free : table.blocked party wanted = false) :
    EveryView related (table.write party wanted change keeps) ↔
      AllRelated related ((table.write party wanted change keeps).view (some party)) := by
  constructor
  · intro after
    exact after (some party)
  · intro own viewer
    by_cases mine : viewer = some party
    · rw [mine]
      exact own
    · rw [view_write_others mine free]
      exact holds viewer

theorem rollback_every_view (holds : EveryView related table) :
    EveryView related (table.rollback party) := by
  intro _
  rw [view_rollback]
  exact holds _

theorem commit_every_view_iff
    (symmetric : ∀ first second, related first second → related second first)
    (holds : EveryView related table) :
    EveryView related (table.commit party) ↔
      ∀ mine ∈ table.held party, ∀ theirs ∈ table.heldByOthers party, related mine theirs := by
  constructor
  · intro after mine held theirs heldThere
    obtain ⟨owner, others, theirsHeld⟩ := mem_held_by_others.mp heldThere
    exact after (some owner) mine (commit_shows_held held _) theirs
      (commit_leaves_held others theirsHeld)
  · intro compatible viewer
    by_cases settled : viewer = none ∨ viewer = some party
    · rw [view_commit_settled settled]
      exact holds (some party)
    · obtain ⟨other, rfl⟩ : ∃ other, viewer = some other :=
        Option.ne_none_iff_exists'.mp fun none => settled (Or.inl none)
      have others : other ≠ party := fun same => settled (Or.inr (congrArg some same))
      intro first firstShown second secondShown
      rcases view_commit_others firstShown with mine | theirs | ⟨firstMine, firstTheirs⟩
      · rcases view_commit_others secondShown with alsoMine | theirs | ⟨secondMine, _⟩
        · exact holds (some party) first (held_in_view mine) second (held_in_view alsoMine)
        · exact compatible first mine second (mem_held_by_others.mpr ⟨other, others, theirs⟩)
        · exact holds (some party) first (held_in_view mine) second secondMine
      · rcases view_commit_others secondShown with mine | alsoTheirs | ⟨_, secondTheirs⟩
        · exact symmetric _ _
            (compatible second mine first (mem_held_by_others.mpr ⟨other, others, theirs⟩))
        · exact holds (some other) first (held_in_view theirs) second (held_in_view alsoTheirs)
        · exact holds (some other) first (held_in_view theirs) second secondTheirs
      · rcases view_commit_others secondShown with mine | theirs | ⟨_, secondTheirs⟩
        · exact holds (some party) first firstMine second (held_in_view mine)
        · exact holds (some other) first firstTheirs second (held_in_view theirs)
        · exact holds (some other) first firstTheirs second secondTheirs

end Constraints

section Locks

variable {Party Key Row : Type*} [DecidableEq Party] {key : Row → Key} {table : Table Party key}
  {party owner : Party} {stored : Versioned Party Key Row} {version : Option Row}

theorem table_write_leaves_locked {wanted : Row → Bool} {change : Row → Option Row}
    (free : table.blocked party wanted = false) (member : stored ∈ table.rows)
    (held : stored.pending = some (owner, version)) (others : owner ≠ party) :
    stored.write party wanted change = stored := by
  apply write_leaves_locked others held
  exact eq_false_of_ne_true (any_eq_false.mp free stored member)

/-- A statement that need not wait need not wait for some of its rows. -/
theorem blocked_narrow {wide narrow : Row → Bool}
    (narrower : ∀ row, narrow row = true → wide row = true)
    (free : table.blocked party wide = false) : table.blocked party narrow = false := by
  apply any_eq_false.mpr
  intro stored member waits
  obtain ⟨wanted, locked⟩ := Bool.and_eq_true_iff.mp waits
  apply any_eq_false.mp free stored member
  rw [locked, Bool.and_true]
  cases seen : stored.seenBy (some party) with
  | none =>
    rw [seen] at wanted
    cases wanted
  | some row =>
    rw [seen] at wanted
    exact narrower row wanted

theorem commit_leaves_locked (held : stored.pending = some (owner, version))
    (others : owner ≠ party) : stored.commit party = stored := by
  unfold Versioned.commit
  rw [held]
  exact if_neg others

theorem rollback_leaves_locked (held : stored.pending = some (owner, version))
    (others : owner ≠ party) : stored.rollback party = stored := by
  unfold Versioned.rollback
  rw [held]
  exact if_neg others

end Locks

section Versions

variable {Party Key Row : Type*} [DecidableEq Party] {key : Row → Key} {table : Table Party key}
  {party : Party} {stored : Versioned Party Key Row} {good : Option Row → Prop}

def Versioned.Every (good : Option Row → Prop) (row : Versioned Party Key Row) : Prop :=
  good row.committed ∧ ∀ owner version, row.pending = some (owner, version) → good version

def EveryVersion (good : Option Row → Prop) (table : Table Party key) : Prop :=
  ∀ row ∈ table.rows, row.Every good

theorem every_seen (every : stored.Every good) (viewer : Option Party) :
    good (stored.seenBy viewer) := by
  unfold Versioned.seenBy
  split
  · next owner version held =>
    split
    · exact every.2 owner version held
    · exact every.1
  · exact every.1

theorem view_good (every : EveryVersion good table) {viewer : Option Party} {row : Row}
    (shown : row ∈ table.view viewer) : good (some row) := by
  obtain ⟨stored, member, seen⟩ := mem_view.mp shown
  rw [← seen]
  exact every_seen (every stored member) viewer

theorem write_every_version {wanted : Row → Bool} {change : Row → Option Row}
    {keeps : ∀ old next, change old = some next → key next = key old}
    (every : EveryVersion good table)
    (stays : ∀ old, wanted old = true → good (some old) → good (change old)) :
    EveryVersion good (table.write party wanted change keeps) := by
  intro _ member
  obtain ⟨stored, old, rfl⟩ := mem_map.mp member
  have before := every stored old
  unfold Versioned.write
  split
  · exact before
  · next shown seen =>
    split
    · next here =>
      refine ⟨before.1, ?_⟩
      intro _ _ held
      cases held
      apply stays shown here
      rw [← seen]
      exact every_seen before (some party)
    · exact before

theorem commit_every_version (every : EveryVersion good table) :
    EveryVersion good (table.commit party) := by
  intro _ member
  obtain ⟨stored, old, rfl⟩ := mem_map.mp member
  have before := every stored old
  unfold Versioned.commit
  split
  · next owner version held =>
    split
    · exact ⟨before.2 owner version held, fun _ _ nothing => by cases nothing⟩
    · exact before
  · exact before

theorem rollback_every_version (every : EveryVersion good table) :
    EveryVersion good (table.rollback party) := by
  intro _ member
  obtain ⟨stored, old, rfl⟩ := mem_map.mp member
  have before := every stored old
  unfold Versioned.rollback
  split
  · split
    · exact ⟨before.1, fun _ _ nothing => by cases nothing⟩
    · exact before
  · exact before

end Versions

section Apart

variable {Party Key Row : Type*} [DecidableEq Party] {key : Row → Key} {table : Table Party key}
  {party other : Party} {related : Row → Row → Prop} {wanted : Row → Bool}
  {change : Row → Option Row} {keeps : ∀ old next, change old = some next → key next = key old}

/-- The uncommitted rows of two parties are in the relation. -/
def Apart (related : Row → Row → Prop) (table : Table Party key) : Prop :=
  ∀ party other, party ≠ other → ∀ mine ∈ table.held party, ∀ theirs ∈ table.held other,
    related mine theirs

theorem held_write_owner {row : Row}
    (held : row ∈ (table.write party wanted change keeps).held party) :
    row ∈ table.held party ∨
      ∃ old ∈ table.view (some party), wanted old = true ∧ change old = some row := by
  obtain ⟨_, member, pending⟩ := mem_held.mp held
  obtain ⟨stored, before, rfl⟩ := mem_map.mp member
  unfold Versioned.write at pending
  split at pending
  · exact Or.inl (mem_held.mpr ⟨stored, before, pending⟩)
  · next shown seen =>
    split at pending
    · next here =>
      injection pending with pair
      injection pair with _ changed
      exact Or.inr ⟨shown, mem_view.mpr ⟨stored, before, seen⟩, here, changed⟩
    · exact Or.inl (mem_held.mpr ⟨stored, before, pending⟩)

theorem held_write_others (others : other ≠ party) {row : Row}
    (held : row ∈ (table.write party wanted change keeps).held other) :
    row ∈ table.held other := by
  obtain ⟨_, member, pending⟩ := mem_held.mp held
  obtain ⟨stored, before, rfl⟩ := mem_map.mp member
  unfold Versioned.write at pending
  split at pending
  · exact mem_held.mpr ⟨stored, before, pending⟩
  · split at pending
    · injection pending with pair
      injection pair with same _
      exact absurd same.symm others
    · exact mem_held.mpr ⟨stored, before, pending⟩

theorem write_apart (symmetric : ∀ first second, related first second → related second first)
    (apart : Apart related table)
    (compatible : ∀ old ∈ table.view (some party), wanted old = true → ∀ next,
      change old = some next → ∀ theirs ∈ table.heldByOthers party, related next theirs) :
    Apart related (table.write party wanted change keeps) := by
  have mineTheirs : ∀ other, party ≠ other →
      ∀ mine ∈ (table.write party wanted change keeps).held party,
        ∀ theirs ∈ table.held other, related mine theirs := by
    intro other others mine mineHeld theirs theirsHeld
    rcases held_write_owner mineHeld with before | ⟨old, shown, here, changed⟩
    · exact apart party other others mine before theirs theirsHeld
    · exact compatible old shown here mine changed theirs
        (mem_held_by_others.mpr ⟨other, Ne.symm others, theirsHeld⟩)
  intro first second others mine mineHeld theirs theirsHeld
  by_cases firstMoves : first = party
  · subst firstMoves
    exact mineTheirs second others mine mineHeld theirs
      (held_write_others (Ne.symm others) theirsHeld)
  · have mineBefore := held_write_others firstMoves mineHeld
    by_cases secondMoves : second = party
    · subst secondMoves
      exact symmetric _ _ (mineTheirs first (Ne.symm others) theirs theirsHeld mine mineBefore)
    · exact apart first second others mine mineBefore theirs
        (held_write_others secondMoves theirsHeld)

/-- What a party sees and may write is in the relation with what others hold. -/
theorem seen_related_to_others (every : EveryView related table) (apart : Apart related table)
    (free : table.blocked party wanted = false) {old theirs : Row}
    (shown : old ∈ table.view (some party)) (here : wanted old = true)
    (held : theirs ∈ table.heldByOthers party) : related old theirs := by
  obtain ⟨stored, member, seen⟩ := mem_view.mp shown
  obtain ⟨other, others, theirsHeld⟩ := mem_held_by_others.mp held
  have unlocked : stored.isLockedFor party = false := by
    have freeHere := eq_false_of_ne_true (any_eq_false.mp free stored member)
    simpa [seen, here] using freeHere
  cases pending : stored.pending with
  | none =>
    have committed : stored.committed = some old := by
      simpa [Versioned.seenBy, pending] using seen
    refine every (some other) old ?_ theirs (held_in_view theirsHeld)
    exact mem_view.mpr ⟨stored, member, by simp [Versioned.seenBy, pending, committed]⟩
  | some lock =>
    obtain ⟨owner, version⟩ := lock
    have mine : owner = party := by simpa [Versioned.isLockedFor, pending] using unlocked
    subst mine
    have own : version = some old := by simpa [Versioned.seenBy, pending] using seen
    refine apart owner other (Ne.symm others) old ?_ theirs theirsHeld
    exact mem_held.mpr ⟨stored, member, by rw [pending, own]⟩

theorem settled_apart {next : Table Party key}
    {settle : Versioned Party Key Row → Versioned Party Key Row}
    (rows : next.rows = table.rows.map settle)
    (keeps : ∀ stored held, (settle stored).pending = some held → stored.pending = some held)
    (apart : Apart related table) : Apart related next := by
  have before : ∀ owner row, row ∈ next.held owner → row ∈ table.held owner := by
    intro _ _ held
    obtain ⟨_, member, pending⟩ := mem_held.mp held
    rw [rows] at member
    obtain ⟨stored, old, rfl⟩ := mem_map.mp member
    exact mem_held.mpr ⟨stored, old, keeps stored _ pending⟩
  exact fun first second others mine mineHeld theirs theirsHeld =>
    apart first second others mine (before _ _ mineHeld) theirs (before _ _ theirsHeld)

theorem commit_apart (apart : Apart related table) : Apart related (table.commit party) := by
  refine settled_apart rfl ?_ apart
  intro _ _ pending
  unfold Versioned.commit at pending
  split at pending
  · split at pending
    · cases pending
    · exact pending
  · exact pending

theorem rollback_apart (apart : Apart related table) : Apart related (table.rollback party) := by
  refine settled_apart rfl ?_ apart
  intro _ _ pending
  unfold Versioned.rollback at pending
  split at pending
  · split at pending
    · cases pending
    · exact pending
  · exact pending

end Apart

section Weakening

variable {Party Key Row : Type*} [DecidableEq Party] {key : Row → Key} {table : Table Party key}
  {party : Party} {related : Row → Row → Prop} {wanted : Row → Bool} {change : Row → Option Row}
  {keeps : ∀ old next, change old = some next → key next = key old}

/-- The new version is in the relation with whatever the old one is in the relation with. -/
def Weakens (related : Row → Row → Prop) (change : Row → Option Row) : Prop :=
  ∀ old next other, change old = some next → related old other → related next other

theorem weakening_every_view
    (symmetric : ∀ first second, related first second → related second first)
    (weakens : Weakens related change) (every : EveryView related table)
    (free : table.blocked party wanted = false) :
    EveryView related (table.write party wanted change keeps) := by
  rw [write_every_view_iff every free, view_write_owner]
  have source : ∀ row, row ∈ (table.view (some party)).filterMap
      (fun version => if wanted version then change version else some version) →
        ∃ old ∈ table.view (some party), ∀ other, related old other → related row other := by
    intro row member
    obtain ⟨old, shown, changed⟩ := mem_filterMap.mp member
    refine ⟨old, shown, ?_⟩
    intro other before
    by_cases here : wanted old = true
    · rw [if_pos here] at changed
      exact weakens old row other changed before
    · rw [if_neg here] at changed
      cases changed
      exact before
  intro first firstShown second secondShown
  obtain ⟨oldFirst, firstBefore, fromFirst⟩ := source first firstShown
  obtain ⟨oldSecond, secondBefore, fromSecond⟩ := source second secondShown
  have related := every (some party) oldFirst firstBefore oldSecond secondBefore
  exact symmetric _ _ (fromSecond first (symmetric _ _ (fromFirst oldSecond related)))

theorem weakening_apart (symmetric : ∀ first second, related first second → related second first)
    (weakens : Weakens related change) (every : EveryView related table)
    (apart : Apart related table) (free : table.blocked party wanted = false) :
    Apart related (table.write party wanted change keeps) := by
  apply write_apart symmetric apart
  intro old shown here next changed theirs held
  exact weakens old next theirs changed (seen_related_to_others every apart free shown here held)

end Weakening

end FinanceTracker.Library.ReadCommitted
