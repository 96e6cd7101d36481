import FinanceTracker.Goal.Service
import FinanceTracker.Analytics.GoalStore

/-!
# Goals and their analytics documents

The use cases of goal-service and its closed budget months change the rows, and
the analytics projector processes the events they publish in their order. Every
write of a goal publishes its full state except the allocation of a closed month,
so a document matches its row exactly while the last write was not an allocation.
-/

namespace FinanceTracker.System.GoalProjection

open Library Binary64 Columns KeyedRows Runs Shared.BudgetEvents Shared.GoalEvents Goal.Service
  Analytics.TransactionStore Analytics.Convergence Analytics.GuardedUpsert Analytics.GoalStore List

inductive Operation where
  | createGoal (accountPort : AccountPort) (accountId : Int) (data : GoalBase) (userId : Int)
  | updateGoal (accountPort : AccountPort) (goalId : Int) (data : GoalBase) (userId : Int)
  | deleteGoal (accountPort : AccountPort) (goalId userId : Int)
  | setDefaultGoal (accountPort : AccountPort) (goalId userId : Int)
  | clearDefaultGoal (accountPort : AccountPort) (goalId userId : Int)
  | monthClosed (event : BudgetMonthClosedEvent)

/-- An operation at a reading of the clock, in microseconds since the epoch. -/
structure Label where
  now : Int
  operation : Operation

/-- `announced` tells of a goal that its row was last written with an event, and
that this event is not older than the earlier ones of the goal. -/
structure GoalRun where
  tables : GoalTables := {}
  announced : Int → Bool := fun _ => true

def fullGoalId (event : GoalEvent) : Option Int :=
  match event.body with
  | .created payload | .updated payload => some payload.goalId
  | _ => none

def goalEventTs (event : GoalEvent) : Int := eventTsMillis event.timestamp

def newestOfGoal (outbox : List GoalEvent) (goalId now : Int) : Bool :=
  outbox.all fun event => fullGoalId event ≠ some goalId || goalEventTs event ≤ eventTsMillis now

def GoalRun.announce (run : GoalRun) (tables : GoalTables) (goalId now : Int) : GoalRun where
  tables := tables
  announced := Function.update run.announced goalId (newestOfGoal run.tables.outbox goalId now)

def GoalRun.written (run : GoalRun) (now : Int)
    (result : Except GoalError (GoalTables × Option Goal)) : GoalRun :=
  match result with
  | .ok (tables, some goal) => run.announce tables goal.id now
  | .ok (tables, none) => { run with tables := tables }
  | .error _ => run

def step (run : GoalRun) (label : Label) : GoalRun :=
  match label.operation with
  | .createGoal accountPort accountId data userId =>
    match createGoal accountPort label.now accountId data userId run.tables with
    | .ok (tables, goal) => run.announce tables goal.id label.now
    | .error _ => run
  | .updateGoal accountPort goalId data userId =>
    run.written label.now (updateGoal accountPort label.now goalId data userId run.tables)
  | .deleteGoal accountPort goalId userId =>
    match deleteGoal accountPort label.now goalId userId run.tables with
    | .ok (tables, _) => { run with tables := tables }
    | .error _ => run
  | .setDefaultGoal accountPort goalId userId =>
    run.written label.now (setDefaultGoal accountPort label.now goalId userId run.tables)
  | .clearDefaultGoal accountPort goalId userId =>
    run.written label.now (clearDefaultGoal accountPort label.now goalId userId run.tables)
  | .monthClosed event =>
    match handleMonthClosed label.now event run.tables with
    | .ok (tables, .allocated goalId) =>
      { tables := tables, announced := Function.update run.announced goalId false }
    | .ok (tables, _) => { run with tables := tables }
    | .error _ => run

def goalRun (labels : List Label) : GoalRun := runFrom step {} labels

/-- The document has the amounts, the status and the name of the row. -/
def Matches (goal : Goal) (fields : GoalFields) : Prop :=
  fields.name = goal.name ∧ fields.targetAmount = toDouble goal.targetAmount ∧
    fields.currentAmount = toDouble goal.currentAmount ∧ fields.status = some goal.status.value

/-- Once all published events are processed, every live goal has its document. -/
def Projects (run : GoalRun) : Prop :=
  ∀ goal ∈ run.tables.goals, goal.deleted = false → ∃ doc fields,
    projectGoals run.tables.outbox goal.id = some doc ∧ doc.isDeleted = false ∧
      doc.required = some fields ∧ Matches goal fields

def AllAnnounced (run : GoalRun) : Prop :=
  ∀ goal ∈ run.tables.goals, goal.deleted = false → run.announced goal.id = true

/-- The clock has not gone back behind a published event. -/
def ClockForward (run : GoalRun) (label : Label) : Prop :=
  ∀ event ∈ run.tables.outbox, event.timestamp ≤ label.now

def eventGoalId (event : GoalEvent) : Option Int :=
  match event.body with
  | .created payload | .updated payload => some payload.goalId
  | .deleted goalId _ => some goalId
  | .reached _ _ _ _ _ => none

theorem project_goals_snoc (outbox : List GoalEvent) (event : GoalEvent) :
    projectGoals (outbox ++ [event]) = projectGoal (projectGoals outbox) event :=
  run_from_snoc _ _ _ _

variable {event : GoalEvent} {goalId now userId nextId : Int} {outbox reached : List GoalEvent}
  {announced : Bool} {goal first second : Goal} {tables : GoalTables} {accountPort : AccountPort}
  {data : GoalBase} {run next : GoalRun} {goals changed : List Goal}
  {documents : Int → Option GoalDoc} {payload : GoalPayload} {ownerId : Int} {result : Option Goal}

theorem project_goal_other (other : eventGoalId event ≠ some goalId) :
    projectGoal documents event goalId = documents goalId := by
  obtain ⟨_, body⟩ := event
  cases body with
  | created | updated | deleted =>
    apply Function.update_of_ne
    rintro rfl
    exact other rfl
  | reached => rfl

def FullEvent (event : GoalEvent) (payload : GoalPayload) : Prop :=
  event.body = .created payload ∨ event.body = .updated payload

theorem full_event_goal (full : FullEvent event payload) :
    fullGoalId event = some payload.goalId ∧ eventGoalId event = some payload.goalId := by
  unfold fullGoalId eventGoalId
  rcases full with created | updated
  · rw [created]
    exact ⟨rfl, rfl⟩
  · rw [updated]
    exact ⟨rfl, rfl⟩

theorem project_goal_full (full : FullEvent event payload) :
    projectGoal documents event payload.goalId =
      some (applyState (goalState payload event.timestamp)
        ((documents payload.goalId).getD {})) := by
  rw [← upsert_eq_apply]
  unfold projectGoal
  rcases full with created | updated
  · rw [created]
    exact Function.update_self _ _ _
  · rw [updated]
    exact Function.update_self _ _ _

/-- The document of a live goal: it is as new as the newest event of the goal and,
while the goal is announced, has the values of the row. -/
structure Tracked (outbox : List GoalEvent) (announced : Bool) (goal : Goal) (doc : GoalDoc)
    (fields : GoalFields) : Prop where
  stored : projectGoals outbox goal.id = some doc
  live : doc.isDeleted = false
  required : doc.required = some fields
  newest : ∃ stamp, doc.eventTs = some stamp ∧
    (∃ event ∈ outbox, fullGoalId event = some goal.id ∧ goalEventTs event = stamp) ∧
    ∀ event ∈ outbox, fullGoalId event = some goal.id → goalEventTs event ≤ stamp
  values : announced = true → Matches goal fields

def IsTracked (outbox : List GoalEvent) (announced : Bool) (goal : Goal) : Prop :=
  ∃ doc fields, Tracked outbox announced goal doc fields

theorem tracked_other (tracked : IsTracked outbox announced goal)
    (other : eventGoalId event ≠ some goal.id) (notFull : fullGoalId event ≠ some goal.id) :
    IsTracked (outbox ++ [event]) announced goal := by
  obtain ⟨doc, fields, stored, live, required, ⟨stamp, guard, attained, newest⟩, values⟩ := tracked
  refine ⟨doc, fields, ?_, live, required, ⟨stamp, guard, ?_, ?_⟩, values⟩
  · rw [project_goals_snoc, project_goal_other other]
    exact stored
  · obtain ⟨earlier, member, rest⟩ := attained
    exact ⟨earlier, mem_append_left _ member, rest⟩
  · intro earlier member full
    rcases mem_snoc.mp member with old | rfl
    · exact newest earlier old full
    · exact absurd full notFull

theorem tracked_unannounced {changed : Goal} (tracked : IsTracked outbox announced goal)
    (same : changed.id = goal.id) :
    IsTracked outbox false changed := by
  obtain ⟨doc, fields, stored, live, required, newest, _⟩ := tracked
  refine ⟨doc, fields, ?_, live, required, ?_, ?_⟩
  · rw [same]
    exact stored
  · rw [same]
    exact newest
  · intro _
    contradiction

/-- The full state of a goal has reached its document. -/
theorem tracked_written (full : FullEvent event (payloadOf goal ownerId)) {doc : GoalDoc}
    (stored : (projectGoals outbox goal.id).getD {} = doc) (live : doc.isDeleted = false)
    (admitted : admits doc.eventTs (eventTsMillis event.timestamp) = true)
    (newest : ∀ earlier ∈ outbox, fullGoalId earlier = some goal.id →
      goalEventTs earlier ≤ goalEventTs event) (announced : Bool) :
    IsTracked (outbox ++ [event]) announced goal := by
  have goalIds := full_event_goal full
  have written : projectGoal (projectGoals outbox) event goal.id =
      some (applyState (goalState (payloadOf goal ownerId) event.timestamp)
        ((projectGoals outbox goal.id).getD {})) := project_goal_full full
  rw [stored, apply_admitted live admitted] at written
  refine ⟨doc.writeFields (goalState (payloadOf goal ownerId) event.timestamp),
    (goalState (payloadOf goal ownerId) event.timestamp).required, ?_, rfl, rfl,
    ⟨goalEventTs event, rfl, ?_, ?_⟩, ?_⟩
  · rw [project_goals_snoc]
    exact written
  · exact ⟨event, mem_append_right _ (mem_singleton_self event), goalIds.1, rfl⟩
  · intro earlier member sameGoal
    rcases mem_snoc.mp member with old | new
    · exact newest earlier old sameGoal
    · rw [new]
  · intro _
    exact ⟨rfl, rfl, rfl, rfl⟩

theorem newest_of_goal_iff : newestOfGoal outbox goalId now = true ↔
      ∀ event ∈ outbox, fullGoalId event = some goalId → goalEventTs event ≤ eventTsMillis now := by
  unfold newestOfGoal
  rw [all_eq_true]
  constructor
  · intro newest event member full
    have checked := newest event member
    simpa [full] using checked
  · intro newest event member
    by_cases full : fullGoalId event = some goalId
    · simpa [full] using newest event member full
    · simp [full]

theorem tracked_created (now ownerId : Int) (undocumented : projectGoals outbox goal.id = none)
    (fresh : ∀ earlier ∈ outbox, fullGoalId earlier ≠ some goal.id) (announced : Bool) :
    IsTracked (outbox ++ [⟨now, .created (payloadOf goal ownerId)⟩]) announced goal := by
  have missing : (projectGoals outbox goal.id).getD {} = {} := by
    rw [undocumented]
    rfl
  apply tracked_written (Or.inl rfl) missing
  · rfl
  · rfl
  · intro earlier member full
    exact absurd full (fresh earlier member)

/-- The event of a written goal reaches its document, or is older than one before it. -/
theorem tracked_announced {existing : Goal} (tracked : IsTracked outbox announced existing)
    (same : existing.id = goal.id) (now ownerId : Int) :
    IsTracked (outbox ++ [⟨now, .updated (payloadOf goal ownerId)⟩])
      (newestOfGoal outbox goal.id now) goal := by
  obtain ⟨doc, fields, stored, live, required, ⟨stamp, guard, attained, newest⟩, _⟩ := tracked
  rw [same] at stored attained newest
  have full : FullEvent ⟨now, .updated (payloadOf goal ownerId)⟩ (payloadOf goal ownerId) :=
    Or.inr rfl
  by_cases admitted : admits doc.eventTs (eventTsMillis now) = true
  · apply tracked_written full (by rw [stored]; rfl) live admitted
    intro earlier member sameGoal
    rw [guard, admits_some] at admitted
    exact Int.le_trans (newest earlier member sameGoal) admitted
  · have refused : projectGoal (projectGoals outbox) ⟨now, .updated (payloadOf goal ownerId)⟩
        goal.id = some (applyState (goalState (payloadOf goal ownerId) now)
          ((projectGoals outbox goal.id).getD {})) := project_goal_full full
    rw [stored, Option.getD_some, apply_refused admitted] at refused
    rw [guard, admits_some] at admitted
    refine ⟨doc, fields, ?_, live, required, ⟨stamp, guard, ?_, ?_⟩, ?_⟩
    · rw [project_goals_snoc]
      exact refused
    · obtain ⟨earlier, member, rest⟩ := attained
      exact ⟨earlier, mem_append_left _ member, rest⟩
    · intro earlier member sameGoal
      rcases mem_snoc.mp member with old | rfl
      · exact newest earlier old sameGoal
      · exact Int.le_of_lt (Int.not_le.mp admitted)
    · intro isNewest
      obtain ⟨earlier, member, sameGoal, reached⟩ := attained
      have bounded := newest_of_goal_iff.mp isNewest earlier member sameGoal
      rw [reached] at bounded
      exact absurd bounded admitted

/-- The document of a goal is behind its row by an allocation. -/
def Behind (outbox : List GoalEvent) (goal : Goal) : Prop :=
  ∃ doc fields earlier, projectGoals outbox goal.id = some doc ∧ doc.required = some fields ∧
    fields.currentAmount = toDouble earlier ∧ earlier < goal.currentAmount

theorem behind_other (behind : Behind outbox goal) (other : eventGoalId event ≠ some goal.id) :
    Behind (outbox ++ [event]) goal := by
  obtain ⟨doc, fields, earlier, stored, rest⟩ := behind
  refine ⟨doc, fields, earlier, ?_, rest⟩
  rw [project_goals_snoc, project_goal_other other]
  exact stored

/-- An allocation leaves the document behind. -/
theorem behind_allocated {changed : Goal} (tracked : IsTracked outbox announced goal)
    (behind : announced = false → Behind outbox goal) (same : changed.id = goal.id)
    (grown : goal.currentAmount < changed.currentAmount) :
    Behind outbox changed := by
  cases announced with
  | true =>
    obtain ⟨doc, fields, stored, _, required, _, values⟩ := tracked
    refine ⟨doc, fields, goal.currentAmount, ?_, required, (values rfl).2.2.1, grown⟩
    rw [same]
    exact stored
  | false =>
    obtain ⟨doc, fields, earlier, stored, required, value, less⟩ := behind rfl
    refine ⟨doc, fields, earlier, ?_, required, value, Nat.lt_trans less grown⟩
    rw [same]
    exact stored

/-- The row without its default flag, which no event carries. -/
def viewOf (goal : Goal) : Goal := { goal with isDefaultSavingsGoal := false }

inductive Effect (run : GoalRun) (now : Int) : GoalRun → Prop where
  | quiet {tables : GoalTables} (goals : tables.goals = run.tables.goals)
      (nextId : tables.nextId = run.tables.nextId) (outbox : tables.outbox = run.tables.outbox) :
      Effect run now { run with tables := tables }
  | created {tables : GoalTables} (goal : Goal) (ownerId : Int)
      (goals : tables.goals = run.tables.goals ++ [goal]) (fresh : goal.id = run.tables.nextId)
      (nextId : tables.nextId = run.tables.nextId + 1)
      (fits : goal.currentAmount < amountLimit)
      (outbox : tables.outbox = run.tables.outbox ++ [⟨now, .created (payloadOf goal ownerId)⟩]) :
      Effect run now (run.announce tables goal.id now)
  | announced {tables : GoalTables} (existing goal : Goal) (ownerId : Int)
      (stored : existing ∈ run.tables.goals) (live : existing.deleted = false)
      (same : existing.id = goal.id) (fits : goal.currentAmount < amountLimit)
      (ids : tables.goals.map Goal.id = run.tables.goals.map Goal.id)
      (rows : ∀ row ∈ tables.goals, row.deleted = false → viewOf row = viewOf goal ∨
        row.id ≠ goal.id ∧ ∃ earlier ∈ run.tables.goals, viewOf earlier = viewOf row)
      (nextId : tables.nextId = run.tables.nextId)
      (outbox : tables.outbox = run.tables.outbox ++ [⟨now, .updated (payloadOf goal ownerId)⟩]) :
      Effect run now (run.announce tables goal.id now)
  | deleted {tables : GoalTables} (goalId ownerId : Int)
      (known : goalId < run.tables.nextId)
      (ids : tables.goals.map Goal.id = run.tables.goals.map Goal.id)
      (rows : ∀ row ∈ tables.goals, row.deleted = false → row.id ≠ goalId ∧ row ∈ run.tables.goals)
      (nextId : tables.nextId = run.tables.nextId)
      (outbox : tables.outbox = run.tables.outbox ++ [⟨now, .deleted goalId ownerId⟩]) :
      Effect run now { run with tables := tables }
  | allocated {tables : GoalTables} (goal : Goal) (amount : Nat) (reached : List GoalEvent)
      (stored : goal ∈ run.tables.goals) (live : goal.deleted = false)
      (grown : goal.currentAmount < amount) (fits : amount < amountLimit)
      (ids : tables.goals.map Goal.id = run.tables.goals.map Goal.id)
      (rows : ∀ row ∈ tables.goals, row = { goal with currentAmount := amount } ∨
        row.id ≠ goal.id ∧ row ∈ run.tables.goals)
      (nextId : tables.nextId = run.tables.nextId)
      (outbox : tables.outbox = run.tables.outbox ++ reached)
      (silent : ∀ event ∈ reached, eventGoalId event = none ∧ fullGoalId event = none) :
      Effect run now
        { tables := tables, announced := Function.update run.announced goal.id false }

theorem get_by_id_mem (found : getById tables goalId = some goal) :
    goal ∈ tables.goals ∧ goal.id = goalId ∧ goal.deleted = false := by
  unfold getById at found
  have selected := List.find?_some found
  rw [Bool.and_eq_true, decide_eq_true_eq, Bool.not_eq_true'] at selected
  exact ⟨mem_of_find?_eq_some found, selected.1, selected.2⟩

theorem owned_goal_stored
    (owned : ownedGoal accountPort goalId userId tables = .ok (some (goal, ownerId))) :
    getById tables goalId = some goal := by
  unfold ownedGoal at owned
  cases found : getById tables goalId with
  | none =>
    rw [found] at owned
    cases owned
  | some =>
    rw [found] at owned
    obtain ⟨answered, _, checked⟩ := bind_eq_ok.mp owned
    by_cases foreign : answered ≠ userId
    · rw [if_pos foreign] at checked
      cases checked
    · rw [if_neg foreign] at checked
      cases checked
      rfl

theorem fits_columns_iff :
    fitsColumns data = true ↔ data.targetAmount < amountLimit ∧ data.currentAmount < amountLimit := by
  simp [fitsColumns]

theorem create_goal_effect {accountId : Int}
    (created : createGoal accountPort now accountId data userId run.tables = .ok (tables, goal)) :
    Effect run now (run.announce tables goal.id now) := by
  unfold createGoal at created
  obtain ⟨ownerId, _, checked⟩ := bind_eq_ok.mp created
  by_cases foreign : ownerId ≠ userId
  · rw [if_pos foreign] at checked
    cases checked
  · rw [if_neg foreign] at checked
    by_cases fits : fitsColumns data = true
    · rw [fits, if_neg (by decide)] at checked
      cases checked
      apply Effect.created _ ownerId
      · rfl
      · rfl
      · rfl
      · exact (fits_columns_iff.mp fits).2
      · rfl
    · rw [Bool.eq_false_iff.mpr fits] at checked
      cases checked

theorem update_goal_effect
    (updated : updateGoal accountPort now goalId data userId run.tables = .ok (tables, result)) :
    Effect run now (run.written now (.ok (tables, result))) := by
  unfold updateGoal at updated
  obtain ⟨owned, answered, updated⟩ := bind_eq_ok.mp updated
  cases owned with
  | none =>
    cases updated
    exact Effect.quiet rfl rfl rfl
  | some owned =>
    obtain ⟨existing, ownerId⟩ := owned
    obtain ⟨stored, ids, live⟩ := get_by_id_mem (owned_goal_stored answered)
    dsimp only at updated
    by_cases fits : fitsColumns data = true
    · rw [fits, if_neg (by decide)] at updated
      cases updated
      apply Effect.announced existing
        { existing with
          name := data.name
          targetAmount := data.targetAmount
          currentAmount := data.currentAmount
          targetDate := data.targetDate
          status := data.status } ownerId stored live rfl
      · exact (fits_columns_iff.mp fits).2
      · apply replace_keys
        intro _ _ here
        rw [here, ← ids]
      · intro row member _
        rcases mem_replace.mp member with ⟨kept, other⟩ | ⟨_, _, _, rfl⟩
        · apply Or.inr
          rw [← ids] at other
          exact ⟨other, row, kept, rfl⟩
        · exact Or.inl rfl
      · rfl
      · rfl
    · rw [Bool.eq_false_iff.mpr fits] at updated
      cases updated

theorem delete_goal_effect {found : Bool}
    (known : ∀ goal ∈ run.tables.goals, goal.id < run.tables.nextId)
    (deleted : deleteGoal accountPort now goalId userId run.tables = .ok (tables, found)) :
    Effect run now { run with tables := tables } := by
  unfold deleteGoal at deleted
  obtain ⟨owned, answered, deleted⟩ := bind_eq_ok.mp deleted
  cases owned with
  | none =>
    cases deleted
    exact Effect.quiet rfl rfl rfl
  | some owned =>
    obtain ⟨existing, ownerId⟩ := owned
    obtain ⟨stored, ids, _⟩ := get_by_id_mem (owned_goal_stored answered)
    cases deleted
    apply Effect.deleted goalId ownerId
    · rw [← ids]
      exact known existing stored
    · apply replace_keys
      intro _ _ _
      rfl
    · intro _ member _
      rcases mem_replace.mp member with ⟨kept, other⟩ | ⟨_, _, _, rfl⟩
      · exact ⟨other, kept⟩
      · contradiction
    · rfl
    · rfl

theorem view_of_cleared (accountId : Int) (goal : Goal) :
    viewOf (clearDefaultOfAccount accountId goal) = viewOf goal := by
  unfold clearDefaultOfAccount
  split <;> rfl

/-- Writing the default flag keeps every row but for the flag. -/
structure KeepsViews (write : Goal → List Goal → List Goal) : Prop where
  ids : ∀ existing goals, (write existing goals).map Goal.id = goals.map Goal.id
  rows : ∀ existing goals, ∀ row ∈ write existing goals, ∃ earlier ∈ goals,
    viewOf earlier = viewOf row

theorem view_of_id (same : viewOf first = viewOf second) : first.id = second.id := by
  have ids : (viewOf first).id = (viewOf second).id := congrArg Goal.id same
  exact ids

theorem view_of_deleted (same : viewOf first = viewOf second) : first.deleted = second.deleted := by
  have flags : (viewOf first).deleted = (viewOf second).deleted := congrArg Goal.deleted same
  exact flags

theorem view_of_amount (same : viewOf first = viewOf second) :
    first.currentAmount = second.currentAmount := by
  have amounts : (viewOf first).currentAmount = (viewOf second).currentAmount :=
    congrArg Goal.currentAmount same
  exact amounts

theorem view_ids {change : Goal → Goal} (views : ∀ goal, viewOf (change goal) = viewOf goal)
    (written : changed = goals.map change) :
    changed.map Goal.id = goals.map Goal.id := by
  rw [written, map_map]
  apply map_congr_left
  intro goal _
  exact view_of_id (views goal)

theorem set_default_keeps_views : KeepsViews fun existing goals =>
    setDefaultSavingsGoal goals existing.id existing.accountId := by
  have views : ∀ goalId accountId goal,
      viewOf (if (clearDefaultOfAccount accountId goal).id = goalId ∧
          (clearDefaultOfAccount accountId goal).deleted = false then
        { clearDefaultOfAccount accountId goal with isDefaultSavingsGoal := true }
      else clearDefaultOfAccount accountId goal) = viewOf goal := by
    intro _ accountId goal
    split
    · exact view_of_cleared accountId goal
    · exact view_of_cleared accountId goal
  constructor
  · intro existing _
    apply view_ids (views existing.id existing.accountId)
    unfold setDefaultSavingsGoal
    rw [map_map]
    rfl
  · intro existing _ _ member
    unfold setDefaultSavingsGoal at member
    rw [map_map] at member
    obtain ⟨earlier, inside, rfl⟩ := mem_map.mp member
    exact ⟨earlier, inside, (views existing.id existing.accountId earlier).symm⟩

theorem clear_default_keeps_views : KeepsViews fun existing goals =>
    clearDefaultSavingsGoal goals existing.id := by
  constructor
  · intro _ _
    apply replace_keys
    intro _ _ _
    rfl
  · intro _ _ row member
    rcases mem_replace.mp member with ⟨kept, _⟩ | ⟨earlier, inside, _, rfl⟩
    · exact ⟨row, kept, rfl⟩
    · exact ⟨earlier, inside, rfl⟩

theorem write_default_effect {write : Goal → List Goal → List Goal} (keeps : KeepsViews write)
    (distinct : DistinctKeys Goal.id run.tables.goals)
    (fits : ∀ goal ∈ run.tables.goals, goal.deleted = false → goal.currentAmount < amountLimit)
    (written : writeDefaultGoal write accountPort now goalId userId run.tables =
      .ok (tables, result)) :
    Effect run now (run.written now (.ok (tables, result))) := by
  unfold writeDefaultGoal at written
  obtain ⟨owned, answered, written⟩ := bind_eq_ok.mp written
  cases owned with
  | none =>
    cases written
    exact Effect.quiet rfl rfl rfl
  | some owned =>
    obtain ⟨existing, ownerId⟩ := owned
    obtain ⟨stored, ids, live⟩ := get_by_id_mem (owned_goal_stored answered)
    dsimp only at written
    cases read : getById { run.tables with goals := write existing run.tables.goals } goalId with
    | none =>
      rw [read] at written
      cases written
    | some goal =>
      rw [read] at written
      cases written
      obtain ⟨goalIn, goalId, goalLive⟩ := get_by_id_mem read
      have distinctWritten : DistinctKeys Goal.id (write existing run.tables.goals) := by
        unfold DistinctKeys
        rw [keeps.ids]
        exact distinct
      apply Effect.announced existing goal ownerId stored live (ids.trans goalId.symm)
      · obtain ⟨earlier, inside, same⟩ := keeps.rows existing run.tables.goals goal goalIn
        rw [← view_of_amount same]
        exact fits earlier inside ((view_of_deleted same).trans goalLive)
      · exact keeps.ids existing run.tables.goals
      · intro row member _
        by_cases here : row.id = goal.id
        · apply Or.inl
          rw [inj_on_of_nodup_map distinctWritten member goalIn here]
        · exact Or.inr ⟨here, keeps.rows existing run.tables.goals row member⟩
      · rfl
      · rfl

theorem reached_silent (now : Int) (goal : Goal) (event : BudgetMonthClosedEvent) :
    ∀ reached ∈ reachedEvents now goal event,
      eventGoalId reached = none ∧ fullGoalId reached = none := by
  intro _ member
  unfold reachedEvents at member
  cases surplus : event.surplus with
  | finite =>
    rw [surplus] at member
    dsimp only at member
    split at member
    · rw [mem_singleton.mp member]
      exact ⟨rfl, rfl⟩
    · contradiction
  | infinity | nan =>
    rw [surplus] at member
    contradiction

def GoalRun.monthHandled (run : GoalRun) (tables : GoalTables) : HandlingStatus → GoalRun
  | .allocated goalId =>
    { tables := tables, announced := Function.update run.announced goalId false }
  | _ => { run with tables := tables }

theorem month_closed_effect {event : BudgetMonthClosedEvent} {status : HandlingStatus}
    (handled : handleMonthClosed now event run.tables = .ok (tables, status)) :
    Effect run now (run.monthHandled tables status) := by
  cases handle_month_closed_handled handled with
  | ignored | duplicate => exact Effect.quiet rfl rfl rfl
  | unallocated tables amount reason status notZero free checked writes notAllocated =>
    subst writes
    cases status with
    | allocated goalId => exact absurd rfl (notAllocated goalId)
    | _ => exact Effect.quiet rfl rfl rfl
  | allocated tables goal amount incremented notZero free chosen incomplete checked sum writes =>
    subst writes
    obtain ⟨stored, live⟩ := default_goal_mem chosen
    obtain ⟨_, finite, _, fits⟩ := incremented_amount_ok_iff.mp sum
    apply Effect.allocated goal incremented (reachedEvents now goal event) stored live _ fits
    · apply replace_keys
      intro _ _ here
      exact here.symm
    · intro _ member
      rcases mem_replace.mp member with ⟨kept, other⟩ | ⟨_, _, _, rfl⟩
      · exact Or.inr ⟨other, kept⟩
      · exact Or.inl rfl
    · rfl
    · rfl
    · exact reached_silent now goal event
    · obtain ⟨_, _, same, rfl, positive, _⟩ := entry_amount_ok_iff.mp checked
      rw [finite] at sum same
      cases same
      exact incremented_amount_grows sum positive

structure GoalInv (run : GoalRun) : Prop where
  distinct : DistinctKeys Goal.id run.tables.goals
  known : ∀ goal ∈ run.tables.goals, goal.id < run.tables.nextId
  fits : ∀ goal ∈ run.tables.goals, goal.deleted = false → goal.currentAmount < amountLimit
  undocumented : ∀ goalId, run.tables.nextId ≤ goalId → projectGoals run.tables.outbox goalId = none
  eventsKnown : ∀ event ∈ run.tables.outbox, ∀ goalId, fullGoalId event = some goalId →
    goalId < run.tables.nextId
  tracked : ∀ goal ∈ run.tables.goals, goal.deleted = false →
    IsTracked run.tables.outbox (run.announced goal.id) goal

theorem goal_inv_start : GoalInv {} := by
  refine ⟨nodup_nil, ?_, ?_, ?_, ?_, ?_⟩
  · intro _ _
    contradiction
  · intro _ _
    contradiction
  · intro _ _
    rfl
  · intro _ _
    contradiction
  · intro _ _
    contradiction

theorem tracked_view (same : viewOf first = viewOf second)
    (tracked : IsTracked outbox announced first) :
    IsTracked outbox announced second := by
  obtain ⟨doc, fields, stored, live, required, newest, values⟩ := tracked
  have view : IsTracked outbox announced (viewOf first) :=
    ⟨doc, fields, stored, live, required, newest, values⟩
  rw [same] at view
  obtain ⟨doc, fields, stored, live, required, newest, values⟩ := view
  exact ⟨doc, fields, stored, live, required, newest, values⟩

theorem behind_view (same : viewOf first = viewOf second) (behind : Behind outbox first) :
    Behind outbox second := by
  have view : Behind outbox (viewOf first) := behind
  rw [same] at view
  exact view

theorem tracked_silent
    (silent : ∀ event ∈ reached, eventGoalId event = none ∧ fullGoalId event = none)
    (tracked : IsTracked outbox announced goal) :
    IsTracked (outbox ++ reached) announced goal := by
  induction reached generalizing outbox with
  | nil =>
    rw [append_nil]
    exact tracked
  | cons event reached ih =>
    have here := silent event mem_cons_self
    rw [← singleton_append, ← append_assoc]
    apply ih fun other member => silent other (mem_cons_of_mem _ member)
    apply tracked_other tracked
    · rw [here.1]
      exact nofun
    · rw [here.2]
      exact nofun

theorem project_silent
    (silent : ∀ event ∈ reached, eventGoalId event = none ∧ fullGoalId event = none) :
    projectGoals (outbox ++ reached) = projectGoals outbox := by
  induction reached generalizing outbox with
  | nil => rw [append_nil]
  | cons event reached ih =>
    have here := silent event mem_cons_self
    rw [← singleton_append, ← append_assoc,
      ih fun other member => silent other (mem_cons_of_mem _ member), project_goals_snoc]
    funext goalId
    apply project_goal_other
    rw [here.1]
    exact nofun

theorem known_of_ids (ids : changed.map Goal.id = goals.map Goal.id)
    (known : ∀ goal ∈ goals, goal.id < nextId) : ∀ goal ∈ changed, goal.id < nextId := by
  intro goal member
  have inside : goal.id ∈ goals.map Goal.id := by
    rw [← ids]
    exact mem_map_of_mem member
  obtain ⟨earlier, earlierIn, same⟩ := mem_map.mp inside
  rw [← same]
  exact known earlier earlierIn

theorem distinct_of_ids (ids : changed.map Goal.id = goals.map Goal.id)
    (distinct : DistinctKeys Goal.id goals) :
    DistinctKeys Goal.id changed := by
  unfold DistinctKeys
  rw [ids]
  exact distinct

/-- An event about a known goal leaves the ids from `nextId` on alone. -/
theorem undocumented_snoc (inv : GoalInv run) (about : eventGoalId event = some goalId)
    (known : goalId < nextId) (grown : run.tables.nextId ≤ nextId) :
    ∀ other, nextId ≤ other → projectGoals (run.tables.outbox ++ [event]) other = none := by
  intro other beyond
  rw [project_goals_snoc, project_goal_other]
  · exact inv.undocumented other (Int.le_trans grown beyond)
  · rw [about]
    intro same
    cases same
    omega

theorem events_known_snoc (inv : GoalInv run)
    (about : ∀ other, fullGoalId event = some other → other = goalId) (known : goalId < nextId)
    (grown : run.tables.nextId ≤ nextId) :
    ∀ stored ∈ run.tables.outbox ++ [event], ∀ other, fullGoalId stored = some other →
      other < nextId := by
  intro stored member other full
  rcases mem_snoc.mp member with old | rfl
  · exact Int.lt_of_lt_of_le (inv.eventsKnown stored old other full) grown
  · rw [about other full]
    exact known

theorem created_unknown (inv : GoalInv run) (fresh : goal.id = run.tables.nextId) :
    ∀ stored ∈ run.tables.goals, stored.id ≠ goal.id := by
  intro stored member _
  have bounded := inv.known stored member
  omega

theorem effect_keeps_ids (inv : GoalInv run) (effect : Effect run now next) :
    DistinctKeys Goal.id next.tables.goals ∧
      ∀ goal ∈ next.tables.goals, goal.id < next.tables.nextId := by
  cases effect with
  | quiet goals nextId =>
    dsimp only
    rw [goals, nextId]
    exact ⟨inv.distinct, inv.known⟩
  | created goal ownerId goals fresh nextId =>
    dsimp only [GoalRun.announce]
    rw [goals, nextId]
    refine ⟨append_distinct inv.distinct (created_unknown inv fresh), ?_⟩
    intro stored member
    rcases mem_snoc.mp member with old | rfl
    · have bounded := inv.known stored old
      omega
    · omega
  | announced existing goal ownerId stored live same fits ids rows nextId =>
    dsimp only [GoalRun.announce]
    rw [nextId]
    exact ⟨distinct_of_ids ids inv.distinct, known_of_ids ids inv.known⟩
  | deleted goalId ownerId known ids rows nextId
  | allocated goal amount reached stored live grown fits ids rows nextId =>
    dsimp only
    rw [nextId]
    exact ⟨distinct_of_ids ids inv.distinct, known_of_ids ids inv.known⟩

theorem effect_keeps_fits (inv : GoalInv run) (effect : Effect run now next) :
    ∀ goal ∈ next.tables.goals, goal.deleted = false → goal.currentAmount < amountLimit := by
  cases effect with
  | quiet goals =>
    dsimp only
    rw [goals]
    exact inv.fits
  | created goal ownerId goals fresh nextId fits =>
    dsimp only [GoalRun.announce]
    rw [goals]
    intro stored member alive
    rcases mem_snoc.mp member with old | rfl
    · exact inv.fits stored old alive
    · exact fits
  | announced existing goal ownerId stored live same fits ids rows =>
    intro row member alive
    rcases rows row member alive with view | ⟨_, earlier, earlierIn, view⟩
    · rw [view_of_amount view]
      exact fits
    · rw [← view_of_amount view]
      exact inv.fits earlier earlierIn ((view_of_deleted view).trans alive)
  | deleted goalId ownerId known ids rows =>
    intro row member alive
    exact inv.fits row (rows row member alive).2 alive
  | allocated goal amount reached stored live grown fits ids rows =>
    intro row member alive
    rcases rows row member with rfl | ⟨_, kept⟩
    · exact fits
    · exact inv.fits row kept alive

/-- The events stay about known goals, and unknown goals stay without a document. -/
theorem effect_keeps_outbox (inv : GoalInv run) (effect : Effect run now next) :
    (∀ goalId, next.tables.nextId ≤ goalId → projectGoals next.tables.outbox goalId = none) ∧
      ∀ event ∈ next.tables.outbox, ∀ goalId, fullGoalId event = some goalId →
        goalId < next.tables.nextId := by
  cases effect with
  | quiet goals nextId outbox =>
    dsimp only
    rw [outbox, nextId]
    exact ⟨inv.undocumented, inv.eventsKnown⟩
  | @created tables goal ownerId goals fresh nextId fits outbox =>
    dsimp only [GoalRun.announce]
    rw [outbox, nextId]
    refine ⟨undocumented_snoc inv (full_event_goal (Or.inl rfl)).2
      (show goal.id < _ by omega) (by omega), ?_⟩
    apply events_known_snoc inv _ (show goal.id < _ by omega) (by omega)
    intro _ full
    cases full
    rfl
  | @announced tables existing goal ownerId stored live same fits ids rows nextId outbox =>
    have known : goal.id < run.tables.nextId := by
      rw [← same]
      exact inv.known existing stored
    dsimp only [GoalRun.announce]
    rw [outbox, nextId]
    refine ⟨undocumented_snoc inv (full_event_goal (Or.inr rfl)).2 (show goal.id < _ from known)
      (Int.le_refl _), ?_⟩
    apply events_known_snoc inv _ known (Int.le_refl _)
    intro _ full
    cases full
    rfl
  | deleted goalId ownerId known ids rows nextId outbox =>
    dsimp only
    rw [outbox, nextId]
    refine ⟨undocumented_snoc inv rfl known (Int.le_refl _), ?_⟩
    apply events_known_snoc inv _ known (Int.le_refl _)
    intro _ full
    cases full
  | allocated goal amount reached stored live grown fits ids rows nextId outbox silent =>
    dsimp only
    rw [outbox, nextId, project_silent silent]
    refine ⟨inv.undocumented, ?_⟩
    intro event member other full
    rcases mem_append.mp member with old | new
    · exact inv.eventsKnown event old other full
    · rw [(silent event new).2] at full
      contradiction

theorem effect_keeps_tracked (inv : GoalInv run) (effect : Effect run now next) :
    ∀ goal ∈ next.tables.goals, goal.deleted = false →
      IsTracked next.tables.outbox (next.announced goal.id) goal := by
  cases effect with
  | quiet goals nextId outbox =>
    dsimp only
    rw [goals, outbox]
    exact inv.tracked
  | created goal ownerId goals fresh nextId fits outbox =>
    have unknown := created_unknown inv fresh
    dsimp only [GoalRun.announce]
    rw [goals, outbox]
    intro stored member alive
    rcases mem_snoc.mp member with old | new
    · rw [Function.update_of_ne (unknown stored old)]
      apply tracked_other (inv.tracked stored old alive)
      · exact fun same => unknown stored old (Option.some.inj same).symm
      · exact fun same => unknown stored old (Option.some.inj same).symm
    · rw [new]
      apply tracked_created
      · exact inv.undocumented goal.id (by omega)
      · intro earlier earlierIn full
        have bounded := inv.eventsKnown earlier earlierIn goal.id full
        omega
  | announced existing goal ownerId stored live same fits ids rows nextId outbox =>
    dsimp only [GoalRun.announce]
    rw [outbox]
    intro row member alive
    rcases rows row member alive with view | ⟨other, earlier, earlierIn, view⟩
    · rw [view_of_id view, Function.update_self]
      apply tracked_view view.symm
      exact tracked_announced (inv.tracked existing stored live) same now ownerId
    · rw [Function.update_of_ne other]
      apply tracked_view view
      rw [← view_of_id view] at other ⊢
      apply tracked_other
      · exact inv.tracked earlier earlierIn ((view_of_deleted view).trans alive)
      · exact fun sameGoal => other (Option.some.inj sameGoal).symm
      · exact fun sameGoal => other (Option.some.inj sameGoal).symm
  | deleted goalId ownerId known ids rows nextId outbox =>
    dsimp only
    rw [outbox]
    intro row member alive
    obtain ⟨other, kept⟩ := rows row member alive
    apply tracked_other (inv.tracked row kept alive)
    · exact fun sameGoal => other (Option.some.inj sameGoal).symm
    · exact nofun
  | allocated goal amount reached stored live grown fits ids rows nextId outbox silent =>
    dsimp only
    rw [outbox]
    intro row member alive
    apply tracked_silent silent
    rcases rows row member with rfl | ⟨other, kept⟩
    · rw [Function.update_self]
      exact tracked_unannounced (inv.tracked goal stored live) rfl
    · rw [Function.update_of_ne other]
      exact inv.tracked row kept alive

theorem effect_keeps_inv (inv : GoalInv run) (effect : Effect run now next) : GoalInv next where
  distinct := (effect_keeps_ids inv effect).1
  known := (effect_keeps_ids inv effect).2
  fits := effect_keeps_fits inv effect
  undocumented := (effect_keeps_outbox inv effect).1
  eventsKnown := (effect_keeps_outbox inv effect).2
  tracked := effect_keeps_tracked inv effect

theorem step_effect (inv : GoalInv run) (label : Label) :
    Effect run label.now (step run label) := by
  have unchanged : Effect run label.now run := Effect.quiet rfl rfl rfl
  obtain ⟨now, operation⟩ := label
  unfold step
  cases operation with
  | createGoal accountPort accountId data userId =>
    dsimp only
    split
    · rename_i tables goal created
      exact create_goal_effect created
    · exact unchanged
  | updateGoal accountPort goalId data userId =>
    dsimp only
    cases result : updateGoal accountPort now goalId data userId run.tables with
    | error => exact unchanged
    | ok => exact update_goal_effect result
  | deleteGoal accountPort goalId userId =>
    dsimp only
    split
    · rename_i tables found deleted
      exact delete_goal_effect inv.known deleted
    · exact unchanged
  | setDefaultGoal accountPort goalId userId =>
    dsimp only
    cases result : setDefaultGoal accountPort now goalId userId run.tables with
    | error => exact unchanged
    | ok =>
      exact write_default_effect set_default_keeps_views inv.distinct inv.fits result
  | clearDefaultGoal accountPort goalId userId =>
    dsimp only
    cases result : clearDefaultGoal accountPort now goalId userId run.tables with
    | error => exact unchanged
    | ok =>
      exact write_default_effect clear_default_keeps_views inv.distinct inv.fits result
  | monthClosed event =>
    dsimp only
    cases result : handleMonthClosed now event run.tables with
    | error => exact unchanged
    | ok written =>
      obtain ⟨_, status⟩ := written
      have handled := month_closed_effect result
      cases status <;> exact handled

theorem goal_run_inv (labels : List Label) : GoalInv (goalRun labels) := by
  unfold goalRun
  apply run_keeps step
  · intro _ label inv
    exact effect_keeps_inv inv (step_effect inv label)
  · exact goal_inv_start

/-- Each goal has the live document of its newest event, which an allocation may leave behind. -/
def Documented (run : GoalRun) : Prop :=
  ∀ goal ∈ run.tables.goals, goal.deleted = false →
    IsTracked run.tables.outbox (run.announced goal.id) goal

theorem runs_documented (labels : List Label) : Documented (goalRun labels) :=
  (goal_run_inv labels).tracked

/-- A goal that is not announced is ahead of its document. -/
def UnannouncedBehind (run : GoalRun) : Prop :=
  ∀ goal ∈ run.tables.goals, goal.deleted = false → run.announced goal.id = false →
    Behind run.tables.outbox goal

theorem behind_silent
    (silent : ∀ event ∈ reached, eventGoalId event = none ∧ fullGoalId event = none)
    (behind : Behind outbox goal) : Behind (outbox ++ reached) goal := by
  unfold Behind at behind ⊢
  rw [project_silent silent]
  exact behind

theorem effect_keeps_behind (inv : GoalInv run) (behind : UnannouncedBehind run)
    (forward : ∀ event ∈ run.tables.outbox, event.timestamp ≤ now) (effect : Effect run now next) :
    UnannouncedBehind next := by
  have newest : ∀ goalId, newestOfGoal run.tables.outbox goalId now = true := by
    intro _
    apply newest_of_goal_iff.mpr
    intro event member _
    exact event_ts_millis_mono (forward event member)
  cases effect with
  | @quiet tables goals nextId outbox =>
    unfold UnannouncedBehind
    dsimp only
    rw [goals, outbox]
    exact behind
  | @created tables goal ownerId goals fresh nextId fits outbox =>
    unfold UnannouncedBehind GoalRun.announce
    dsimp only
    rw [goals, outbox, newest]
    intro stored member alive unannounced
    by_cases here : stored.id = goal.id
    · rw [here, Function.update_self] at unannounced
      contradiction
    · rw [Function.update_of_ne here] at unannounced
      rcases mem_snoc.mp member with old | rfl
      · apply behind_other (behind stored old alive unannounced)
        exact fun same => here (Option.some.inj same).symm
      · contradiction
  | @announced tables existing goal ownerId stored live same fits ids rows nextId outbox =>
    unfold UnannouncedBehind GoalRun.announce
    dsimp only
    rw [outbox, newest]
    intro row member alive unannounced
    rcases rows row member alive with view | ⟨other, earlier, earlierIn, view⟩
    · rw [view_of_id view, Function.update_self] at unannounced
      contradiction
    · rw [Function.update_of_ne other] at unannounced
      apply behind_view view
      rw [← view_of_id view] at other unannounced
      apply behind_other
      · exact behind earlier earlierIn ((view_of_deleted view).trans alive) unannounced
      · exact fun sameGoal => other (Option.some.inj sameGoal).symm
  | @deleted tables goalId ownerId known ids rows nextId outbox =>
    unfold UnannouncedBehind
    dsimp only
    rw [outbox]
    intro row member alive unannounced
    obtain ⟨other, kept⟩ := rows row member alive
    apply behind_other (behind row kept alive unannounced)
    exact fun same => other (Option.some.inj same).symm
  | @allocated tables goal amount reached stored live grown fits ids rows nextId outbox silent =>
    unfold UnannouncedBehind
    dsimp only
    rw [outbox]
    intro row member alive unannounced
    apply behind_silent silent
    rcases rows row member with rfl | ⟨other, kept⟩
    · exact behind_allocated (inv.tracked goal stored live) (behind goal stored live) rfl grown
    · rw [Function.update_of_ne other] at unannounced
      exact behind row kept alive unannounced

structure GoalForward (run : GoalRun) : Prop where
  inv : GoalInv run
  behind : UnannouncedBehind run

theorem goal_run_forward (labels : List Label) (forward : AllSteps step ClockForward {} labels) :
    GoalForward (goalRun labels) := by
  unfold goalRun
  apply allowed_run_keeps step _ _ labels forward
  · intro _ label clock kept
    have effect := step_effect kept.inv label
    exact ⟨effect_keeps_inv kept.inv effect, effect_keeps_behind kept.inv kept.behind clock effect⟩
  · refine ⟨goal_inv_start, ?_⟩
    intro _ _
    contradiction

theorem to_double_lt {earlier later : Nat} (less : earlier < later) (fits : later < amountLimit) :
    toDouble earlier < toDouble later := by
  have next : (earlier : ℚ) + 1 ≤ later := by exact_mod_cast less
  have limit : (later : ℚ) < 10 ^ 12 := by exact_mod_cast fits
  unfold toDouble fromCents
  apply nearest_double_lt 34
  · positivity
  · have power : (2 : ℚ) ^ (34 : ℤ) = 17179869184 := by norm_num
    rw [power]
    linarith
  · have power : (2 : ℚ) ^ ((34 : ℤ) - 53) = 1 / 524288 := by norm_num
    rw [power]
    linarith

theorem projects_of_announced (inv : GoalInv run) (announced : AllAnnounced run) :
    Projects run := by
  intro goal member alive
  obtain ⟨doc, fields, stored, live, required, _, values⟩ := inv.tracked goal member alive
  exact ⟨doc, fields, stored, live, required, values (announced goal member alive)⟩

theorem announced_of_projects (kept : GoalForward run) (projects : Projects run) :
    AllAnnounced run := by
  intro goal member alive
  by_contra unannounced
  obtain ⟨_, _, _, stored, required, value, less⟩ :=
    kept.behind goal member alive (Bool.eq_false_iff.mpr unannounced)
  obtain ⟨_, _, otherStored, _, otherRequired, matched⟩ :=
    projects goal member alive
  rw [stored] at otherStored
  cases otherStored
  rw [required] at otherRequired
  cases otherRequired
  have apart := to_double_lt less (kept.inv.fits goal member alive)
  rw [← value, ← matched.2.2.1] at apart
  exact absurd apart (lt_irrefl _)

theorem goals_project_iff (labels : List Label) :
    (AllAnnounced (goalRun labels) → Projects (goalRun labels)) ∧
      (AllSteps step ClockForward {} labels →
        (Projects (goalRun labels) ↔ AllAnnounced (goalRun labels))) := by
  constructor
  · exact projects_of_announced (goal_run_inv labels)
  · intro forward
    constructor
    · exact announced_of_projects (goal_run_forward labels forward)
    · exact projects_of_announced (goal_run_inv labels)

def householdGoal : GoalBase where
  name := some "Ferie"
  targetAmount := 10000

def defaultGoalLabels : List Label :=
  [⟨1000000, .createGoal (fun _ => .ok 7) 1 householdGoal 7⟩,
    ⟨2000000, .setDefaultGoal (fun _ => .ok 7) 1 7⟩]

/-- A month of account 1 closes with a surplus of 50.00. -/
def allocatedLabels : List Label :=
  defaultGoalLabels ++ [⟨3000000, .monthClosed closedMay⟩]

theorem default_goal_projects : Projects (goalRun defaultGoalLabels) := by
  have forward : AllSteps step ClockForward {} defaultGoalLabels := by
    unfold defaultGoalLabels AllSteps ClockForward
    decide +kernel
  apply ((goals_project_iff defaultGoalLabels).2 forward).mpr
  unfold AllAnnounced
  decide +kernel

/-- The surplus is on the row and no event tells of it. -/
theorem allocation_is_not_projected : ¬ ∀ labels, Projects (goalRun labels) := by
  intro always
  have saved : (1, false, 5000) ∈ (goalRun allocatedLabels).tables.goals.map (fun goal =>
      (goal.id, goal.deleted, goal.currentAmount)) := by
    decide +kernel
  have shown : (projectGoals (goalRun allocatedLabels).tables.outbox 1).map (fun doc =>
      doc.required.map GoalFields.currentAmount) = some (some 0) := by
    decide +kernel
  have positive : 0 < toDouble 5000 := by decide +kernel
  obtain ⟨goal, member, columns⟩ := mem_map.mp saved
  rw [Prod.mk.injEq, Prod.mk.injEq] at columns
  obtain ⟨_, fields, stored, _, required, matched⟩ :=
    always allocatedLabels goal member columns.2.1
  rw [columns.1] at stored
  rw [stored, Option.map_some, required] at shown
  have current : fields.currentAmount = 0 := Option.some.inj (Option.some.inj shown)
  rw [matched.2.2.1, columns.2.2] at current
  rw [current] at positive
  exact absurd positive (lt_irrefl 0)

end FinanceTracker.System.GoalProjection
