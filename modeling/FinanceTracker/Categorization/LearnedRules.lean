import FinanceTracker.Library.Columns
import FinanceTracker.Library.KeyedRows
import FinanceTracker.Library.Runs
import FinanceTracker.Library.Texts

/-!
# Learned rules

The rules table of categorization-service and the consumer that turns category
corrections into learned rules, as instances that overlap at their statements. A write
and its commit are one step: whoever would wait for a row or a key sees the other's
commit. A violated rule key is raised by the flush in `_handle`, before the commit
that is guarded, so it counts as a failure of the handler.
-/

namespace FinanceTracker.Categorization.LearnedRules

open Library Columns KeyedRows Texts

/-- What Python knows of letters. -/
structure CharTables where
  lower : String → String
  isAlpha : Char → Bool

def transliterate (char : Char) : List Char :=
  if char = 'ø' then ['o', 'e']
  else if char = 'æ' then ['a', 'e']
  else if char = 'å' then ['a', 'a']
  else [char]

def maxPatternLength : ℕ := 200

def normalizeMerchantPattern (tables : CharTables) (description : String) : String :=
  let text := (tables.lower description).toList.flatMap transliterate
  let tokens := (text.splitOnP isSpace).filter fun token => token.any tables.isAlpha
  strip (String.ofList (([' '].intercalate tokens).take maxPatternLength))

inductive PatternType where
  | keyword
  | regex
  | merchant
  | amountRange
  deriving DecidableEq

structure CategorizationRule where
  id : ℕ
  userId : Option ℤ
  priority : ℤ
  patternType : PatternType
  patternValue : String
  matchesSubcategoryId : ℤ
  active : Bool
  deriving DecidableEq

/-- The columns of `uq_rules_user_pattern`. -/
structure RuleKey where
  userId : Option ℤ
  patternType : PatternType
  patternValue : String
  deriving DecidableEq

def CategorizationRule.key (rule : CategorizationRule) : RuleKey where
  userId := rule.userId
  patternType := rule.patternType
  patternValue := rule.patternValue

structure RuleTable where
  rows : List CategorizationRule
  nextId : ℕ
  fresh : ∀ rule ∈ rows, rule.id < nextId
  distinct : DistinctKeys CategorizationRule.id rows
  unique : ∀ first ∈ rows, ∀ second ∈ rows, first.userId ≠ none → first.key = second.key →
    first = second

/-- What a correction teaches. -/
structure Lesson where
  userId : ℤ
  pattern : String
  subcategoryId : ℤ
  deriving DecidableEq

def learnedRulePriority : ℤ := 10

def Lesson.key (lesson : Lesson) : RuleKey where
  userId := some lesson.userId
  patternType := .merchant
  patternValue := lesson.pattern

def Lesson.rule (lesson : Lesson) (id : ℕ) : CategorizationRule where
  id := id
  userId := some lesson.userId
  priority := learnedRulePriority
  patternType := .merchant
  patternValue := lesson.pattern
  matchesSubcategoryId := lesson.subcategoryId
  active := true

def RuleTable.findByUserAndPattern (rules : RuleTable) (lesson : Lesson) :
    Option CategorizationRule :=
  rules.rows.find? fun rule => rule.key = lesson.key

def RuleTable.create (rules : RuleTable) (lesson : Lesson) : Option RuleTable :=
  if taken : ∃ rule ∈ rules.rows, rule.key = lesson.key then none
  else some {
    rows := rules.rows ++ [lesson.rule rules.nextId]
    nextId := rules.nextId + 1
    fresh := by
      intro rule member
      rcases List.mem_append.mp member with stored | new
      · exact Nat.lt_succ_of_lt (rules.fresh rule stored)
      · rw [List.mem_singleton.mp new]
        exact Nat.lt_succ_self _
    distinct := append_distinct rules.distinct fun rule member =>
      Nat.ne_of_lt (rules.fresh rule member)
    unique := by
      have isNew {rule : CategorizationRule} (member : rule ∈ [lesson.rule rules.nextId]) :
          rule = lesson.rule rules.nextId := List.mem_singleton.mp member
      intro first firstMember second secondMember owned same
      rcases List.mem_append.mp firstMember with stored | new
      · rcases List.mem_append.mp secondMember with alsoStored | new
        · exact rules.unique first stored second alsoStored owned same
        · rw [isNew new] at same
          exact absurd ⟨first, stored, same⟩ taken
      · rcases List.mem_append.mp secondMember with stored | alsoNew
        · rw [isNew new] at same
          exact absurd ⟨second, stored, same.symm⟩ taken
        · rw [isNew new, isNew alsoNew] }

/-- The row after the flush of a session that has loaded the row and retargeted it. -/
def retargeted (loaded : CategorizationRule) (lesson : Lesson) (stored : CategorizationRule) :
    CategorizationRule :=
  { stored with
    matchesSubcategoryId := writeColumn loaded.matchesSubcategoryId lesson.subcategoryId
      stored.matchesSubcategoryId
    active := writeColumn loaded.active true stored.active }

theorem retarget_unique {rules : RuleTable} (loaded : CategorizationRule) (lesson : Lesson) :
    ∀ first ∈ replace CategorizationRule.id rules.rows loaded.id (retargeted loaded lesson),
      ∀ second ∈ replace CategorizationRule.id rules.rows loaded.id (retargeted loaded lesson),
        first.userId ≠ none → first.key = second.key → first = second := by
  intro _ firstMember _ secondMember owned same
  obtain ⟨old, oldMember, rfl⟩ := List.mem_map.mp firstMember
  obtain ⟨other, otherMember, rfl⟩ := List.mem_map.mp secondMember
  have keptKey (rule : CategorizationRule) : (if rule.id = loaded.id then
      retargeted loaded lesson rule else rule).key = rule.key := by
    split <;> rfl
  have keptUser : (if old.id = loaded.id then
      retargeted loaded lesson old else old).userId = old.userId := by
    split <;> rfl
  rw [keptUser] at owned
  rw [keptKey, keptKey] at same
  rw [rules.unique old oldMember other otherMember owned same]

/-- `update` of a loaded row; none where it is gone. -/
def RuleTable.update (rules : RuleTable) (loaded : CategorizationRule) (lesson : Lesson) :
    Option RuleTable :=
  if ∃ rule ∈ rules.rows, rule.id = loaded.id then
    some {
      rows := replace CategorizationRule.id rules.rows loaded.id (retargeted loaded lesson)
      nextId := rules.nextId
      fresh := by
        intro rule member
        rcases mem_replace.mp member with ⟨stored, _⟩ | ⟨old, stored, _, rfl⟩
        · exact rules.fresh rule stored
        · exact rules.fresh old stored
      distinct := replace_distinct rules.distinct fun _ _ _ => rfl
      unique := retarget_unique loaded lesson }
  else none

/-- The payload of `transaction.category_corrected`; an absent text is empty. -/
structure CategoryCorrected where
  correlationId : String
  userId : Option ℤ
  subcategoryId : Option ℤ
  description : Option String
  deriving DecidableEq

structure Message where
  event : CategoryCorrected
  retryCount : ℕ := 0
  deriving DecidableEq

/-- What can be learned from a correction before the taxonomy is asked. -/
def lessonOf (tables : CharTables) (event : CategoryCorrected) : Option Lesson :=
  let pattern := normalizeMerchantPattern tables (event.description.getD "")
  match event.userId, event.subcategoryId with
  | some userId, some subcategoryId =>
    if userId = 0 ∨ pattern = "" ∨ subcategoryId = 0 then none
    else some { userId := userId, pattern := pattern, subcategoryId := subcategoryId }
  | _, _ => none

/-- A lesson with the rule that was found for it. -/
structure Upsert where
  lesson : Lesson
  existing : Option CategorizationRule
  deriving DecidableEq

/-- How far an instance has come with its delivery. -/
inductive Phase where
  | idle
  | received (message : Message)
  | unprocessed (message : Message)
  | targeted (message : Message) (lesson : Lesson)
  | decided (message : Message) (upsert : Option Upsert)
  | returned (message : Message)
  deriving DecidableEq

def Phase.message : Phase → Option Message
  | .idle => none
  | .received message => some message
  | .unprocessed message => some message
  | .targeted message _ => some message
  | .decided message _ => some message
  | .returned message => some message

/-- `published` holds the corrections in the order in which they were made. -/
structure State where
  rules : RuleTable
  subcategories : List ℤ
  inbox : List String := []
  published : List CategoryCorrected := []
  queue : List Message := []
  workers : List Phase

/-- A failed delivery may lose the acknowledgement that follows its republication; a
delivery that was not acknowledged returns to some position of the queue. -/
inductive Label where
  | publish (event : CategoryCorrected)
  | publishAgain (index : ℕ)
  | take (worker : ℕ)
  | advance (worker : ℕ)
  | fail (worker : ℕ) (returnedTo : Option ℕ)
  | crash (worker : ℕ) (returnedTo : ℕ)

def maxRetries : ℕ := 3

def State.setWorker (state : State) (worker : ℕ) (phase : Phase) : State :=
  { state with workers := state.workers.set worker phase }

def isDuplicate (state : State) (event : CategoryCorrected) : Bool :=
  event.correlationId ≠ "" && state.inbox.contains event.correlationId

def putBack (queue : List Message) (message : Message) : Option ℕ → List Message
  | some position => queue.insertIdx (min position queue.length) message
  | none => queue

/-- The copies that the failure of a delivery leaves in the queue. -/
def requeued (queue : List Message) (message : Message) (returnedTo : Option ℕ) : List Message :=
  if message.retryCount < maxRetries then
    putBack queue message returnedTo ++ [{ message with retryCount := message.retryCount + 1 }]
  else putBack queue message returnedTo

/-- The retry ladder of the base class. -/
def State.fail (state : State) (worker : ℕ) (message : Message) (returnedTo : Option ℕ) : State :=
  { state with
    queue := requeued state.queue message returnedTo
    workers := state.workers.set worker .idle }

/-- The flush of the rule that was decided on; none where it raises. -/
def flush (rules : RuleTable) : Option Upsert → Option RuleTable
  | none => some rules
  | some upsert =>
    match upsert.existing with
    | none => rules.create upsert.lesson
    | some loaded => rules.update loaded upsert.lesson

/-- The flush and the commit with the inbox row, whose key may be taken. -/
def commit (state : State) (worker : ℕ) (message : Message) (upsert : Option Upsert) : State :=
  match flush state.rules upsert with
  | none => state.fail worker message none
  | some rules =>
    if isDuplicate state message.event then state.setWorker worker (.returned message)
    else
      { state with
        rules := rules
        inbox := if message.event.correlationId = "" then state.inbox
          else state.inbox ++ [message.event.correlationId]
        workers := state.workers.set worker (.returned message) }

/-- One statement of an instance. -/
def advance (tables : CharTables) (state : State) (worker : ℕ) : Phase → State
  | .idle => state
  | .received message =>
    state.setWorker worker
      (if isDuplicate state message.event then .returned message else .unprocessed message)
  | .unprocessed message =>
    state.setWorker worker <|
      match lessonOf tables message.event with
      | some lesson =>
        if lesson.subcategoryId ∈ state.subcategories then .targeted message lesson
        else .decided message none
      | none => .decided message none
  | .targeted message lesson =>
    state.setWorker worker (.decided message
      (some { lesson := lesson, existing := state.rules.findByUserAndPattern lesson }))
  | .decided message upsert => commit state worker message upsert
  | .returned _ => state.setWorker worker .idle

def publish (state : State) (event : CategoryCorrected) : State :=
  if state.published.any fun earlier => earlier.correlationId = event.correlationId then state
  else
    { state with
      published := state.published ++ [event]
      queue := state.queue ++ [{ event := event }] }

def step (tables : CharTables) (state : State) : Label → State
  | .publish event => publish state event
  | .publishAgain index =>
    match state.published[index]? with
    | some event => { state with queue := state.queue ++ [{ event := event }] }
    | none => state
  | .take worker =>
    match state.workers[worker]?, state.queue with
    | some .idle, message :: rest =>
      { state with queue := rest, workers := state.workers.set worker (.received message) }
    | _, _ => state
  | .advance worker =>
    match state.workers[worker]? with
    | some phase => advance tables state worker phase
    | none => state
  | .fail worker returnedTo =>
    match (state.workers[worker]?).bind Phase.message with
    | some message => state.fail worker message returnedTo
    | none => state
  | .crash worker returnedTo =>
    match (state.workers[worker]?).bind Phase.message with
    | some message =>
      { state with
        queue := putBack state.queue message (some returnedTo)
        workers := state.workers.set worker .idle }
    | none => state

end FinanceTracker.Categorization.LearnedRules
