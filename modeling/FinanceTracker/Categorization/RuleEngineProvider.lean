import FinanceTracker.Categorization.LearnedRules

/-!
# The rule engine provider

`RuleEngineProvider` with its overlays per user, and the mutations of `RuleService`, as
coroutines of one process: a label lets one of them run to its next await. A free lock
may be taken by any coroutine. What the global engine consists of is left out. The
ghost fields count the commits of mutations: `readAt` is the number of commits that a
load of rules has seen, and `notices` are the invalidations so far.
-/

namespace FinanceTracker.Categorization.RuleEngineProvider

open Library.KeyedRows
open Library.Texts (strip)
open LearnedRules (CategorizationRule CharTables PatternType
  RuleKey transliterate)

abbrev Time := ℤ

structure SubCategory where
  id : ℤ
  name : String
  categoryId : ℤ
  deriving DecidableEq

structure Database where
  rules : List CategorizationRule := []
  nextId : ℕ := 1
  subcategories : List SubCategory := []
  categoryIds : List ℤ := []
  deriving DecidableEq

inductive RuleServiceError where
  | subCategoryNotFound
  | duplicateRule
  | ruleNotFound
  | attributeError
  deriving DecidableEq

structure CreateRule where
  patternValue : String
  subcategoryId : ℤ
  priority : ℤ := 50
  active : Bool := true
  deriving DecidableEq

/-- The fields that are set, which may be null. -/
structure UpdateRule where
  patternValue : Option (Option String) := none
  subcategoryId : Option (Option ℤ) := none
  priority : Option (Option ℤ) := none
  active : Option (Option Bool) := none
  deriving DecidableEq

inductive Mutation where
  | create (dto : CreateRule)
  | update (ruleId : ℕ) (dto : UpdateRule)
  | delete (ruleId : ℕ)
  deriving DecidableEq

def Database.knows (database : Database) (subcategoryId : ℤ) : Bool :=
  database.subcategories.any fun subcategory => subcategory.id = subcategoryId

def keyTaken (rules : List CategorizationRule) (key : RuleKey) : Bool :=
  rules.any fun rule => rule.key = key

def createRule (database : Database) (userId : ℤ) (dto : CreateRule) :
    Except RuleServiceError Database :=
  let rule : CategorizationRule := {
    id := database.nextId
    userId := some userId
    priority := dto.priority
    patternType := .keyword
    patternValue := strip dto.patternValue
    matchesSubcategoryId := dto.subcategoryId
    active := dto.active }
  if !database.knows dto.subcategoryId then .error .subCategoryNotFound
  else if keyTaken database.rules rule.key then .error .duplicateRule
  else .ok { database with rules := database.rules ++ [rule], nextId := database.nextId + 1 }

def getOwnedRule (database : Database) (userId : ℤ) (ruleId : ℕ) :
    Except RuleServiceError CategorizationRule :=
  match lookup CategorizationRule.id database.rules ruleId with
  | some rule => if rule.userId = some userId then .ok rule else .error .ruleNotFound
  | none => .error .ruleNotFound

def setField {Value : Type} (field : Option (Option Value)) (stored : Value) :
    Except RuleServiceError Value :=
  match field with
  | none => .ok stored
  | some (some value) => .ok value
  | some none => .error .duplicateRule

/-- The new target; a null leaves the column as it is. -/
def setTarget (database : Database) (field : Option (Option ℤ)) (stored : ℤ) :
    Except RuleServiceError ℤ :=
  match field with
  | some (some subcategoryId) =>
    if database.knows subcategoryId then .ok subcategoryId else .error .subCategoryNotFound
  | _ => .ok stored

def updateRule (database : Database) (userId : ℤ) (ruleId : ℕ) (dto : UpdateRule) :
    Except RuleServiceError Database := do
  if dto.patternValue = some none then throw .attributeError
  let rule ← getOwnedRule database userId ruleId
  let target ← setTarget database dto.subcategoryId rule.matchesSubcategoryId
  let pattern ← setField (dto.patternValue.map fun value => value.map strip) rule.patternValue
  let priority ← setField dto.priority rule.priority
  let active ← setField dto.active rule.active
  let changed : CategorizationRule := { rule with
    matchesSubcategoryId := target
    patternValue := pattern
    priority := priority
    active := active }
  if keyTaken (database.rules.filter fun other => other.id ≠ ruleId) changed.key then
    throw .duplicateRule
  return { database with
    rules := replace CategorizationRule.id database.rules ruleId fun _ => changed }

def deleteRule (database : Database) (userId : ℤ) (ruleId : ℕ) :
    Except RuleServiceError Database := do
  let _ ← getOwnedRule database userId ruleId
  return { database with rules := database.rules.filter fun rule => rule.id ≠ ruleId }

def mutate (database : Database) (userId : ℤ) : Mutation → Except RuleServiceError Database
  | .create dto => createRule database userId dto
  | .update ruleId dto => updateRule database userId ruleId dto
  | .delete ruleId => deleteRule database userId ruleId

/-- `find_by_user` sorts by priority, then by falling length, then by id. -/
def comesFirst (rule other : CategorizationRule) : Bool :=
  rule.priority < other.priority || rule.priority = other.priority &&
    (other.patternValue.length < rule.patternValue.length ||
      rule.patternValue.length = other.patternValue.length && rule.id ≤ other.id)

def findByUser (database : Database) (userId : ℤ) : List CategorizationRule :=
  (database.rules.filter fun rule => rule.userId = some userId).mergeSort comesFirst

structure RuleEngine where
  sortedKeywords : List (String × String)
  lookup : List (String × (ℤ × ℤ))
  deriving DecidableEq

def normalizeForMatching (tables : CharTables) (text : String) : String :=
  String.ofList ((tables.lower text).toList.flatMap transliterate)

def ruleEngine (tables : CharTables) (mappings : List (String × String))
    (subcategoryLookup : List (String × (ℤ × ℤ))) : RuleEngine where
  sortedKeywords :=
    (mappings.map fun mapping => (normalizeForMatching tables mapping.1, mapping.2)).mergeSort
      fun first second => second.1.length ≤ first.1.length
  lookup := subcategoryLookup

structure CachedOverlay where
  userId : ℤ
  engines : List RuleEngine
  stamp : Time
  readAt : ℕ
  deriving DecidableEq

structure Provider where
  ttl : Time
  loadedAt : Option Time := none
  locked : Bool := false
  subcategoryLookup : List (String × (ℤ × ℤ)) := []
  subcategoryNameById : List (ℤ × String) := []
  userEngines : List CachedOverlay := []
  deriving DecidableEq

def maxUserCache : ℕ := 512

def isMatchable (provider : Provider) (rule : CategorizationRule) : Bool :=
  rule.active && (rule.patternType = .keyword || rule.patternType = .merchant) &&
    (lookup Prod.fst provider.subcategoryNameById rule.matchesSubcategoryId).isSome

def nameOf (provider : Provider) (subcategoryId : ℤ) : String :=
  ((lookup Prod.fst provider.subcategoryNameById subcategoryId).map Prod.snd).getD ""

/-- What `_load_user_engines` builds from the rules it has read: an engine for each
priority. -/
def buildEngines (tables : CharTables) (provider : Provider) (rules : List CategorizationRule) :
    List RuleEngine :=
  ((rules.filter (isMatchable provider)).splitBy fun rule next => rule.priority = next.priority).map
    fun group => ruleEngine tables
      (group.map fun rule => (rule.patternValue, nameOf provider rule.matchesSubcategoryId))
      provider.subcategoryLookup

def Provider.cached (provider : Provider) (userId : ℤ) (now : Time) : Option CachedOverlay :=
  (lookup CachedOverlay.userId provider.userEngines userId).filter fun entry =>
    now - entry.stamp < provider.ttl

def Provider.globalFresh (provider : Provider) (now : Time) : Bool :=
  match provider.loadedAt with
  | some loadedAt => now - loadedAt < provider.ttl
  | none => false

def oldestUser : List CachedOverlay → Option ℤ
  | [] => none
  | entry :: entries =>
    some (entries.foldl (fun oldest next => if next.stamp < oldest.stamp then next else oldest)
      entry).userId

def makeRoom (entries : List CachedOverlay) : List CachedOverlay :=
  if maxUserCache ≤ entries.length then
    entries.filter fun entry => some entry.userId ≠ oldestUser entries
  else entries

def storeEntry (entries : List CachedOverlay) (stored : CachedOverlay) : List CachedOverlay :=
  if entries.any fun entry => entry.userId = stored.userId then
    replace CachedOverlay.userId entries stored.userId fun _ => stored
  else entries ++ [stored]

def invalidateUser (provider : Provider) (userId : ℤ) : Provider :=
  { provider with
    userEngines := provider.userEngines.filter fun entry => entry.userId ≠ userId }

/-- The taxonomy maps of `_reload`, which drops every overlay. -/
def applyReload (provider : Provider) (subcategories : List SubCategory) (categoryIds : List ℤ)
    (now : Time) : Provider :=
  { provider with
    loadedAt := some now
    subcategoryNameById := subcategories.map fun subcategory => (subcategory.id, subcategory.name)
    subcategoryLookup := (subcategories.filter fun subcategory =>
      categoryIds.contains subcategory.categoryId).map fun subcategory =>
        (subcategory.name, (subcategory.id, subcategory.categoryId))
    userEngines := [] }

structure Notice where
  userId : ℤ
  commit : ℕ
  deriving DecidableEq

/-- Where a call of `get` is suspended, or what it has returned. -/
inductive GetPhase where
  | waitingReload (checked : Time)
  | reloading
  | reloaded (subcategories : List SubCategory) (categoryIds : List ℤ)
  | waitingLoad (userId : ℤ) (checked : Time)
  | loading (userId : ℤ)
  | loaded (userId : ℤ) (rules : List CategorizationRule) (readAt : ℕ)
  | returnedGlobal
  | returned (engines : List RuleEngine) (readAt : ℕ)
  | raised
  deriving DecidableEq

inductive MutationPhase where
  | running (mutation : Mutation)
  | committed (commit : ℕ)
  | finished
  | raised
  deriving DecidableEq

/-- `since` are the invalidations that were made before the call began. -/
inductive Coroutine where
  | get (userId : Option ℤ) (since : List Notice) (phase : GetPhase)
  | mutate (userId : ℤ) (phase : MutationPhase)
  deriving DecidableEq

structure State where
  database : Database
  provider : Provider
  commits : ℕ := 0
  notices : List Notice := []
  coroutines : List Coroutine := []

inductive Label where
  | get (userId : Option ℤ) (now : Time)
  | startMutation (userId : ℤ) (mutation : Mutation)
  | proceed (index : ℕ) (now : Time)
  | abort (index : ℕ)
  | changeTaxonomy (subcategories : List SubCategory) (categoryIds : List ℤ)

def State.setGet (state : State) (index : ℕ) (userId : Option ℤ) (since : List Notice)
    (phase : GetPhase) : State :=
  { state with coroutines := state.coroutines.set index (.get userId since phase) }

def State.setLock (state : State) (locked : Bool) : State :=
  { state with provider := { state.provider with locked := locked } }

/-- `_get_user_engines` from its start, or from its second look at the cache. -/
def enterUser (state : State) (index : ℕ) (caller : Option ℤ) (since : List Notice) (userId : ℤ)
    (now : Time) : State :=
  match state.provider.cached userId now with
  | some entry => state.setGet index caller since (.returned entry.engines entry.readAt)
  | none =>
    if state.provider.locked then state.setGet index caller since (.waitingLoad userId now)
    else (state.setLock true).setGet index caller since (.loading userId)

/-- What `get` does once the global engine is there. -/
def afterGlobal (state : State) (index : ℕ) (userId : Option ℤ) (since : List Notice)
    (now : Time) : State :=
  match userId with
  | none => state.setGet index userId since .returnedGlobal
  | some user => enterUser state index userId since user now

/-- `get` from its start. -/
def enterGet (state : State) (index : ℕ) (userId : Option ℤ) (since : List Notice) (now : Time) :
    State :=
  if state.provider.globalFresh now then afterGlobal state index userId since now
  else if state.provider.locked then state.setGet index userId since (.waitingReload now)
  else (state.setLock true).setGet index userId since .reloading

def storeOverlay (tables : CharTables) (state : State) (userId : ℤ)
    (rules : List CategorizationRule) (readAt : ℕ) (now : Time) : State :=
  { state with
    provider := { state.provider with
      locked := false
      userEngines := storeEntry (makeRoom state.provider.userEngines) {
        userId := userId
        engines := buildEngines tables state.provider rules
        stamp := now
        readAt := readAt } } }

def proceedGet (tables : CharTables) (state : State) (index : ℕ) (userId : Option ℤ)
    (since : List Notice) (now : Time) : GetPhase → State
  | .waitingReload checked =>
    if state.provider.locked then state
    else if state.provider.globalFresh checked then afterGlobal state index userId since now
    else (state.setLock true).setGet index userId since .reloading
  | .reloading =>
    state.setGet index userId since
      (.reloaded state.database.subcategories state.database.categoryIds)
  | .reloaded subcategories categoryIds =>
    afterGlobal
      (State.setLock
        { state with provider := applyReload state.provider subcategories categoryIds now }
        false)
      index userId since now
  | .waitingLoad user checked =>
    if state.provider.locked then state
    else enterUser state index userId since user checked
  | .loading user =>
    state.setGet index userId since (.loaded user (findByUser state.database user) state.commits)
  | .loaded user rules readAt =>
    (storeOverlay tables state user rules readAt now).setGet index userId since
      (.returned (buildEngines tables state.provider rules) readAt)
  | .returnedGlobal => state
  | .returned _ _ => state
  | .raised => state

def State.setMutation (state : State) (index : ℕ) (userId : ℤ) (phase : MutationPhase) : State :=
  { state with coroutines := state.coroutines.set index (.mutate userId phase) }

/-- A mutation reads the taxonomy between its commit and the invalidation. -/
def proceedMutation (state : State) (index : ℕ) (userId : ℤ) : MutationPhase → State
  | .running mutation =>
    match mutate state.database userId mutation with
    | .error _ => state.setMutation index userId .raised
    | .ok database =>
      State.setMutation { state with database := database, commits := state.commits + 1 }
        index userId (.committed (state.commits + 1))
  | .committed commit =>
    State.setMutation
      { state with
        provider := invalidateUser state.provider userId
        notices := state.notices ++ [{ userId := userId, commit := commit }] }
      index userId .finished
  | .finished => state
  | .raised => state

/-- Whether a call of `get` holds the lock where it is suspended. -/
def holdsLock : GetPhase → Bool
  | .reloading => true
  | .reloaded _ _ => true
  | .loading _ => true
  | .loaded _ _ _ => true
  | _ => false

/-- An error or a cancellation at the await. -/
def abort (state : State) (index : ℕ) : Coroutine → State
  | .get _ _ .returnedGlobal => state
  | .get _ _ (.returned _ _) => state
  | .get userId since phase =>
    (if holdsLock phase then state.setLock false else state).setGet index userId since .raised
  | .mutate _ .finished => state
  | .mutate userId _ => state.setMutation index userId .raised

def step (tables : CharTables) (state : State) : Label → State
  | .get userId now =>
    enterGet
      { state with
        coroutines := state.coroutines ++ [.get userId state.notices .returnedGlobal] }
      state.coroutines.length userId state.notices now
  | .startMutation userId mutation =>
    { state with coroutines := state.coroutines ++ [.mutate userId (.running mutation)] }
  | .proceed index now =>
    match state.coroutines[index]? with
    | some (.get userId since phase) => proceedGet tables state index userId since now phase
    | some (.mutate userId phase) => proceedMutation state index userId phase
    | none => state
  | .abort index =>
    match state.coroutines[index]? with
    | some coroutine => abort state index coroutine
    | none => state
  | .changeTaxonomy subcategories categoryIds =>
    { state with database := { state.database with
        subcategories := subcategories
        categoryIds := categoryIds } }

end FinanceTracker.Categorization.RuleEngineProvider
