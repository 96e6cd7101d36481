import FinanceTracker.Categorization.RuleEngineProvider

/-!
# Rule changes in the API process

Whether a call of `get` that begins after an invalidation returns an overlay built from
rules that were read no earlier than the commit behind it. Invalidation only drops what
is in the cache: a load that has read older rules and is still under way stores them
afterwards. Without such loads the invariant is that neither the cache nor any load
lacks a commit that was announced for its user.
-/

namespace FinanceTracker.Categorization.RuleFreshness

open Library KeyedRows Runs List
open LearnedRules (CharTables)
open RuleEngineProvider

/-- Rules of the user that were read then have every commit that the notices announce. -/
def Sees (notices : List Notice) (userId : ℤ) (readAt : ℕ) : Prop :=
  ∀ notice ∈ notices, notice.userId = userId → notice.commit ≤ readAt

/-- Every call that has returned an overlay of its user has seen what was announced
before it began. -/
def GetsAreFresh (state : State) : Prop :=
  ∀ userId since engines readAt,
    Coroutine.get (some userId) since (.returned engines readAt) ∈ state.coroutines →
      Sees since userId readAt

def readBefore (userId : ℤ) (commit : ℕ) : Coroutine → Bool
  | .get _ _ (.loaded user _ readAt) => user = userId && readAt < commit
  | _ => false

/-- When the mutation calls `invalidate_user`, no load has read the rules before its
commit and is still under way. -/
def InvalidatesAll (state : State) : Coroutine → Prop
  | .mutate userId (.committed commit) =>
    ∀ other ∈ state.coroutines, readBefore userId commit other = false
  | _ => True

def NoLateStore (state : State) : Label → Prop
  | .proceed index _ => ∀ coroutine ∈ state.coroutines[index]?, InvalidatesAll state coroutine
  | _ => True

instance decidableInvalidatesAll (state : State) :
    ∀ coroutine, Decidable (InvalidatesAll state coroutine)
  | .mutate _ (.committed _) => inferInstanceAs (Decidable (∀ _ ∈ state.coroutines, _))
  | .mutate _ (.running _) => isTrue trivial
  | .mutate _ .finished => isTrue trivial
  | .mutate _ .raised => isTrue trivial
  | .get _ _ _ => isTrue trivial

instance decidableNoLateStore (state : State) : ∀ label, Decidable (NoLateStore state label)
  | .proceed index _ =>
    inferInstanceAs (Decidable (∀ coroutine ∈ state.coroutines[index]?,
      InvalidatesAll state coroutine))
  | .get _ _ => isTrue trivial
  | .startMutation _ _ => isTrue trivial
  | .abort _ => isTrue trivial
  | .changeTaxonomy _ _ => isTrue trivial

def PhaseSound (notices : List Notice) (caller : Option ℤ) (since : List Notice) : GetPhase → Prop
  | .waitingLoad userId _ => caller = some userId
  | .loading userId => caller = some userId
  | .loaded userId _ readAt => caller = some userId ∧ Sees notices userId readAt
  | .returned _ readAt => ∀ userId, caller = some userId → Sees since userId readAt
  | _ => True

def CoroutineSound (state : State) : Coroutine → Prop
  | .get caller since phase =>
    (∀ notice ∈ since, notice ∈ state.notices) ∧ PhaseSound state.notices caller since phase
  | .mutate _ (.committed commit) => commit ≤ state.commits
  | .mutate _ _ => True

structure Inv (state : State) : Prop where
  cached : ∀ entry ∈ state.provider.userEngines, Sees state.notices entry.userId entry.readAt
  coroutines : ∀ coroutine ∈ state.coroutines, CoroutineSound state coroutine
  announced : ∀ notice ∈ state.notices, notice.commit ≤ state.commits

section Steps

variable {tables : CharTables} {state next : State} {index : ℕ} {caller : Option ℤ}
  {since : List Notice}

theorem fresh_of_inv (inv : Inv state) : GetsAreFresh state := by
  intro userId _ _ _ member
  exact (inv.coroutines _ member).2 userId rfl

theorem sees_all (inv : Inv state) (userId : ℤ) : Sees state.notices userId state.commits :=
  fun notice member _ => inv.announced notice member

variable {userId : ℤ} {coroutine : Coroutine} {readAt : ℕ} {phase : GetPhase}
  {entries : List CachedOverlay} {entry : CachedOverlay}

theorem sees_since {notices : List Notice} (sees : Sees notices userId readAt)
    (earlier : ∀ notice ∈ since, notice ∈ notices) :
    Sees since userId readAt :=
  fun notice member => sees notice (earlier notice member)

/-- Soundness of a coroutine survives where nothing is announced. -/
theorem sound_later (sameNotices : next.notices = state.notices)
    (grown : state.commits ≤ next.commits) (sound : CoroutineSound state coroutine) :
    CoroutineSound next coroutine := by
  cases coroutine with
  | get =>
    unfold CoroutineSound at sound ⊢
    rw [sameNotices]
    exact sound
  | mutate userId phase =>
    cases phase with
    | committed => exact Nat.le_trans sound grown
    | _ => trivial

theorem moved_inv (inv : Inv state) (sameNotices : next.notices = state.notices)
    (grown : state.commits ≤ next.commits)
    (cached : ∀ entry ∈ next.provider.userEngines, Sees state.notices entry.userId entry.readAt)
    (moved : next.coroutines = state.coroutines.set index coroutine)
    (sound : CoroutineSound state coroutine ∨ CoroutineSound next coroutine) : Inv next where
  cached := by
    rw [sameNotices]
    exact cached
  coroutines := by
    rw [moved]
    intro other member
    rcases mem_or_eq_of_mem_set member with before | rfl
    · exact sound_later sameNotices grown (inv.coroutines other before)
    · rcases sound with sound | sound
      · exact sound_later sameNotices grown sound
      · exact sound
  announced := by
    rw [sameNotices]
    exact fun notice member => Nat.le_trans (inv.announced notice member) grown

theorem set_get_inv (inv : Inv state) (earlier : ∀ notice ∈ since, notice ∈ state.notices)
    (sound : PhaseSound state.notices caller since phase) :
    Inv (state.setGet index caller since phase) :=
  moved_inv inv rfl le_rfl inv.cached rfl (Or.inl ⟨earlier, sound⟩)

theorem set_lock_inv (inv : Inv state) (locked : Bool) : Inv (state.setLock locked) :=
  ⟨inv.cached, fun coroutine member => sound_later rfl le_rfl (inv.coroutines coroutine member),
    inv.announced⟩

theorem enter_user_inv (inv : Inv state) (earlier : ∀ notice ∈ since, notice ∈ state.notices)
    (userId : ℤ) (now : Time) :
    Inv (enterUser state index (some userId) since userId now) := by
  unfold enterUser
  split
  · next entry isCached =>
    unfold Provider.cached at isCached
    obtain ⟨member, isUser⟩ := lookup_mem (Option.filter_eq_some_iff.mp isCached).1
    refine set_get_inv inv earlier fun user isCaller => ?_
    cases isCaller
    rw [← isUser]
    exact sees_since (inv.cached entry member) earlier
  · split
    · exact set_get_inv inv earlier rfl
    · exact set_get_inv (set_lock_inv inv true) earlier rfl

theorem after_global_inv (inv : Inv state) (earlier : ∀ notice ∈ since, notice ∈ state.notices)
    (now : Time) : Inv (afterGlobal state index caller since now) := by
  unfold afterGlobal
  split
  · exact set_get_inv inv earlier trivial
  · exact enter_user_inv inv earlier _ now

theorem enter_get_inv (inv : Inv state) (earlier : ∀ notice ∈ since, notice ∈ state.notices)
    (now : Time) : Inv (enterGet state index caller since now) := by
  unfold enterGet
  split
  · exact after_global_inv inv earlier now
  · split
    · exact set_get_inv inv earlier trivial
    · exact set_get_inv (set_lock_inv inv true) earlier trivial

theorem mem_make_room (member : entry ∈ makeRoom entries) : entry ∈ entries := by
  unfold makeRoom at member
  split at member
  · exact (mem_filter.mp member).1
  · exact member

theorem mem_store_entry {stored : CachedOverlay} (member : entry ∈ storeEntry entries stored) :
    entry = stored ∨ entry ∈ entries := by
  unfold storeEntry at member
  split at member
  · rcases mem_replace.mp member with ⟨before, _⟩ | ⟨_, _, _, isStored⟩
    · exact Or.inr before
    · exact Or.inl isStored
  · rcases mem_snoc.mp member with before | new
    · exact Or.inr before
    · exact Or.inl new

theorem store_overlay_inv (inv : Inv state) (sees : Sees state.notices userId readAt)
    (rules : List LearnedRules.CategorizationRule) (now : Time) :
    Inv (storeOverlay tables state userId rules readAt now) := by
  refine ⟨fun entry member => ?_, fun coroutine member =>
    sound_later rfl le_rfl (inv.coroutines coroutine member), inv.announced⟩
  rcases mem_store_entry member with rfl | before
  · exact sees
  · exact inv.cached entry (mem_make_room before)

theorem apply_reload_inv (inv : Inv state) (subcategories : List SubCategory)
    (categoryIds : List ℤ) (now : Time) :
    Inv { state with provider := applyReload state.provider subcategories categoryIds now } :=
  ⟨fun _ member => (by cases member), fun coroutine member =>
    sound_later rfl le_rfl (inv.coroutines coroutine member), inv.announced⟩

theorem proceed_get_inv (inv : Inv state) (sound : CoroutineSound state (.get caller since phase))
    (now : Time) :
    Inv (proceedGet tables state index caller since now phase) := by
  obtain ⟨earlier, sound⟩ := sound
  cases phase with
  | waitingReload =>
    unfold proceedGet
    dsimp only
    split
    · exact inv
    · split
      · exact after_global_inv inv earlier now
      · exact set_get_inv (set_lock_inv inv true) earlier trivial
  | reloading => exact set_get_inv inv earlier trivial
  | reloaded subcategories categoryIds =>
    exact after_global_inv (set_lock_inv (apply_reload_inv inv subcategories categoryIds now)
      false) earlier now
  | waitingLoad userId checked =>
    unfold proceedGet
    dsimp only
    split
    · exact inv
    · cases sound
      exact enter_user_inv inv earlier userId checked
  | loading userId => exact set_get_inv inv earlier ⟨sound, sees_all inv userId⟩
  | loaded userId rules =>
    obtain ⟨isCaller, sees⟩ := sound
    refine set_get_inv (store_overlay_inv inv sees rules now) earlier fun user isUser => ?_
    cases isCaller.symm.trans isUser
    exact sees_since sees earlier
  | returnedGlobal | returned | raised => exact inv

/-- The invalidation drops the overlay of the user, and no load lacks the commit. -/
theorem notify_inv (inv : Inv state) {commit : ℕ} (isCommitted : commit ≤ state.commits)
    (alone : ∀ other ∈ state.coroutines, readBefore userId commit other = false) :
    Inv (proceedMutation state index userId (.committed commit)) where
  cached := by
    intro entry member notice isNotice isUser
    obtain ⟨before, other⟩ := mem_filter.mp member
    rcases mem_snoc.mp isNotice with earlier | rfl
    · exact inv.cached entry before notice earlier isUser
    · exact absurd isUser.symm (of_decide_eq_true other)
  coroutines := by
    intro coroutine member
    rcases mem_or_eq_of_mem_set member with before | rfl
    · have sound := inv.coroutines coroutine before
      have notLate := alone coroutine before
      cases coroutine with
      | get caller since phase =>
        refine ⟨fun notice isNotice => mem_append_left _ (sound.1 notice isNotice), ?_⟩
        have phaseSound := sound.2
        cases phase with
        | loaded user rules readAt =>
          refine ⟨phaseSound.1, fun notice isNotice isUser => ?_⟩
          rcases mem_snoc.mp isNotice with earlier | new
          · exact phaseSound.2 notice earlier isUser
          · have atLeast : user = userId → commit ≤ readAt := by
              simpa [readBefore] using notLate
            rw [new] at isUser ⊢
            exact atLeast isUser.symm
        | _ => exact phaseSound
      | mutate user phase =>
        cases phase with
        | committed => exact sound
        | _ => trivial
    · trivial
  announced := by
    refine forall_snoc inv.announced ?_
    exact isCommitted

theorem proceed_mutation_inv (inv : Inv state) {phase : MutationPhase}
    (sound : CoroutineSound state (.mutate userId phase))
    (alone : InvalidatesAll state (.mutate userId phase)) :
    Inv (proceedMutation state index userId phase) := by
  cases phase with
  | running =>
    unfold proceedMutation
    dsimp only
    split
    · exact moved_inv inv rfl le_rfl inv.cached rfl (Or.inl trivial)
    · exact moved_inv inv rfl (Nat.le_succ _) inv.cached rfl (Or.inr (Nat.le_refl _))
  | committed => exact notify_inv inv sound alone
  | finished | raised => exact inv

theorem abort_inv (inv : Inv state) (sound : CoroutineSound state coroutine) :
    Inv (abort state index coroutine) := by
  unfold abort
  split
  · exact inv
  · exact inv
  · next userId since phase _ _ =>
    by_cases holds : holdsLock phase = true
    · rw [if_pos holds]
      exact set_get_inv (set_lock_inv inv false) sound.1 trivial
    · rw [if_neg holds]
      exact set_get_inv inv sound.1 trivial
  · exact inv
  · exact moved_inv inv rfl le_rfl inv.cached rfl (Or.inl trivial)

theorem appended_inv (inv : Inv state) (sound : CoroutineSound state coroutine) :
    Inv { state with coroutines := state.coroutines ++ [coroutine] } := by
  refine ⟨inv.cached, fun other member => ?_, inv.announced⟩
  rcases mem_snoc.mp member with before | rfl
  · exact sound_later rfl le_rfl (inv.coroutines other before)
  · exact sound_later rfl le_rfl sound

theorem step_inv (state : State) (label : Label) (alone : NoLateStore state label)
    (inv : Inv state) : Inv (step tables state label) := by
  cases label with
  | get userId now =>
    have known : ∀ notice ∈ state.notices, notice ∈ state.notices := fun _ member => member
    have appended : Inv { state with
        coroutines := state.coroutines ++ [.get userId state.notices .returnedGlobal] } :=
      appended_inv inv ⟨known, trivial⟩
    exact enter_get_inv appended known now
  | startMutation => exact appended_inv inv trivial
  | proceed index now =>
    unfold step
    dsimp only
    split
    · next userId since phase isGet =>
      exact proceed_get_inv inv (inv.coroutines _ (mem_of_getElem? isGet)) now
    · next userId phase isMutation =>
      exact proceed_mutation_inv inv (inv.coroutines _ (mem_of_getElem? isMutation))
        (alone _ isMutation)
    · exact inv
  | abort =>
    unfold step
    dsimp only
    split
    · next coroutine isCoroutine =>
      exact abort_inv inv (inv.coroutines _ (mem_of_getElem? isCoroutine))
    · exact inv
  | changeTaxonomy =>
    exact ⟨inv.cached, fun coroutine member =>
      sound_later rfl le_rfl (inv.coroutines coroutine member), inv.announced⟩

end Steps

/-- The API process after its start, with nothing cached. -/
def start (database : Database) (ttl : Time) : State where
  database := database
  provider := { ttl := ttl }

/-- In a run in which no invalidation leaves an older load under way, every call that
begins after a mutation's invalidation returns rules read no earlier than its commit. -/
theorem rule_changes_apply_at_once {tables : CharTables} {database : Database} {ttl : Time}
    {labels : List Label}
    (alone : AllSteps (step tables) NoLateStore (start database ttl) labels) :
    GetsAreFresh (runFrom (step tables) (start database ttl) labels) := by
  have initial : Inv (start database ttl) := by
    refine ⟨fun _ member => ?_, fun _ member => ?_, fun _ member => ?_⟩ <;> cases member
  exact fresh_of_inv (allowed_run_keeps (step tables) step_inv initial labels alone)

def asciiTables : CharTables where
  lower := fun text => text
  isAlpha := Char.isAlpha

def groceries : Database where
  subcategories := [{ id := 3, name := "Dagligvarer", categoryId := 1 }]
  categoryIds := [1]

def nettoRule : Mutation := .create { patternValue := "netto", subcategoryId := 3 }

/-- The first coroutine warms the provider up, the second creates the rule and announces
it, and the third gets the overlay of user 7. -/
def quietLabels : List Label :=
  [.get none 0, .proceed 0 0, .proceed 0 0, .startMutation 7 nettoRule, .proceed 1 0,
    .proceed 1 0, .get (some 7) 1, .proceed 2 1, .proceed 2 1]

theorem created_rule_applies :
    GetsAreFresh (runFrom (step asciiTables) (start groceries 60000000) quietLabels) :=
  rule_changes_apply_at_once (by decide +kernel)

/-- The second coroutine has read the rules of user 7 when the third creates one and
announces it; the fourth begins after that. -/
def lateStoreLabels : List Label :=
  [.get none 0, .proceed 0 0, .proceed 0 0, .get (some 7) 1, .proceed 1 1,
    .startMutation 7 nettoRule, .proceed 2 1, .proceed 2 1, .proceed 1 2, .get (some 7) 3]

theorem late_store_hides_rule :
    ¬ ∀ (tables : CharTables) (database : Database) (ttl : Time) (labels : List Label),
      GetsAreFresh (runFrom (step tables) (start database ttl) labels) := by
  intro always
  have fresh := always asciiTables groceries 60000000 lateStoreLabels
  have returned : Coroutine.get (some 7) [{ userId := 7, commit := 1 }] (.returned [] 0) ∈
      (runFrom (step asciiTables) (start groceries 60000000) lateStoreLabels).coroutines := by
    decide +kernel
  exact absurd (fresh 7 _ [] 0 returned { userId := 7, commit := 1 }
    (mem_singleton_self _) rfl) (by decide)

end FinanceTracker.Categorization.RuleFreshness
