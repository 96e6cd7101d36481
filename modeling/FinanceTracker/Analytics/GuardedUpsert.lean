import FinanceTracker.Analytics.Convergence

/-!
# The guarded full-state upsert

Accounts, goals and the taxonomy share one script: the newest event writes its
fields over the document and a deleted document is final. A field of an event is
either required, and then always written, or optional, and then written only if
it is not null; the document keeps the value of an earlier event there. For any
kind of event that is delivered this way, order and repetition never matter
exactly when the events that decide the document agree and carry every optional
field that any event carries.
-/

namespace FinanceTracker.Analytics.GuardedUpsert

open Library Deliveries Runs TransactionStore Convergence List

variable {Event Required Key Value : Type}

/-- The parameters of one upsert. -/
structure FullState (Required Key Value : Type) where
  required : Required
  optional : Key → Option Value
  isDeleted : Bool := false
  eventTs : Int

@[ext]
structure GuardedDoc (Required Key Value : Type) where
  isDeleted : Bool := false
  required : Option Required := none
  optional : Key → Option Value := fun _ => none
  eventTs : Option Int := none
  updatedAt : Option Int := none

/-- Every entry of `params.fields`; an optional field that is null has none. -/
def GuardedDoc.writeFields (doc : GuardedDoc Required Key Value)
    (state : FullState Required Key Value) : GuardedDoc Required Key Value where
  isDeleted := state.isDeleted
  required := some state.required
  optional := fun key => (state.optional key).or (doc.optional key)
  eventTs := some state.eventTs
  updatedAt := some state.eventTs

/-- `_FULL_STATE_SCRIPT`; `none` is `ctx.op = 'noop'`. -/
def fullStateScript (state : FullState Required Key Value)
    (doc : GuardedDoc Required Key Value) : Option (GuardedDoc Required Key Value) :=
  if doc.isDeleted then none
  else if admits doc.eventTs state.eventTs then some (doc.writeFields state)
  else none

/-- The document after the upsert and whether the script was applied. -/
def guardedFullStateUpsert (state : FullState Required Key Value)
    (stored : Option (GuardedDoc Required Key Value)) :
    Option (GuardedDoc Required Key Value) × Bool :=
  match stored with
  | none => (fullStateScript state {}, (fullStateScript state {}).isSome)
  | some doc => (some ((fullStateScript state doc).getD doc), (fullStateScript state doc).isSome)

/-- The guards that a stored document puts on an upsert. -/
def accepts (stored : Option (GuardedDoc Required Key Value)) (eventTs : Int) : Bool :=
  stored.all fun doc => !doc.isDeleted && admits doc.eventTs eventTs

theorem upsert_applied (state : FullState Required Key Value)
    (stored : Option (GuardedDoc Required Key Value)) :
    (guardedFullStateUpsert state stored).2 = accepts stored state.eventTs := by
  cases stored with
  | none => rfl
  | some doc =>
    unfold guardedFullStateUpsert fullStateScript accepts
    by_cases deleted : doc.isDeleted = true
    · simp [deleted]
    · by_cases admitted : admits doc.eventTs state.eventTs = true
      · simp [deleted, admitted]
      · simp [deleted, admitted]

/-- What one upsert makes of a document. -/
def applyState (state : FullState Required Key Value) (doc : GuardedDoc Required Key Value) :
    GuardedDoc Required Key Value :=
  (fullStateScript state doc).getD doc

theorem upsert_eq_apply (state : FullState Required Key Value)
    (stored : Option (GuardedDoc Required Key Value)) :
    (guardedFullStateUpsert state stored).1 = some (applyState state (stored.getD {})) := by
  cases stored with
  | none | some => rfl

variable {doc : GuardedDoc Required Key Value} {events : List Event} {event : Event} {key : Key}

theorem apply_deleted (deleted : doc.isDeleted = true) (state : FullState Required Key Value) :
    applyState state doc = doc := by
  unfold applyState fullStateScript
  rw [if_pos deleted]
  rfl

theorem apply_admitted (live : doc.isDeleted = false) {state : FullState Required Key Value}
    (admitted : admits doc.eventTs state.eventTs = true) :
    applyState state doc = doc.writeFields state := by
  unfold applyState fullStateScript
  rw [if_neg (by rw [live]; exact Bool.false_ne_true), if_pos admitted]
  rfl

theorem apply_refused {state : FullState Required Key Value}
    (refused : ¬ admits doc.eventTs state.eventTs = true) :
    applyState state doc = doc := by
  by_cases deleted : doc.isDeleted = true
  · exact apply_deleted deleted state
  · unfold applyState fullStateScript
    rw [if_neg deleted, if_neg refused]
    rfl

variable (full : Event → FullState Required Key Value)

def stampOf (event : Event) : Int := (full event).eventTs

def deliverEvent (doc : GuardedDoc Required Key Value) (event : Event) :
    GuardedDoc Required Key Value :=
  applyState (full event) doc

/-- The document after the deliveries, starting with no document. -/
def projectAll (deliveries : List Event) : Option (GuardedDoc Required Key Value) :=
  runFrom (fun stored event => (guardedFullStateUpsert (full event) stored).1) none deliveries

theorem project_stored (deliveries : List Event) (doc : GuardedDoc Required Key Value) :
    runFrom (fun stored event => (guardedFullStateUpsert (full event) stored).1) (some doc)
        deliveries =
      some (runFrom (deliverEvent full) doc deliveries) := by
  induction deliveries generalizing doc with
  | nil => rfl
  | cons event deliveries ih => exact ih (applyState (full event) doc)

theorem project_all_eq {deliveries : List Event} (nonempty : deliveries ≠ []) :
    projectAll full deliveries = some (runFrom (deliverEvent full) {} deliveries) := by
  cases deliveries with
  | nil => contradiction
  | cons event deliveries =>
    unfold projectAll
    rw [run_from_cons, upsert_eq_apply]
    exact project_stored full deliveries _

/-- Among the events there is at most one delete, and it is the newest. -/
structure DeleteLast (events : List Event) : Prop where
  newest : ∀ deleted ∈ events, (full deleted).isDeleted = true → AtTop (stampOf full) events deleted
  once : ∀ first ∈ events, ∀ second ∈ events, (full first).isDeleted = true →
    (full second).isDeleted = true → first = second

/-- The events that decide the document: those at the greatest timestamp, and of
them the delete where there is one. -/
def Decides (events : List Event) (event : Event) : Prop :=
  AtTop (stampOf full) events event ∧
    ((∃ other ∈ events, (full other).isDeleted = true) → (full event).isDeleted = true)

/-- The deciding events agree, and carry every optional field that occurs. -/
structure Settled (events : List Event) : Prop where
  required : ∀ first ∈ events, ∀ second ∈ events, Decides full events first →
    Decides full events second → (full first).required = (full second).required
  optional : ∀ first ∈ events, ∀ second ∈ events, Decides full events first →
    Decides full events second → ∀ key left right, (full first).optional key = some left →
      (full second).optional key = some right → left = right
  covered : ∀ event ∈ events, ∀ key, (full event).optional key ≠ none →
    ∃ decider ∈ events, Decides full events decider ∧ (full decider).optional key ≠ none

/-- What a deciding event leaves in the document. -/
structure Reached (event : Event) (doc : GuardedDoc Required Key Value) : Prop where
  required : doc.required = some (full event).required
  isDeleted : doc.isDeleted = (full event).isDeleted
  eventTs : doc.eventTs = some (stampOf full event)
  updatedAt : doc.updatedAt = some (stampOf full event)
  optional : ∀ key value, (full event).optional key = some value → doc.optional key = some value

structure Progress (events before : List Event) (doc : GuardedDoc Required Key Value) : Prop where
  stamp : ∀ stored, doc.eventTs = some stored → ∃ event ∈ before, stampOf full event = stored
  deleted : doc.isDeleted = true → ∃ event ∈ before, (full event).isDeleted = true
  values : ∀ key, doc.optional key ≠ none → ∃ event ∈ before, (full event).optional key ≠ none
  reached : ∀ event ∈ before, Decides full events event → Reached full event doc

variable {full}

theorem exists_decider (deleteLast : DeleteLast full events) (member : event ∈ events) :
    ∃ decider ∈ events, Decides full events decider := by
  by_cases deletes : ∃ deleted ∈ events, (full deleted).isDeleted = true
  · obtain ⟨deleted, inside, isDeleted⟩ := deletes
    exact ⟨deleted, inside, deleteLast.newest deleted inside isDeleted, fun _ => isDeleted⟩
  · obtain ⟨top, inside, isTop⟩ := exists_top (stampOf full) member
    exact ⟨top, inside, isTop, fun some => absurd some deletes⟩

theorem reached_written (event : Event) (doc : GuardedDoc Required Key Value) :
    Reached full event (doc.writeFields (full event)) := by
  refine ⟨rfl, rfl, rfl, rfl, ?_⟩
  intro key value found
  change ((full event).optional key).or _ = some value
  rw [found]
  rfl

/-- A deciding event over another one leaves what the other had written. -/
theorem reached_overwritten (settled : Settled full events) {other : Event}
    (eventIn : event ∈ events) (otherIn : other ∈ events) (decides : Decides full events event)
    (otherDecides : Decides full events other)
    (neither : (full event).isDeleted = (full other).isDeleted) (reached : Reached full other doc) :
    Reached full other (doc.writeFields (full event)) := by
  have stamps : stampOf full event = stampOf full other :=
    top_stamps_eq (stampOf full) eventIn otherIn decides.1 otherDecides.1
  refine ⟨?_, neither, congrArg some stamps, congrArg some stamps, ?_⟩
  · exact congrArg some (settled.required event eventIn other otherIn decides otherDecides)
  · intro key value found
    change ((full event).optional key).or (doc.optional key) = some value
    cases own : (full event).optional key with
    | none => exact reached.optional key value found
    | some =>
      exact congrArg some
        (settled.optional event eventIn other otherIn decides otherDecides key _ _ own found)

theorem deliver_progress {before : List Event} (settled : Settled full events)
    (deleteLast : DeleteLast full events) (eventIn : event ∈ events)
    (inside : ∀ earlier ∈ before, earlier ∈ events) (progress : Progress full events before doc) :
    Progress full events (before ++ [event]) (deliverEvent full doc event) := by
  have here : event ∈ before ++ [event] := mem_append_right _ (mem_singleton_self event)
  have unchanged : (Decides full events event → Reached full event doc) →
      Progress full events (before ++ [event]) doc := by
    intro decided
    refine ⟨?_, ?_, ?_, ?_⟩
    · intro stored found
      obtain ⟨earlier, member, stamp⟩ := progress.stamp stored found
      exact ⟨earlier, mem_append_left _ member, stamp⟩
    · intro deleted
      obtain ⟨earlier, member, isDeleted⟩ := progress.deleted deleted
      exact ⟨earlier, mem_append_left _ member, isDeleted⟩
    · intro key found
      obtain ⟨earlier, member, value⟩ := progress.values key found
      exact ⟨earlier, mem_append_left _ member, value⟩
    · intro other member decides
      rcases mem_snoc.mp member with old | rfl
      · exact progress.reached other old decides
      · exact decided decides
  unfold deliverEvent
  by_cases deleted : doc.isDeleted = true
  · -- the delete is the one event that decides
    rw [apply_deleted deleted]
    apply unchanged
    intro decides
    obtain ⟨delete, member, isDeleted⟩ := progress.deleted deleted
    have same := deleteLast.once event eventIn delete (inside delete member)
      (decides.2 ⟨delete, inside delete member, isDeleted⟩) isDeleted
    rw [same] at decides ⊢
    exact progress.reached delete member decides
  · have live : doc.isDeleted = false := Bool.eq_false_iff.mpr deleted
    by_cases admitted : admits doc.eventTs (full event).eventTs = true
    · rw [apply_admitted live admitted]
      refine ⟨?_, ?_, ?_, ?_⟩
      · intro _ found
        exact ⟨event, here, Option.some.inj found⟩
      · intro isDeleted
        exact ⟨event, here, isDeleted⟩
      · intro key found
        change ((full event).optional key).or (doc.optional key) ≠ none at found
        cases own : (full event).optional key with
        | some value => exact ⟨event, here, by rw [own]; exact Option.some_ne_none value⟩
        | none =>
          rw [own] at found
          obtain ⟨earlier, member, value⟩ := progress.values key found
          exact ⟨earlier, mem_append_left _ member, value⟩
      · intro other member decides
        rcases mem_snoc.mp member with old | new
        · have reached := progress.reached other old decides
          have noDelete : ¬ ∃ deleted ∈ events, (full deleted).isDeleted = true := by
            intro deletes
            rw [reached.isDeleted] at live
            rw [decides.2 deletes] at live
            contradiction
          rw [reached.eventTs, admits_some] at admitted
          have eventDecides : Decides full events event := by
            refine ⟨?_, fun deletes => absurd deletes noDelete⟩
            intro third thirdIn
            exact Int.le_trans (decides.1 third thirdIn) admitted
          have eventLive : (full event).isDeleted = false :=
            Bool.eq_false_iff.mpr fun isDeleted => noDelete ⟨event, eventIn, isDeleted⟩
          exact reached_overwritten settled eventIn (inside other old) eventDecides decides
            (by rw [eventLive, ← reached.isDeleted, live]) reached
        · rw [new]
          exact reached_written event doc
    · -- something newer was delivered before
      rw [apply_refused admitted]
      apply unchanged
      intro decides
      cases guard : doc.eventTs with
      | none =>
        rw [guard] at admitted
        exact absurd rfl admitted
      | some stored =>
        obtain ⟨earlier, member, stamp⟩ := progress.stamp stored guard
        rw [guard, admits_some, ← stamp] at admitted
        exact absurd (decides.1 earlier (inside earlier member)) admitted

theorem progress_of_deliveries (settled : Settled full events) (deleteLast : DeleteLast full events)
    (deliveries : List Event) (inside : ∀ event ∈ deliveries, event ∈ events) :
    Progress full events deliveries (runFrom (deliverEvent full) {} deliveries) := by
  induction deliveries using List.reverseRecOn with
  | nil =>
    refine ⟨?_, ?_, ?_, ?_⟩
    · intro _ _
      contradiction
    · intro _
      contradiction
    · intro _ _
      contradiction
    · intro _ _
      contradiction
  | append_singleton before event ih =>
    rw [run_from_snoc]
    have earlier : ∀ other ∈ before, other ∈ events := fun other member =>
      inside other (mem_append_left _ member)
    apply deliver_progress settled deleteLast _ earlier (ih earlier)
    exact inside event (mem_append_right _ (mem_singleton_self event))

theorem settled_docs_eq (settled : Settled full events) (deleteLast : DeleteLast full events)
    {first second : List Event} (firstCovers : Covers first events)
    (secondCovers : Covers second events) :
    projectAll full first = projectAll full second := by
  by_cases nonempty : events = []
  · have empty : ∀ deliveries, Covers deliveries events → deliveries = [] := by
      intro _ covers
      apply eq_nil_iff_forall_not_mem.mpr
      intro event member
      have inside := (covers event).mp member
      rw [nonempty] at inside
      contradiction
    rw [empty first firstCovers, empty second secondCovers]
  · obtain ⟨_, member⟩ := exists_mem_of_ne_nil _ nonempty
    obtain ⟨decider, deciderIn, decides⟩ := exists_decider deleteLast member
    have firstProgress := progress_of_deliveries settled deleteLast first
      fun other inside => (firstCovers other).mp inside
    have secondProgress := progress_of_deliveries settled deleteLast second
      fun other inside => (secondCovers other).mp inside
    have firstIn := (firstCovers decider).mpr deciderIn
    have secondIn := (secondCovers decider).mpr deciderIn
    rw [project_all_eq full (ne_nil_of_mem firstIn), project_all_eq full (ne_nil_of_mem secondIn)]
    have left := firstProgress.reached decider firstIn decides
    have right := secondProgress.reached decider secondIn decides
    apply congrArg some
    apply GuardedDoc.ext
    · rw [left.isDeleted, right.isDeleted]
    · rw [left.required, right.required]
    · funext key
      by_cases carried : ∃ other ∈ events, (full other).optional key ≠ none
      · obtain ⟨other, otherIn, value⟩ := carried
        obtain ⟨carrier, carrierIn, carries, present⟩ := settled.covered other otherIn key value
        obtain ⟨found, own⟩ := Option.ne_none_iff_exists'.mp present
        rw [(firstProgress.reached carrier ((firstCovers carrier).mpr carrierIn)
            carries).optional key found own,
          (secondProgress.reached carrier ((secondCovers carrier).mpr carrierIn)
            carries).optional key found own]
      · have absent : ∀ (deliveries : List Event) doc, Covers deliveries events →
            Progress full events deliveries doc → doc.optional key = none := by
          intro _ _ covers progress
          by_contra found
          obtain ⟨other, inside, value⟩ := progress.values key found
          exact carried ⟨other, (covers other).mp inside, value⟩
        rw [absent first _ firstCovers firstProgress, absent second _ secondCovers secondProgress]
    · rw [left.eventTs, right.eventTs]
    · rw [left.updatedAt, right.updatedAt]

variable (full) in
/-- A document that only deciding events change. -/
def Closed (events : List Event) (doc : GuardedDoc Required Key Value) : Prop :=
  doc.isDeleted = true ∨ (∀ event ∈ events, (full event).isDeleted = false) ∧
      ∃ top ∈ events, AtTop (stampOf full) events top ∧ doc.eventTs = some (stampOf full top)

variable (full) in
/-- No deciding event carries the field. -/
def Uncarried (events : List Event) (key : Key) : Prop :=
  ∀ event ∈ events, Decides full events event → (full event).optional key = none

theorem deliver_closed (uncarried : Uncarried full events key) (member : event ∈ events)
    (closed : Closed full events doc) :
    Closed full events (deliverEvent full doc event) ∧
      (deliverEvent full doc event).optional key = doc.optional key := by
  unfold deliverEvent
  by_cases deleted : doc.isDeleted = true
  · rw [apply_deleted deleted]
    exact ⟨Or.inl deleted, rfl⟩
  · have live : doc.isDeleted = false := Bool.eq_false_iff.mpr deleted
    rcases closed with isDeleted | ⟨noDelete, top, topIn, isTop, guard⟩
    · exact absurd isDeleted deleted
    · by_cases admitted : admits doc.eventTs (full event).eventTs = true
      · rw [apply_admitted live admitted]
        rw [guard, admits_some] at admitted
        have reached : AtTop (stampOf full) events event := by
          intro other otherIn
          exact Int.le_trans (isTop other otherIn) admitted
        have none := uncarried event member ⟨reached, fun ⟨other, otherIn, isDeleted⟩ => by
          rw [noDelete other otherIn] at isDeleted
          contradiction⟩
        refine ⟨Or.inr ⟨noDelete, event, member, reached, rfl⟩, ?_⟩
        change ((full event).optional key).or (doc.optional key) = doc.optional key
        rw [none]
        rfl
      · rw [apply_refused admitted]
        exact ⟨Or.inr ⟨noDelete, top, topIn, isTop, guard⟩, rfl⟩

theorem deliveries_closed (uncarried : Uncarried full events key) (deliveries : List Event)
    (inside : ∀ event ∈ deliveries, event ∈ events) (closed : Closed full events doc) :
    (runFrom (deliverEvent full) doc deliveries).optional key = doc.optional key := by
  induction deliveries generalizing doc with
  | nil => rfl
  | cons event deliveries ih =>
    have delivered := deliver_closed uncarried (inside event mem_cons_self) closed
    rw [run_from_cons, ih (fun other member => inside other (mem_cons_of_mem _ member))
      delivered.1]
    exact delivered.2

theorem decider_closes (member : event ∈ events) (decides : Decides full events event)
    (doc : GuardedDoc Required Key Value) : Closed full events (doc.writeFields (full event)) := by
  cases isDeleted : (full event).isDeleted with
  | true => exact Or.inl isDeleted
  | false =>
    apply Or.inr
    refine ⟨?_, event, member, decides.1, rfl⟩
    intro other otherIn
    apply Bool.eq_false_iff.mpr
    intro deleted
    rw [decides.2 ⟨other, otherIn, deleted⟩] at isDeleted
    contradiction

theorem deliveries_live (noDelete : ∀ event ∈ events, (full event).isDeleted = false) {top : Event}
    (isTop : AtTop (stampOf full) events top) (deliveries : List Event)
    (inside : ∀ event ∈ deliveries, event ∈ events) :
    (runFrom (deliverEvent full) {} deliveries).isDeleted = false ∧
      ∀ stored, (runFrom (deliverEvent full) {} deliveries).eventTs = some stored →
        stored ≤ stampOf full top := by
  induction deliveries using List.reverseRecOn with
  | nil => exact ⟨rfl, fun stored found => nomatch found⟩
  | append_singleton earlier event ih =>
    obtain ⟨live, bounded⟩ := ih fun other member => inside other (mem_append_left _ member)
    have member := inside event (mem_append_right _ (mem_singleton_self event))
    rw [run_from_snoc]
    generalize runFrom (deliverEvent full) {} earlier = doc at live bounded ⊢
    unfold deliverEvent
    by_cases admitted : admits doc.eventTs (full event).eventTs = true
    · rw [apply_admitted live admitted]
      refine ⟨noDelete event member, ?_⟩
      intro _ found
      rw [← Option.some.inj found]
      exact isTop event member
    · rw [apply_refused admitted]
      exact ⟨live, bounded⟩

theorem newest_last (noDelete : ∀ event ∈ events, (full event).isDeleted = false)
    (isTop : AtTop (stampOf full) events event) :
    ∃ doc, projectAll full (events ++ [event]) = some doc ∧ Reached full event doc := by
  rw [project_all_eq full (by simp), run_from_snoc]
  refine ⟨_, rfl, ?_⟩
  obtain ⟨live, bounded⟩ := deliveries_live noDelete isTop events fun other inside => inside
  generalize runFrom (deliverEvent full) {} events = doc at live bounded ⊢
  unfold deliverEvent
  rw [apply_admitted live (admits_of_le bounded)]
  exact reached_written event doc

theorem uncarried_null (deleteLast : DeleteLast full events) (uncarried : Uncarried full events key)
    (same : ∀ first second, Covers first events → Covers second events →
      projectAll full first = projectAll full second) (member : event ∈ events) :
    (full event).optional key = none := by
  obtain ⟨decider, deciderIn, decides⟩ := exists_decider deleteLast member
  have covered : ∀ first ∈ events, ∀ deliveries, Covers deliveries events →
      Covers (first :: deliveries) events := by
    intro _ firstIn _ covers other
    rw [mem_cons, covers other]
    constructor
    · rintro (rfl | inside)
      · exact firstIn
      · exact inside
    · exact Or.inr
  have first : deliverEvent full {} decider =
      GuardedDoc.writeFields {} (full decider) := apply_admitted rfl rfl
  have deciderFirst : (runFrom (deliverEvent full) {} (decider :: events)).optional key = none := by
    rw [run_from_cons, first, deliveries_closed uncarried events (fun _ inside => inside)
      (decider_closes deciderIn decides _)]
    change ((full decider).optional key).or none = none
    rw [uncarried decider deciderIn decides]
    rfl
  by_cases isDeleted : (full event).isDeleted = true
  · exact uncarried event member ⟨deleteLast.newest event member isDeleted, fun _ => isDeleted⟩
  · have live : (GuardedDoc.writeFields {} (full event)).isDeleted = false :=
      Bool.eq_false_iff.mpr isDeleted
    have admitted : admits (GuardedDoc.writeFields {} (full event)).eventTs
        (full decider).eventTs = true := admits_some.mpr (decides.1 event member)
    have second : deliverEvent full (deliverEvent full {} event) decider =
        (GuardedDoc.writeFields {} (full event)).writeFields (full decider) :=
      apply_admitted live admitted
    have eventFirst : (runFrom (deliverEvent full) {} (event :: decider :: events)).optional key =
        (full event).optional key := by
      rw [run_from_cons, run_from_cons, second, deliveries_closed uncarried events
        (fun _ inside => inside) (decider_closes deciderIn decides _)]
      change ((full decider).optional key).or (((full event).optional key).or none) = _
      rw [uncarried decider deciderIn decides, Option.none_or, Option.or_none]
    have docs := same (decider :: events) (event :: decider :: events)
      (covered decider deciderIn events (covers_self events))
      (covered event member _ (covered decider deciderIn events (covers_self events)))
    rw [project_all_eq full (by simp), project_all_eq full (by simp)] at docs
    rw [← eventFirst, ← Option.some.inj docs]
    exact deciderFirst

theorem settled_of_same (deleteLast : DeleteLast full events)
    (same : ∀ first second, Covers first events → Covers second events →
      projectAll full first = projectAll full second) : Settled full events := by
  have agree : ∀ first ∈ events, ∀ second ∈ events, Decides full events first →
      Decides full events second → first = second ∨
        ∃ doc, Reached full first doc ∧ Reached full second doc := by
    intro first firstIn second secondIn firstDecides secondDecides
    by_cases deletes : ∃ deleted ∈ events, (full deleted).isDeleted = true
    · exact Or.inl (deleteLast.once first firstIn second secondIn (firstDecides.2 deletes)
        (secondDecides.2 deletes))
    · have noDelete : ∀ event ∈ events, (full event).isDeleted = false := by
        intro event member
        exact Bool.eq_false_iff.mpr fun isDeleted => deletes ⟨event, member, isDeleted⟩
      obtain ⟨left, leftProjected, leftReached⟩ := newest_last noDelete firstDecides.1
      obtain ⟨_, rightProjected, rightReached⟩ := newest_last noDelete secondDecides.1
      have docs := same _ _ (covers_redelivered firstIn) (covers_redelivered secondIn)
      rw [leftProjected, rightProjected] at docs
      cases docs
      exact Or.inr ⟨left, leftReached, rightReached⟩
  refine ⟨?_, ?_, ?_⟩
  · intro first firstIn second secondIn firstDecides secondDecides
    rcases agree first firstIn second secondIn firstDecides secondDecides with
      rfl | ⟨doc, left, right⟩
    · rfl
    · exact Option.some.inj (left.required.symm.trans right.required)
  · intro first firstIn second secondIn firstDecides secondDecides key left right leftOwn rightOwn
    rcases agree first firstIn second secondIn firstDecides secondDecides with
      rfl | ⟨doc, leftReached, rightReached⟩
    · exact Option.some.inj (leftOwn.symm.trans rightOwn)
    · exact Option.some.inj ((leftReached.optional key left leftOwn).symm.trans
        (rightReached.optional key right rightOwn))
  · intro _ member _ carried
    by_contra none
    apply carried
    apply uncarried_null deleteLast _ same member
    intro decider deciderIn decides
    by_contra present
    exact none ⟨decider, deciderIn, decides, present⟩

/-- Every order and repetition gives the document of one given order exactly for
the settled events. -/
theorem same_as_iff_settled {ordered : List Event} (deleteLast : DeleteLast full events)
    (orderedCovers : Covers ordered events) :
    (∀ deliveries, Covers deliveries events →
        projectAll full deliveries = projectAll full ordered) ↔ Settled full events := by
  constructor
  · intro converges
    apply settled_of_same deleteLast
    intro first second firstCovers secondCovers
    exact (converges first firstCovers).trans (converges second secondCovers).symm
  · intro settled _ covers
    exact settled_docs_eq settled deleteLast covers orderedCovers

end FinanceTracker.Analytics.GuardedUpsert
