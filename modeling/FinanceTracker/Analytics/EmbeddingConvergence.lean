import FinanceTracker.Analytics.Convergence
import FinanceTracker.Analytics.Embedding

/-!
# When the embedding converges

`updated_at` is the version the embedding is guarded by, but the core script and
the categorization script set it under guards of their own, so an older event of
the other kind moves it back. The embedding ends up at the final document exactly
when every event that passes the guard of its kind is as new as everything
delivered before it, and the documents under the newest timestamp agree.
-/

namespace FinanceTracker.Analytics.EmbeddingConvergence

open Library Deliveries Runs Shared.TransactionEvents TransactionStore Convergence
  Analytics.Embedding List

variable {Vector : Type}

def updatedAt (stored : Option TransactionDoc) : Option Int := stored.bind TransactionDoc.updatedAt

/-- No step of the run moves `updated_at` back. -/
def NeverDecreases (reads : ProjectorReads) (embed : String → Vector) (transactionId : Int)
    (labels : List Label) : Prop :=
  ∀ before label after, labels = before ++ label :: after → ∀ stamp,
    updatedAt (getProjection (embeddingRun reads embed transactionId before).stored) = some stamp →
      ∃ later, updatedAt (getProjection
          (embeddingRun reads embed transactionId (before ++ [label])).stored) = some later ∧
        stamp ≤ later

/-- Every event has a completed pass that started after all events were projected. -/
def AllEmbedded (deliveries : List TransactionEvent) (state : EmbeddingState Vector) : Prop :=
  ∀ event ∈ deliveries, ∃ pass ∈ state.completed,
    pass.event = event ∧ pass.startedAfter = deliveries.length

def EmbedsStored (embed : String → Vector) (state : EmbeddingState Vector) : Prop :=
  state.stored.bind EmbeddedDoc.descriptionVector =
    (getProjection state.stored).map fun doc => embed (buildEmbeddingText doc)

/-- Whatever passes run around the deliveries, `updated_at` never decreases and the
embedding ends up at the final document. -/
def EmbeddingConverges (reads : ProjectorReads) (embed : String → Vector) (transactionId : Int)
    (deliveries : List TransactionEvent) : Prop :=
  ∀ labels, projectedEvents labels = deliveries → NeverDecreases reads embed transactionId labels ∧
      (AllEmbedded deliveries (embeddingRun reads embed transactionId labels) →
        EmbedsStored embed (embeddingRun reads embed transactionId labels))

/-- An event not older than the earlier ones of its kind is not older than any
earlier one. -/
def InOrder (deliveries : List TransactionEvent) : Prop :=
  ∀ before event after, deliveries = before ++ event :: after →
    (∀ earlier ∈ before, earlier.isCategorized = event.isCategorized →
      eventTs earlier ≤ eventTs event) →
    ∀ earlier ∈ before, eventTs earlier ≤ eventTs event

/-- The documents from the first event at the greatest timestamp on have one vector. -/
def TopAgrees (reads : ProjectorReads) (embed : String → Vector) (transactionId : Int)
    (deliveries : List TransactionEvent) : Prop :=
  ∀ before after, deliveries = before ++ after → (∃ newest ∈ before,
      AtTop eventTs deliveries newest) →
    (project reads transactionId before).map (fun doc => embed (buildEmbeddingText doc)) =
      (project reads transactionId deliveries).map fun doc => embed (buildEmbeddingText doc)

theorem deliver_updated_at (reads : ProjectorReads) (doc : TransactionDoc)
    (event : TransactionEvent) :
    (deliver reads doc event).updatedAt =
      if admits (ownGuard doc event) (eventTs event) then some (eventTs event)
      else doc.updatedAt := by
  unfold deliver
  split <;> rfl

/-- The guard of a kind is at least the stamp of every delivered event of the kind. -/
def GuardsCover (before : List TransactionEvent) (doc : TransactionDoc) : Prop :=
  ∀ event ∈ before, ∃ stored, ownGuard doc event = some stored ∧ eventTs event ≤ stored

variable {doc source : TransactionDoc} {reads : ProjectorReads}
  {before after deliveries : List TransactionEvent} {transactionId : Int}
  {event newest : TransactionEvent} {embed : String → Vector} {labels : List Label} {pass : Pass}
  {state : EmbeddingState Vector}

theorem own_guard_of_kind {first second : TransactionEvent}
    (kind : first.isCategorized = second.isCategorized) :
    ownGuard doc first = ownGuard doc second := by
  unfold ownGuard
  rw [kind]

theorem own_guard_deliver (reads : ProjectorReads) (doc : TransactionDoc)
    (event other : TransactionEvent) :
    ownGuard (deliver reads doc event) other =
      if other.isCategorized = event.isCategorized ∧
          admits (ownGuard doc event) (eventTs event) then some (eventTs event)
      else ownGuard doc other := by
  unfold deliver
  by_cases accepted : admits (ownGuard doc event) (eventTs event) = true
  · unfold ownGuard at accepted ⊢
    cases kind : event.isCategorized <;> cases otherKind : other.isCategorized <;>
      simp_all
  · simp [accepted]

theorem guards_cover_deliver (cover : GuardsCover before doc) (event : TransactionEvent) :
    GuardsCover (before ++ [event]) (deliver reads doc event) := by
  intro other member
  rw [own_guard_deliver]
  by_cases accepted : admits (ownGuard doc event) (eventTs event) = true
  · rcases mem_snoc.mp member with old | new
    · obtain ⟨stored, guard, covered⟩ := cover other old
      by_cases kind : other.isCategorized = event.isCategorized
      · rw [if_pos ⟨kind, accepted⟩]
        rw [← own_guard_of_kind kind, guard, admits_some] at accepted
        exact ⟨eventTs event, rfl, Int.le_trans covered accepted⟩
      · rw [if_neg fun both => kind both.1]
        exact ⟨stored, guard, covered⟩
    · rw [new, if_pos ⟨rfl, accepted⟩]
      exact ⟨eventTs event, rfl, Int.le_refl _⟩
  · rw [if_neg fun both => accepted both.2]
    rcases mem_snoc.mp member with old | new
    · exact cover other old
    · rw [new]
      cases guard : ownGuard doc event with
      | none =>
        rw [guard] at accepted
        exact absurd rfl accepted
      | some stored =>
        rw [guard, admits_some] at accepted
        exact ⟨stored, rfl, Int.le_of_lt (Int.not_le.mp accepted)⟩

theorem guards_cover (reads : ProjectorReads) (transactionId : Int)
    (deliveries : List TransactionEvent) :
    GuardsCover deliveries (runFrom (deliver reads) (upsertBody transactionId) deliveries) := by
  apply run_history_keeps (deliver reads)
  · intro _ _
    contradiction
  · intro _ _ event _ cover
    exact guards_cover_deliver cover event

theorem accepted_iff (reads : ProjectorReads) (transactionId : Int)
    (before : List TransactionEvent) (event : TransactionEvent) :
    admits (ownGuard (runFrom (deliver reads) (upsertBody transactionId) before) event)
        (eventTs event) = true ↔
      ∀ earlier ∈ before, earlier.isCategorized = event.isCategorized →
        eventTs earlier ≤ eventTs event := by
  constructor
  · intro accepted earlier member kind
    obtain ⟨_, guard, covered⟩ := guards_cover reads transactionId before earlier member
    rw [← own_guard_of_kind kind, guard, admits_some] at accepted
    exact Int.le_trans covered accepted
  · exact deliver_newest_of_kind (guards_seen reads transactionId before)

theorem refused_older
    (refused : ¬ admits (ownGuard (runFrom (deliver reads) (upsertBody transactionId) before)
      event) (eventTs event) = true) :
    ∃ newer ∈ before, eventTs event < eventTs newer := by
  by_contra none
  apply refused
  apply (accepted_iff reads transactionId before event).mpr
  intro earlier member _
  exact Int.not_lt.mp fun older => none ⟨earlier, member, older⟩

theorem in_order_of_append (ordered : InOrder (before ++ after)) : InOrder before := by
  intro first event rest split
  apply ordered first event (rest ++ after)
  rw [split, append_assoc]
  rfl

/-- Where the deliveries are in order, `updated_at` is the greatest timestamp. -/
theorem updated_at_top (reads : ProjectorReads) (transactionId : Int) (ordered : InOrder deliveries)
    (nonempty : deliveries ≠ []) :
    ∃ top ∈ deliveries, AtTop eventTs deliveries top ∧
      (runFrom (deliver reads) (upsertBody transactionId) deliveries).updatedAt =
        some (eventTs top) := by
  induction deliveries using List.reverseRecOn with
  | nil => contradiction
  | append_singleton before event ih =>
    rw [run_from_snoc, deliver_updated_at]
    have inside : event ∈ before ++ [event] := mem_append_right _ (mem_singleton_self _)
    by_cases accepted : admits (ownGuard (runFrom (deliver reads) (upsertBody transactionId)
        before) event) (eventTs event) = true
    · rw [if_pos accepted]
      refine ⟨event, inside, ?_, rfl⟩
      have newest := ordered before event [] rfl
        ((accepted_iff reads transactionId before event).mp accepted)
      intro other member
      rcases mem_snoc.mp member with old | new
      · exact newest other old
      · rw [new]
    · rw [if_neg accepted]
      obtain ⟨earlier, earlierIn, older⟩ := refused_older accepted
      obtain ⟨top, topIn, isTop, stamp⟩ := ih (in_order_of_append ordered)
        (ne_nil_of_mem earlierIn)
      refine ⟨top, mem_append_left _ topIn, ?_, stamp⟩
      refine forall_snoc isTop ?_
      exact Int.le_of_lt (Int.lt_of_lt_of_le older (isTop earlier earlierIn))

theorem project_top (reads : ProjectorReads) (transactionId : Int) (ordered : InOrder deliveries)
    (member : event ∈ deliveries) :
    ∃ doc top, project reads transactionId deliveries = some doc ∧ top ∈ deliveries ∧
      AtTop eventTs deliveries top ∧ doc.updatedAt = some (eventTs top) := by
  have nonempty := ne_nil_of_mem member
  obtain ⟨top, topIn, isTop, stamp⟩ := updated_at_top reads transactionId ordered nonempty
  exact ⟨_, top, project_eq reads transactionId nonempty, topIn, isTop, stamp⟩

/-- A run that projects the deliveries and nothing else. -/
def projections (deliveries : List TransactionEvent) : List Label := deliveries.map Label.project

theorem projected_projections (deliveries : List TransactionEvent) :
    projectedEvents (projections deliveries) = deliveries := by
  unfold projectedEvents projections
  rw [filterMap_map]
  exact filterMap_some

theorem run_document (reads : ProjectorReads) (embed : String → Vector) (transactionId : Int)
    (labels : List Label) :
    getProjection (embeddingRun reads embed transactionId labels).stored =
      project reads transactionId (projectedEvents labels) :=
  (run_projected reads embed transactionId labels).document

/-- Along a run that never goes back, `updated_at` covers all delivered events. -/
theorem updated_at_covers
    (never : NeverDecreases reads embed transactionId (projections deliveries))
    (before after : List TransactionEvent) (split : deliveries = before ++ after) :
    ∀ earlier ∈ before, ∃ stamp, updatedAt (project reads transactionId before) = some stamp ∧
      eventTs earlier ≤ stamp := by
  induction before using List.reverseRecOn generalizing after with
  | nil =>
    intro _ _
    contradiction
  | append_singleton before event ih =>
    have covered := ih ([event] ++ after) (by rw [split, append_assoc])
    have monotone := never (projections before) (.project event) (projections after) (by
      rw [split]
      simp [projections])
    rw [run_document, run_document, projected_events_snoc, projected_projections] at monotone
    have stamped : ∀ stamp, updatedAt (project reads transactionId before) = some stamp →
        ∃ later, updatedAt (project reads transactionId (before ++ [event])) = some later ∧
          stamp ≤ later := monotone
    have written : updatedAt (project reads transactionId (before ++ [event])) =
        (deliver reads (runFrom (deliver reads) (upsertBody transactionId) before)
          event).updatedAt := by
      rw [project_eq reads transactionId (by simp), run_from_snoc]
      rfl
    intro earlier member
    rcases mem_snoc.mp member with old | new
    · obtain ⟨stamp, found, older⟩ := covered earlier old
      obtain ⟨later, laterFound, grown⟩ := stamped stamp found
      exact ⟨later, laterFound, Int.le_trans older grown⟩
    · rw [new]
      by_cases accepted : admits (ownGuard (runFrom (deliver reads) (upsertBody transactionId)
          before) event) (eventTs event) = true
      · refine ⟨eventTs event, ?_, Int.le_refl _⟩
        rw [written, deliver_updated_at, if_pos accepted]
      · obtain ⟨other, otherIn, older⟩ := refused_older accepted
        obtain ⟨stamp, found, covers⟩ := covered other otherIn
        obtain ⟨later, laterFound, grown⟩ := stamped stamp found
        exact ⟨later, laterFound, Int.le_trans (Int.le_of_lt older) (Int.le_trans covers grown)⟩

theorem in_order_of_never_decreases
    (never : NeverDecreases reads embed transactionId (projections deliveries)) :
    InOrder deliveries := by
  intro before event after split newest earlier member
  have covered := updated_at_covers never (before ++ [event]) after
    (by rw [split, append_assoc]; rfl)
  obtain ⟨stamp, found, older⟩ := covered earlier (mem_append_left _ member)
  have accepted := (accepted_iff reads transactionId before event).mpr newest
  rw [project_eq reads transactionId (by simp), run_from_snoc] at found
  change (deliver reads _ event).updatedAt = some stamp at found
  rw [deliver_updated_at, if_pos accepted] at found
  cases found
  exact older

theorem never_decreases_of_in_order (reads : ProjectorReads) (embed : String → Vector)
    (transactionId : Int) (ordered : InOrder (projectedEvents labels)) :
    NeverDecreases reads embed transactionId labels := by
  intro before label after split stamp found
  rw [split, projected_events_append] at ordered
  rw [run_document] at found ⊢
  rw [projected_events_snoc]
  cases label with
  | read | write => exact ⟨stamp, found, Int.le_refl _⟩
  | project event =>
    have longer : InOrder (projectedEvents before ++ [event]) := by
      rw [show projectedEvents (.project event :: after) = [event] ++ projectedEvents after from
        rfl, ← append_assoc] at ordered
      exact in_order_of_append ordered
    obtain ⟨_, top, projected, _, isTop, topStamp⟩ := project_top reads transactionId longer
      (mem_append_right _ (mem_singleton_self event))
    refine ⟨eventTs top, ?_, ?_⟩
    · dsimp only
      rw [projected]
      exact topStamp
    · have nonempty : projectedEvents before ≠ [] := by
        intro empty
        rw [empty] at found
        contradiction
      obtain ⟨_, firstIn⟩ := exists_mem_of_ne_nil _ nonempty
      obtain ⟨earlierDoc, earlier, earlierProjected, earlierIn, _, earlierStamp⟩ :=
        project_top reads transactionId (in_order_of_append ordered) firstIn
      rw [earlierProjected] at found
      change earlierDoc.updatedAt = some stamp at found
      rw [earlierStamp] at found
      cases found
      exact isTop earlier (mem_append_left _ earlierIn)

/-- The source of a pass is the document of the first deliveries, at least as new
as the event it is for. -/
structure PassOf (reads : ProjectorReads) (transactionId : Int)
    (projected : List TransactionEvent) (pass : Pass) : Prop where
  source : project reads transactionId (projected.take pass.startedAfter) = some pass.source
  started : pass.startedAfter ≤ projected.length
  fresh : eventTs pass.event ≤ updatedAtOrZero pass.source

theorem pass_of_longer {projected : List TransactionEvent}
    (seen : PassOf reads transactionId projected pass) (event : TransactionEvent) :
    PassOf reads transactionId (projected ++ [event]) pass := by
  have longer : pass.startedAfter ≤ (projected ++ [event]).length := by
    rw [length_append]
    exact Nat.le_add_right_of_le seen.started
  refine ⟨?_, longer, seen.fresh⟩
  rw [take_append_of_le_length seen.started]
  exact seen.source

def VectorOf (embed : String → Vector) (completed : List Pass) (doc : EmbeddedDoc Vector) : Prop :=
  ∃ pass ∈ completed, doc.embeddingEventTs = some (updatedAtOrZero pass.source) ∧
    doc.descriptionVector = some (embed (buildEmbeddingText pass.source)) ∧
    ∀ other ∈ completed, updatedAtOrZero other.source ≤ updatedAtOrZero pass.source

structure PassesSeen (reads : ProjectorReads) (embed : String → Vector) (transactionId : Int)
    (labels : List Label) (state : EmbeddingState Vector) : Prop where
  projected : Projected reads transactionId labels state
  inFlight : ∀ pass ∈ state.inFlight, PassOf reads transactionId (projectedEvents labels) pass
  completed : ∀ pass ∈ state.completed, PassOf reads transactionId (projectedEvents labels) pass
  vector : ∀ doc, state.stored = some doc →
    if state.completed = [] then doc.embeddingEventTs = none
    else VectorOf embed state.completed doc

theorem project_live (projected : project reads transactionId deliveries = some doc) :
    doc.isDeleted = false := by
  cases deliveries with
  | nil => contradiction
  | cons event =>
    rw [project_eq reads transactionId (by simp)] at projected
    cases projected
    exact @run_keeps _ _ (deliver reads) (fun stored => stored.isDeleted = false)
      (fun _ event live => deliver_live live event) (upsertBody transactionId) rfl _

theorem stored_of_pass (projected : Projected reads transactionId labels state)
    (seen : PassOf reads transactionId (projectedEvents labels) pass) :
    ∃ doc, state.stored = some doc ∧ doc.isDeleted = false := by
  have nonempty : projectedEvents labels ≠ [] := by
    intro empty
    have source := seen.source
    rw [empty, take_nil] at source
    contradiction
  have document := projected.document
  have live := project_live (project_eq reads transactionId nonempty)
  rw [project_eq reads transactionId nonempty] at document
  unfold getProjection at document
  obtain ⟨doc, stored, same⟩ := Option.map_eq_some_iff.mp document
  rw [← same] at live
  exact ⟨doc, stored, live⟩

theorem write_vector (embed : String → Vector) {completed : List Pass} {doc : EmbeddedDoc Vector}
    (live : doc.isDeleted = false) (pass : Pass)
    (vector : if completed = [] then doc.embeddingEventTs = none
      else VectorOf embed completed doc) :
    ∃ next, embedSource embed pass.source (some doc) = some next ∧
      VectorOf embed (completed ++ [pass]) next ∧
      ((∀ other ∈ completed, updatedAtOrZero other.source ≤ updatedAtOrZero pass.source) →
        next.descriptionVector = some (embed (buildEmbeddingText pass.source))) := by
  have inside : pass ∈ completed ++ [pass] :=
    mem_append_right _ (mem_singleton_self pass)
  have written : ∀ _ : admits doc.embeddingEventTs (updatedAtOrZero pass.source) = true,
      embedSource embed pass.source (some doc) =
        some { doc with
          descriptionVector := some (embed (buildEmbeddingText pass.source))
          embeddingEventTs := some (updatedAtOrZero pass.source) } := by
    intro admitted
    unfold embedSource updateEmbedding embeddingScript
    simp [live, admitted]
  have replaced : admits doc.embeddingEventTs (updatedAtOrZero pass.source) = true →
      (∀ other ∈ completed, updatedAtOrZero other.source ≤ updatedAtOrZero pass.source) →
      ∃ next, embedSource embed pass.source (some doc) = some next ∧
        VectorOf embed (completed ++ [pass]) next ∧
        ((∀ other ∈ completed, updatedAtOrZero other.source ≤ updatedAtOrZero pass.source) →
          next.descriptionVector = some (embed (buildEmbeddingText pass.source))) := by
    intro admitted older
    refine ⟨_, written admitted, ⟨pass, inside, rfl, rfl, ?_⟩, fun _ => rfl⟩
    intro other member
    rcases mem_snoc.mp member with old | new
    · exact older other old
    · rw [new]
  by_cases first : completed = []
  · rw [if_pos first] at vector
    apply replaced
    · rw [vector]
      rfl
    · rw [first]
      intro _ _
      contradiction
  · rw [if_neg first] at vector
    obtain ⟨holder, holderIn, guard, text, newest⟩ := vector
    by_cases admitted : admits doc.embeddingEventTs (updatedAtOrZero pass.source) = true
    · apply replaced admitted
      intro other member
      rw [guard, admits_some] at admitted
      exact Int.le_trans (newest other member) admitted
    · have refused : embedSource embed pass.source (some doc) = some doc := by
        unfold embedSource updateEmbedding embeddingScript
        simp [live, admitted]
      rw [guard, admits_some] at admitted
      refine ⟨doc, refused, ⟨holder, mem_append_left _ holderIn, guard, text, ?_⟩, ?_⟩
      · refine forall_snoc newest ?_
        exact Int.le_of_lt (Int.not_le.mp admitted)
      · intro older
        exact absurd (older holder holderIn) admitted

theorem project_stored_vector {stored : Option (EmbeddedDoc Vector)} {next : EmbeddedDoc Vector}
    (projected : projectStored reads transactionId stored event = some next) :
    next.embeddingEventTs = stored.bind EmbeddedDoc.embeddingEventTs ∧
      next.descriptionVector = stored.bind EmbeddedDoc.descriptionVector := by
  unfold projectStored at projected
  obtain ⟨_, _, rfl⟩ := Option.map_eq_some_iff.mp projected
  exact ⟨rfl, rfl⟩

theorem step_passes_seen {before : List Label}
    (seen : PassesSeen reads embed transactionId before state) (label : Label) :
    PassesSeen reads embed transactionId (before ++ [label])
      (step reads embed transactionId state label) := by
  have projected := step_projected embed seen.projected label
  have snoc := projected_events_snoc before label
  cases label with
  | project event =>
    refine ⟨projected, ?_, ?_, ?_⟩
    · rw [snoc]
      intro pass member
      exact pass_of_longer (seen.inFlight pass member) event
    · rw [snoc]
      intro pass member
      exact pass_of_longer (seen.completed pass member) event
    · intro next stored
      obtain ⟨guard, text⟩ := project_stored_vector stored
      change if state.completed = [] then _ else VectorOf embed state.completed next
      cases found : state.stored with
      | some doc =>
        have vector := seen.vector doc found
        rw [found] at guard text
        by_cases first : state.completed = []
        · rw [if_pos first] at vector ⊢
          exact guard.trans vector
        · rw [if_neg first] at vector ⊢
          obtain ⟨holder, holderIn, stamp, written, newest⟩ := vector
          exact ⟨holder, holderIn, guard.trans stamp, text.trans written, newest⟩
      | none =>
        rw [found] at guard
        by_cases first : state.completed = []
        · rw [if_pos first]
          exact guard
        · obtain ⟨pass, member⟩ := exists_mem_of_ne_nil _ first
          obtain ⟨_, there, _⟩ := stored_of_pass seen.projected (seen.completed pass member)
          rw [found] at there
          contradiction
  | read event =>
    have same : projectedEvents (before ++ [.read event]) = projectedEvents before := snoc
    unfold step at projected ⊢
    dsimp only at projected ⊢
    split at projected
    · rename_i source read
      refine ⟨projected, ?_, same ▸ seen.completed, seen.vector⟩
      rw [same]
      refine forall_snoc seen.inFlight ?_
      obtain ⟨stored, _, fresh⟩ := read_for_event_source.mp read
      refine ⟨?_, Nat.le_of_eq seen.projected.count, fresh⟩
      rw [seen.projected.count, take_length, ← seen.projected.document]
      exact stored
    · exact ⟨projected, same ▸ seen.inFlight, same ▸ seen.completed, seen.vector⟩
  | write index =>
    have same : projectedEvents (before ++ [.write index]) = projectedEvents before := snoc
    unfold step at projected ⊢
    dsimp only at projected ⊢
    cases found : state.inFlight[index]? with
    | none =>
      rw [found] at projected
      exact ⟨projected, same ▸ seen.inFlight, same ▸ seen.completed, seen.vector⟩
    | some pass =>
      rw [found] at projected
      have passSeen := seen.inFlight pass (mem_of_getElem? found)
      obtain ⟨doc, stored, live⟩ := stored_of_pass seen.projected passSeen
      obtain ⟨_, written, vector, _⟩ := write_vector embed live pass (seen.vector doc stored)
      refine ⟨projected, ?_, ?_, ?_⟩
      · rw [same]
        intro other member
        exact seen.inFlight other (mem_of_mem_eraseIdx member)
      · rw [same]
        refine forall_snoc seen.completed ?_
        exact passSeen
      · intro other otherStored
        change embedSource embed pass.source state.stored = some other at otherStored
        rw [stored, written] at otherStored
        cases otherStored
        change if state.completed ++ [pass] = [] then _ else _
        rw [if_neg (by simp)]
        exact vector

theorem run_passes_seen (reads : ProjectorReads) (embed : String → Vector) (transactionId : Int)
    (labels : List Label) :
    PassesSeen reads embed transactionId labels (embeddingRun reads embed transactionId labels) := by
  unfold embeddingRun
  apply run_history_keeps (step reads embed transactionId)
  · refine ⟨⟨rfl, rfl⟩, ?_, ?_, ?_⟩
    · intro _ _
      contradiction
    · intro _ _
      contradiction
    · intro _ _
      contradiction
  · intro _ _ label _ seen
    exact step_passes_seen seen label

theorem pass_stamp (ordered : InOrder deliveries)
    (seen : PassOf reads transactionId deliveries pass) :
    ∃ top ∈ deliveries.take pass.startedAfter,
      AtTop eventTs (deliveries.take pass.startedAfter) top ∧
        updatedAtOrZero pass.source = eventTs top := by
  have nonempty : deliveries.take pass.startedAfter ≠ [] := by
    intro empty
    have source := seen.source
    rw [empty] at source
    contradiction
  obtain ⟨_, firstIn⟩ := exists_mem_of_ne_nil _ nonempty
  have shorter : InOrder (deliveries.take pass.startedAfter) := by
    rw [← take_append_drop pass.startedAfter deliveries] at ordered
    exact in_order_of_append ordered
  obtain ⟨_, top, projected, topIn, isTop, stamp⟩ :=
    project_top reads transactionId shorter firstIn
  rw [seen.source] at projected
  cases projected
  refine ⟨top, topIn, isTop, ?_⟩
  unfold updatedAtOrZero
  rw [stamp]
  rfl

theorem embeds_stored_of_in_order (ordered : InOrder (projectedEvents labels))
    (agrees : TopAgrees reads embed transactionId (projectedEvents labels))
    (embedded : AllEmbedded (projectedEvents labels)
      (embeddingRun reads embed transactionId labels)) :
    EmbedsStored embed (embeddingRun reads embed transactionId labels) := by
  have seen := run_passes_seen reads embed transactionId labels
  generalize embeddingRun reads embed transactionId labels = state at seen embedded
  have document := seen.projected.document
  unfold EmbedsStored
  rw [document]
  by_cases nonempty : projectedEvents labels = []
  · rw [nonempty] at document ⊢
    have missing : state.stored = none := Option.map_eq_none_iff.mp document
    rw [missing]
    rfl
  · obtain ⟨_, firstIn⟩ := exists_mem_of_ne_nil _ nonempty
    obtain ⟨newest, newestIn, isNewest⟩ := exists_top eventTs firstIn
    obtain ⟨last, lastIn, lastEvent, _⟩ := embedded newest newestIn
    obtain ⟨doc, stored, _⟩ := stored_of_pass seen.projected (seen.completed last lastIn)
    have vector := seen.vector doc stored
    rw [if_neg (ne_nil_of_mem lastIn)] at vector
    obtain ⟨holder, holderIn, _, text, newer⟩ := vector
    -- the vector is that of a pass as new as the newest event
    have holderSeen := seen.completed holder holderIn
    obtain ⟨top, topIn, _, stamp⟩ := pass_stamp ordered holderSeen
    have fresh := (seen.completed last lastIn).fresh
    rw [lastEvent] at fresh
    have reached : eventTs newest ≤ eventTs top := by
      rw [← stamp]
      exact Int.le_trans fresh (newer last lastIn)
    have agreed := agrees ((projectedEvents labels).take holder.startedAfter)
      ((projectedEvents labels).drop holder.startedAfter) (take_append_drop _ _).symm
      ⟨top, topIn, fun other member => Int.le_trans (isNewest other member) reached⟩
    rw [holderSeen.source] at agreed
    rw [stored]
    exact text.trans agreed

theorem projections_keep_passes (reads : ProjectorReads) (embed : String → Vector)
    (transactionId : Int) (events : List TransactionEvent) (state : EmbeddingState Vector) :
    (runFrom (step reads embed transactionId) state (projections events)).inFlight =
        state.inFlight ∧
      (runFrom (step reads embed transactionId) state (projections events)).completed =
        state.completed := by
  induction events generalizing state with
  | nil => exact ⟨rfl, rfl⟩
  | cons event events ih => exact ih (step reads embed transactionId state (.project event))

theorem step_read (reads : ProjectorReads) (embed : String → Vector) (transactionId : Int)
    (stored : getProjection state.stored = some source) (live : source.isDeleted = false)
    (fresh : eventTs event ≤ updatedAtOrZero source) :
    step reads embed transactionId state (.read event) =
      { state with inFlight := state.inFlight ++ [⟨event, source, state.projected⟩] } := by
  unfold step
  dsimp only
  rw [read_for_event_source.mpr ⟨stored, live, fresh⟩]

/-- One pass for each event, while another pass is in flight. -/
def passesFor (events : List TransactionEvent) : List Label :=
  events.flatMap fun event => [.read event, .write 1]

structure AroundLate (late : Pass) (source : TransactionDoc) (count : Nat)
    (events : List TransactionEvent) (state : EmbeddingState Vector) : Prop where
  document : getProjection state.stored = some source
  counted : state.projected = count
  waiting : state.inFlight = [late]
  embedded : ∀ event ∈ events, ∃ pass ∈ state.completed,
    pass.event = event ∧ pass.startedAfter = count

theorem pass_around_late (reads : ProjectorReads) (embed : String → Vector) (transactionId : Int)
    {late : Pass} {count : Nat} {events : List TransactionEvent}
    (around : AroundLate late source count events state) (live : source.isDeleted = false)
    (fresh : eventTs event ≤ updatedAtOrZero source) :
    AroundLate late source count (events ++ [event])
      (runFrom (step reads embed transactionId) state [.read event, .write 1]) := by
  have afterRead := step_read reads embed transactionId around.document live fresh
  rw [around.waiting, around.counted] at afterRead
  rw [run_from_cons, run_from_cons, run_from_nil, afterRead]
  constructor
  · exact (projection_of_embedded embed source state.stored).trans around.document
  · rfl
  · rfl
  · intro other member
    rcases mem_snoc.mp member with old | new
    · obtain ⟨pass, passIn, passEvent, passCount⟩ := around.embedded other old
      exact ⟨pass, mem_append_left _ passIn, passEvent, passCount⟩
    · rw [new]
      exact ⟨⟨event, source, count⟩, mem_append_right _ (mem_singleton_self _), rfl, rfl⟩

theorem passes_around_late (reads : ProjectorReads) (embed : String → Vector) (transactionId : Int)
    {late : Pass} {count : Nat} (live : source.isDeleted = false) (events : List TransactionEvent)
    (fresh : ∀ event ∈ events, eventTs event ≤ updatedAtOrZero source)
    (around : AroundLate late source count [] state) :
    AroundLate late source count events
      (runFrom (step reads embed transactionId) state (passesFor events)) := by
  induction events using List.reverseRecOn with
  | nil => exact around
  | append_singleton before event ih =>
    have earlier := ih fun other member => fresh other (mem_append_left _ member)
    have here := fresh event (mem_append_right _ (mem_singleton_self event))
    unfold passesFor at earlier ⊢
    rw [flatMap_append, run_from_append]
    exact pass_around_late reads embed transactionId earlier live here

theorem projected_passes (events : List TransactionEvent) :
    projectedEvents (passesFor events) = [] := by
  induction events with
  | nil => rfl
  | cons event events ih => exact ih

/-- A pass for one event reads between two parts of the deliveries. -/
def readBetween (before : List TransactionEvent) (event : TransactionEvent)
    (after : List TransactionEvent) : List Label :=
  projections before ++ .read event :: projections after

theorem projected_read_between (before : List TransactionEvent) (event : TransactionEvent)
    (after : List TransactionEvent) :
    projectedEvents (readBetween before event after) = before ++ after := by
  unfold readBetween
  rw [projected_events_append, projected_projections]
  exact congrArg (before ++ ·) (projected_projections after)

theorem late_waits (reads : ProjectorReads) (embed : String → Vector) (transactionId : Int)
    (before after : List TransactionEvent)
    (projected : project reads transactionId before = some source)
    (fresh : eventTs event ≤ updatedAtOrZero source) :
    (embeddingRun reads embed transactionId (readBetween before event after)).inFlight =
      [⟨event, source, before.length⟩] := by
  have first := run_projected reads embed transactionId (projections before)
  have document := first.document
  have count := first.count
  rw [projected_projections] at document count
  have nothing := (projections_keep_passes reads embed transactionId before {}).1
  unfold embeddingRun at document count ⊢
  unfold readBetween
  rw [run_from_append, run_from_cons,
    step_read reads embed transactionId (document.trans projected) (project_live projected) fresh,
    (projections_keep_passes reads embed transactionId after _).1]
  dsimp only
  rw [nothing, count]
  rfl

/-- A pass that has read a document under the newest timestamp may write last, so
all such documents have the vector of the final one. -/
theorem top_agrees_of_converges
    (converges : EmbeddingConverges reads embed transactionId deliveries)
    (ordered : InOrder deliveries) : TopAgrees reads embed transactionId deliveries := by
  rintro before after rfl ⟨newest, newestIn, isNewest⟩
  have inside : newest ∈ before ++ after := mem_append_left _ newestIn
  obtain ⟨early, _, earlyProjected, _, earlyIsTop, earlyStamp⟩ :=
    project_top reads transactionId (in_order_of_append ordered) newestIn
  obtain ⟨final, _, finalProjected, _, finalIsTop, finalStamp⟩ :=
    project_top reads transactionId ordered inside
  have earlyFresh : eventTs newest ≤ updatedAtOrZero early := by
    unfold updatedAtOrZero
    rw [earlyStamp]
    exact earlyIsTop newest newestIn
  have finalFresh : ∀ event ∈ before ++ after, eventTs event ≤ updatedAtOrZero final := by
    intro event member
    unfold updatedAtOrZero
    rw [finalStamp]
    exact finalIsTop event member
  have waiting : AroundLate ⟨newest, early, before.length⟩ final (before ++ after).length []
      (embeddingRun reads embed transactionId (readBetween before newest after)) := by
    have projected := run_projected reads embed transactionId (readBetween before newest after)
    have document := projected.document
    have count := projected.count
    rw [projected_read_between] at document count
    refine ⟨document.trans finalProjected, count, ?_, ?_⟩
    · exact late_waits reads embed transactionId before after earlyProjected earlyFresh
    · intro _ _
      contradiction
  have around := passes_around_late reads embed transactionId (project_live finalProjected)
    (before ++ after) finalFresh waiting
  unfold embeddingRun at around
  rw [← run_from_append] at around
  -- the late pass writes after all the others and is not refused
  have events : projectedEvents (readBetween before newest after ++ passesFor (before ++ after)) =
      before ++ after := by
    rw [projected_events_append, projected_read_between, projected_passes, append_nil]
  have seen := run_passes_seen reads embed transactionId
    (readBetween before newest after ++ passesFor (before ++ after))
  have lateEvents : projectedEvents (readBetween before newest after ++
      passesFor (before ++ after) ++ [.write 0]) = before ++ after := by
    rw [projected_events_snoc]
    exact events
  have late := (converges _ lateEvents).2
  unfold embeddingRun at seen late
  rw [run_from_snoc] at late
  generalize runFrom (step reads embed transactionId) {}
    (readBetween before newest after ++ passesFor (before ++ after)) = state at around seen late
  have lateSeen := seen.inFlight ⟨newest, early, before.length⟩ (by rw [around.waiting]; simp)
  obtain ⟨doc, stored, live⟩ := stored_of_pass seen.projected lateSeen
  obtain ⟨next, written, _, overwritten⟩ := write_vector embed live
    ⟨newest, early, before.length⟩ (seen.vector doc stored)
  have lateText := overwritten (by
    intro other member
    have otherSeen := seen.completed other member
    rw [events] at otherSeen
    obtain ⟨top, topIn, _, stamp⟩ := pass_stamp ordered otherSeen
    rw [stamp]
    exact Int.le_trans (isNewest top (mem_of_mem_take topIn)) earlyFresh)
  have lateStep : step reads embed transactionId state (.write 0) =
      { state with
        stored := some next
        inFlight := []
        completed := state.completed ++ [⟨newest, early, before.length⟩] } := by
    unfold step
    dsimp only
    rw [around.waiting, stored]
    dsimp only [List.getElem?_cons_zero]
    rw [written]
    rfl
  have final_vector := late (by
    intro event member
    obtain ⟨pass, passIn, passEvent, passCount⟩ := around.embedded event member
    rw [lateStep]
    exact ⟨pass, mem_append_left _ passIn, passEvent, passCount⟩)
  rw [lateStep] at final_vector
  have projection : getProjection (some next) = some final := by
    rw [← written, projection_of_embedded, ← stored]
    exact around.document
  unfold EmbedsStored at final_vector
  dsimp only at final_vector
  rw [projection] at final_vector
  rw [earlyProjected, finalProjected]
  exact lateText.symm.trans final_vector

/-- Different events are delivered under different timestamps. -/
def DistinctStamps (deliveries : List TransactionEvent) : Prop :=
  ∀ first ∈ deliveries, ∀ second ∈ deliveries, eventTs first = eventTs second → first = second

theorem deliver_again (reads : ProjectorReads) (doc : TransactionDoc) (event : TransactionEvent) :
    deliver reads (deliver reads doc event) event = deliver reads doc event := by
  have own : admits (some (eventTs event)) (eventTs event) = true :=
    admits_some.mpr (Int.le_refl _)
  by_cases accepted : admits (ownGuard doc event) (eventTs event) = true
  · unfold ownGuard at accepted
    cases kind : event.isCategorized with
    | true =>
      rw [kind, if_pos rfl] at accepted
      simp [deliver, ownGuard, kind, accepted, own]
    | false =>
      rw [kind, if_neg Bool.false_ne_true] at accepted
      by_cases shared : admits doc.categorizationEventTs (eventTs event) = true
      · simp [deliver, ownGuard, kind, accepted, own, shared]
      · simp [deliver, ownGuard, kind, accepted, own, shared]
  · have refused : deliver reads doc event = doc := by
      simp [deliver, accepted]
    rw [refused, refused]

theorem deliver_after_newest (ordered : InOrder (before ++ [event]))
    (distinct : DistinctStamps (before ++ [event])) (newestIn : newest ∈ before)
    (isNewest : AtTop eventTs (before ++ [event]) newest)
    (again : deliver reads (runFrom (deliver reads) (upsertBody transactionId) before) newest =
      runFrom (deliver reads) (upsertBody transactionId) before) :
    deliver reads (runFrom (deliver reads) (upsertBody transactionId) before) event =
      runFrom (deliver reads) (upsertBody transactionId) before := by
  by_cases accepted : admits (ownGuard (runFrom (deliver reads) (upsertBody transactionId)
      before) event) (eventTs event) = true
  · have last : event ∈ before ++ [event] :=
      mem_append_right _ (mem_singleton_self event)
    have reached := ordered before event [] rfl
      ((accepted_iff reads transactionId before event).mp accepted) newest newestIn
    have same := distinct event last newest (mem_append_left _ newestIn)
      (Int.le_antisymm (isNewest event last) reached)
    rw [same]
    exact again
  · simp [deliver, accepted]

theorem distinct_of_append (distinct : DistinctStamps (before ++ after)) :
    DistinctStamps before := by
  intro first firstIn second secondIn
  exact distinct first (mem_append_left _ firstIn) second (mem_append_left _ secondIn)

theorem newest_of_append (isNewest : AtTop eventTs (before ++ after) newest) :
    AtTop eventTs before newest := by
  intro other member
  exact isNewest other (mem_append_left _ member)

theorem deliver_newest_again (reads : ProjectorReads) (transactionId : Int)
    (ordered : InOrder deliveries) (distinct : DistinctStamps deliveries)
    (newestIn : newest ∈ deliveries) (isNewest : AtTop eventTs deliveries newest) :
    deliver reads (runFrom (deliver reads) (upsertBody transactionId) deliveries) newest =
      runFrom (deliver reads) (upsertBody transactionId) deliveries := by
  induction deliveries using List.reverseRecOn with
  | nil => contradiction
  | append_singleton before event ih =>
    rw [run_from_snoc]
    rcases mem_snoc.mp newestIn with old | new
    · have again := ih (in_order_of_append ordered) (distinct_of_append distinct) old
        (newest_of_append isNewest)
      rw [deliver_after_newest ordered distinct old isNewest again]
      exact again
    · rw [new]
      exact deliver_again reads _ event

theorem project_after_newest (reads : ProjectorReads) (transactionId : Int)
    (newestIn : newest ∈ before) (after : List TransactionEvent)
    (ordered : InOrder (before ++ after)) (distinct : DistinctStamps (before ++ after))
    (isNewest : AtTop eventTs (before ++ after) newest) :
    runFrom (deliver reads) (upsertBody transactionId) (before ++ after) =
      runFrom (deliver reads) (upsertBody transactionId) before := by
  induction after using List.reverseRecOn with
  | nil => rw [append_nil]
  | append_singleton middle event ih =>
    rw [← append_assoc] at ordered distinct isNewest ⊢
    have old : newest ∈ before ++ middle := mem_append_left _ newestIn
    have shorter := in_order_of_append ordered
    have again := deliver_newest_again reads transactionId shorter (distinct_of_append distinct) old
      (newest_of_append isNewest)
    rw [run_from_snoc, deliver_after_newest ordered distinct old isNewest again]
    exact ih shorter (distinct_of_append distinct) (newest_of_append isNewest)

theorem top_agrees_of_distinct (reads : ProjectorReads) (embed : String → Vector)
    (transactionId : Int) (ordered : InOrder deliveries) (distinct : DistinctStamps deliveries) :
    TopAgrees reads embed transactionId deliveries := by
  rintro before after rfl ⟨newest, newestIn, isNewest⟩
  rw [project_eq reads transactionId (ne_nil_of_mem newestIn),
    project_eq reads transactionId (ne_nil_of_mem (mem_append_left _ newestIn)),
    project_after_newest reads transactionId newestIn after ordered distinct isNewest]

theorem embedding_converges_iff (reads : ProjectorReads) (embed : String → Vector)
    (transactionId : Int) (deliveries : List TransactionEvent) :
    (EmbeddingConverges reads embed transactionId deliveries ↔
        InOrder deliveries ∧ TopAgrees reads embed transactionId deliveries) ∧
      (DistinctStamps deliveries →
        (EmbeddingConverges reads embed transactionId deliveries ↔ InOrder deliveries)) := by
  have condition : EmbeddingConverges reads embed transactionId deliveries ↔
      InOrder deliveries ∧ TopAgrees reads embed transactionId deliveries := by
    constructor
    · intro converges
      have ordered := in_order_of_never_decreases
        (converges (projections deliveries) (projected_projections deliveries)).1
      exact ⟨ordered, top_agrees_of_converges converges ordered⟩
    · rintro ⟨ordered, agrees⟩ labels rfl
      exact ⟨never_decreases_of_in_order reads embed transactionId ordered,
        embeds_stored_of_in_order ordered agrees⟩
  refine ⟨condition, ?_⟩
  intro distinct
  rw [condition]
  constructor
  · exact And.left
  · intro ordered
    exact ⟨ordered, top_agrees_of_distinct reads embed transactionId ordered distinct⟩

/-- The categorization of 10 ms and then the correction of 20 ms. -/
def correctedInOrder : List TransactionEvent :=
  [.categorized earlierCategorization, .updated correctedCore]

theorem corrected_in_order : InOrder correctedInOrder := by
  intro before _ _ split _ _ member
  match before, split with
  | [], _ => contradiction
  | [first], split =>
    cases split
    rw [mem_singleton.mp member]
    decide +kernel
  | first :: second :: rest, split =>
    have lengths := congrArg List.length split
    simp [correctedInOrder] at lengths

theorem corrected_in_order_converges : EmbeddingConverges plainReads id 1 correctedInOrder := by
  apply ((embedding_converges_iff plainReads id 1 correctedInOrder).2 _).mpr corrected_in_order
  unfold DistinctStamps
  decide +kernel

/-- The categorization of 10 ms arrives after the correction of 20 ms and takes
`updated_at` back. -/
theorem late_categorization_goes_back :
    ¬ EmbeddingConverges plainReads id 1 correctedHistory.events := by
  intro converges
  have ordered := in_order_of_never_decreases
    (converges (projections correctedHistory.events) (projected_projections _)).1
  have kept := ordered [.updated correctedCore] (.categorized earlierCategorization) [] rfl
    (by decide +kernel) (.updated correctedCore) mem_cons_self
  revert kept
  decide +kernel

end FinanceTracker.Analytics.EmbeddingConvergence
