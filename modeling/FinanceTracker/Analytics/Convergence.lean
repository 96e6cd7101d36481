import FinanceTracker.Analytics.TransactionStore
import FinanceTracker.Library.Deliveries

/-!
# When the transaction projection converges

The core script writes the six categorization fields without recording the
timestamp it wrote them under, so a newer core event leaves the categorization
guard behind and an older categorization still passes it. The document is the
same for every order and repetition exactly when every kind of event that
occurs also occurs under the greatest `event_ts`, and the events under it agree.
-/

namespace FinanceTracker.Analytics.Convergence

open Library Calendar Deliveries Runs Shared.TransactionEvents TransactionStore List

structure EventHistory where
  events : List TransactionEvent
  distinct : events.Pairwise fun first second => first.timestamp ≠ second.timestamp

/-- All deliveries of the events, in any order and with any repetitions, give one
document, and its six categorization fields are those of the newest event. -/
def Converges (reads : ProjectorReads) (transactionId : Int) (history : EventHistory) : Prop :=
  ∃ doc, (∀ deliveries, Covers deliveries history.events →
      project reads transactionId deliveries = doc) ∧
    ∀ newest ∈ history.events, (∀ event ∈ history.events, event.timestamp ≤ newest.timestamp) →
        doc.bind TransactionDoc.categorization = some (categorizationFields reads newest)

/-- Each kind of event that occurs also occurs under the greatest `event_ts`, and
the events under it write the same values. -/
structure Settled (reads : ProjectorReads) (events : List TransactionEvent) : Prop where
  kinds : ∀ event ∈ events, ∃ newest ∈ events,
    AtTop eventTs events newest ∧ newest.isCategorized = event.isCategorized
  categorization : ∀ first ∈ events, ∀ second ∈ events,
    AtTop eventTs events first → AtTop eventTs events second →
      categorizationFields reads first = categorizationFields reads second
  core : ∀ first ∈ events, ∀ second ∈ events,
    AtTop eventTs events first → AtTop eventTs events second →
      first.isCategorized = false → second.isCategorized = false →
        coreFields reads first = coreFields reads second

theorem admits_of_le {guard : Option Int} {eventTs : Int}
    (bounded : ∀ stored, guard = some stored → stored ≤ eventTs) : admits guard eventTs = true := by
  cases guard with
  | none => rfl
  | some stored => simpa [admits] using bounded stored rfl

theorem admits_some {stored eventTs : Int} :
    admits (some stored) eventTs = true ↔ stored ≤ eventTs := by
  simp [admits]

/-- The guards a run has reached: each is the stamp of a delivered event of its kind. -/
structure GuardsSeen (before : List TransactionEvent) (doc : TransactionDoc) : Prop where
  coreGuard : ∀ stored, doc.coreEventTs = some stored →
    ∃ event ∈ before, event.isCategorized = false ∧ eventTs event = stored
  categorizationGuard : ∀ stored, doc.categorizationEventTs = some stored →
    ∃ event ∈ before, event.isCategorized = true ∧ eventTs event = stored
  coreGroup : doc.coreEventTs = none → doc.core = none

variable {reads : ProjectorReads} {before events : List TransactionEvent} {doc : TransactionDoc}
  {event top : TransactionEvent} {transactionId : Int}

theorem guards_seen_deliver (seen : GuardsSeen before doc) (event : TransactionEvent) :
    GuardsSeen (before ++ [event]) (deliver reads doc event) := by
  have earlier : ∀ {kind : Bool} {stored : Int},
      (∃ old ∈ before, old.isCategorized = kind ∧ eventTs old = stored) →
        ∃ old ∈ before ++ [event], old.isCategorized = kind ∧ eventTs old = stored := by
    rintro kind stored ⟨old, member, rest⟩
    exact ⟨old, mem_append_left _ member, rest⟩
  have here : event ∈ before ++ [event] := by simp
  unfold deliver
  by_cases accepted : admits (ownGuard doc event) (eventTs event) = true
  · rw [if_pos accepted]
    cases kind : event.isCategorized with
    | true =>
      refine ⟨fun stored found => earlier (seen.coreGuard stored (by simpa using found)), ?_,
        fun none => by simpa using seen.coreGroup (by simpa using none)⟩
      intro _ found
      exact ⟨event, here, kind, by simpa using found⟩
    | false =>
      refine ⟨?_, fun stored found =>
        earlier (seen.categorizationGuard stored (by simpa using found)), by simp⟩
      intro _ found
      exact ⟨event, here, kind, by simpa using found⟩
  · rw [if_neg accepted]
    exact ⟨fun stored found => earlier (seen.coreGuard stored found),
      fun stored found => earlier (seen.categorizationGuard stored found), seen.coreGroup⟩

theorem guards_seen (reads : ProjectorReads) (transactionId : Int)
    (deliveries : List TransactionEvent) :
    GuardsSeen deliveries (runFrom (deliver reads) (upsertBody transactionId) deliveries) := by
  apply run_history_keeps (deliver reads)
  · exact ⟨by simp [upsertBody], by simp [upsertBody], by simp [upsertBody]⟩
  · intro _ _ event _ seen
    exact guards_seen_deliver seen event

theorem deliver_newest_of_kind (seen : GuardsSeen before doc)
    (newest : ∀ old ∈ before, old.isCategorized = event.isCategorized → eventTs old ≤ eventTs event) : admits (ownGuard doc event) (eventTs event) = true := by
  apply admits_of_le
  intro stored found
  unfold ownGuard at found
  cases kind : event.isCategorized with
  | true =>
    rw [if_pos kind] at found
    obtain ⟨old, member, oldKind, stamp⟩ := seen.categorizationGuard stored found
    rw [← stamp]
    exact newest old member (oldKind.trans kind.symm)
  | false =>
    rw [if_neg (by simp [kind])] at found
    obtain ⟨old, member, oldKind, stamp⟩ := seen.coreGuard stored found
    rw [← stamp]
    exact newest old member (oldKind.trans kind.symm)

theorem deliver_top (seen : GuardsSeen before doc) (top : AtTop eventTs before event) :
    deliver reads doc event =
      { doc with
        core := if event.isCategorized then doc.core else coreFields reads event
        coreEventTs := if event.isCategorized then doc.coreEventTs else some (eventTs event)
        categorization := some (categorizationFields reads event)
        categorizationEventTs :=
          if event.isCategorized then some (eventTs event) else doc.categorizationEventTs
        updatedAt := some (eventTs event) } := by
  have accepted := deliver_newest_of_kind seen fun old member _ => top old member
  have shared : admits doc.categorizationEventTs (eventTs event) = true := by
    apply admits_of_le
    intro stored found
    obtain ⟨old, member, _, stamp⟩ := seen.categorizationGuard stored found
    rw [← stamp]
    exact top old member
  unfold deliver
  rw [if_pos accepted, if_pos shared]

theorem project_redelivered (reads : ProjectorReads) (transactionId : Int)
    (events : List TransactionEvent) (event : TransactionEvent) :
    project reads transactionId (events ++ [event]) =
      some (deliver reads (runFrom (deliver reads) (upsertBody transactionId) events) event) := by
  rw [project_eq reads transactionId (by simp), run_from_snoc]

theorem updated_at_newest_of_kind (reads : ProjectorReads) (transactionId : Int)
    (events : List TransactionEvent) (event : TransactionEvent)
    (newest : ∀ old ∈ events, old.isCategorized = event.isCategorized →
      eventTs old ≤ eventTs event) :
    (project reads transactionId (events ++ [event])).bind TransactionDoc.updatedAt =
      some (eventTs event) := by
  have accepted := deliver_newest_of_kind (guards_seen reads transactionId events) newest
  rw [project_redelivered]
  simp [deliver, accepted]

theorem settled_of_converges {history : EventHistory}
    (converges : Converges reads transactionId history) :
    Settled reads history.events := by
  obtain ⟨doc, same, _⟩ := converges
  have redelivered : ∀ event ∈ history.events,
      project reads transactionId (history.events ++ [event]) = doc :=
    fun event member => same _ (covers_redelivered member)
  have seen := guards_seen reads transactionId history.events
  refine ⟨?_, ?_, ?_⟩
  · intro event member
    obtain ⟨newest, newestIn, newestKind, isNewest⟩ := exists_top_of_kind
      eventTs
      (fun other => other.isCategorized == event.isCategorized) member (by simp)
    have kind : newest.isCategorized = event.isCategorized := by simpa using newestKind
    obtain ⟨top, topIn, isTop⟩ := exists_top eventTs member
    refine ⟨newest, newestIn, ?_, kind⟩
    -- Ending on the newest of its kind or on the top gives the same `updated_at`.
    have newestLast := updated_at_newest_of_kind reads transactionId history.events
      newest fun old oldIn oldKind => isNewest old oldIn (by simp [oldKind, kind])
    have topLast := updated_at_newest_of_kind reads transactionId history.events
      top fun old oldIn _ => isTop old oldIn
    rw [redelivered newest newestIn] at newestLast
    rw [redelivered top topIn, newestLast] at topLast
    have stamps : eventTs newest = eventTs top := Option.some.inj topLast
    intro other otherIn
    rw [stamps]
    exact isTop other otherIn
  · intro first firstIn second secondIn firstTop secondTop
    have firstLast := redelivered first firstIn
    rw [← redelivered second secondIn, project_redelivered, project_redelivered,
      deliver_top seen firstTop, deliver_top seen secondTop] at firstLast
    have docs := Option.some.inj firstLast
    exact Option.some.inj (congrArg TransactionDoc.categorization docs)
  · intro first firstIn second secondIn firstTop secondTop firstKind secondKind
    have firstLast := redelivered first firstIn
    rw [← redelivered second secondIn, project_redelivered, project_redelivered,
      deliver_top seen firstTop, deliver_top seen secondTop] at firstLast
    have cores := congrArg TransactionDoc.core (Option.some.inj firstLast)
    simpa [firstKind, secondKind] using cores

/-- What the deliveries so far have settled. `top` is an event under the greatest
`event_ts`; a kind is settled once one of its events under that stamp came. -/
structure Progress (reads : ProjectorReads) (transactionId : Int)
    (events : List TransactionEvent) (top : TransactionEvent) (before : List TransactionEvent)
    (doc : TransactionDoc) : Prop where
  identity : doc.transactionId = transactionId ∧ doc.isDeleted = false
  noCore : (∀ event ∈ before, event.isCategorized = true) → doc.core = none ∧ doc.coreEventTs = none
  noCategorized : (∀ event ∈ before, event.isCategorized = false) → doc.categorizationEventTs = none
  core : ∀ event ∈ before, AtTop eventTs events event → event.isCategorized = false →
    doc.core = coreFields reads event ∧ doc.coreEventTs = some (eventTs top)
  categorized : ∀ event ∈ before, AtTop eventTs events event → event.isCategorized = true →
    doc.categorizationEventTs = some (eventTs top)
  shared : (∀ event ∈ events, ∃ newest ∈ before, AtTop eventTs events newest ∧
      newest.isCategorized = event.isCategorized) →
    doc.categorization = some (categorizationFields reads top) ∧ doc.updatedAt = some (eventTs top)

theorem deliver_behind (progress : Progress reads transactionId events top before doc)
    {newest : TransactionEvent} (behind : eventTs event < eventTs top) (newestIn : newest ∈ before)
    (newestTop : AtTop eventTs events newest) (kind : newest.isCategorized = event.isCategorized) :
    deliver reads doc event = doc := by
  have guard : ownGuard doc event = some (eventTs top) := by
    unfold ownGuard
    cases isCategorized : event.isCategorized with
    | true =>
      exact progress.categorized newest newestIn newestTop (kind.trans isCategorized)
    | false =>
      exact (progress.core newest newestIn newestTop (kind.trans isCategorized)).2
  unfold deliver
  rw [guard, if_neg]
  rw [admits_some]
  omega

theorem progress_deliver_top (settled : Settled reads events) (topIn : top ∈ events)
    (isTop : AtTop eventTs events top) (included : ∀ event ∈ before, event ∈ events)
    (seen : GuardsSeen before doc) (progress : Progress reads transactionId events top before doc)
    (member : event ∈ events) (eventTop : AtTop eventTs events event) :
    Progress reads transactionId events top (before ++ [event]) (deliver reads doc event) := by
  have stamp : eventTs event = eventTs top :=
    top_stamps_eq eventTs member topIn eventTop isTop
  rw [deliver_top seen fun old oldIn => eventTop old (included old oldIn)]
  have last : event ∈ before ++ [event] := by simp
  refine ⟨progress.identity, ?_, ?_, ?_, ?_, ?_⟩
  · intro allCategorized
    have kind := allCategorized event last
    have earlier := progress.noCore fun old oldIn =>
      allCategorized old (mem_append_left _ oldIn)
    simpa [kind] using earlier
  · intro allCore
    have kind := allCore event last
    have earlier := progress.noCategorized fun old oldIn =>
      allCore old (mem_append_left _ oldIn)
    simpa [kind] using earlier
  · intro newest newestIn newestTop newestKind
    cases kind : event.isCategorized with
    | true =>
      have old : newest ∈ before := by
        rcases mem_snoc.mp newestIn with old | rfl
        · exact old
        · rw [kind] at newestKind
          contradiction
      simpa using progress.core newest old newestTop newestKind
    | false =>
      have newestEvent : newest ∈ events := by
        rcases mem_snoc.mp newestIn with old | rfl
        · exact included newest old
        · exact member
      have agree := settled.core event member newest newestEvent eventTop newestTop kind newestKind
      simp [agree, stamp]
  · intro newest newestIn newestTop newestKind
    cases kind : event.isCategorized with
    | true => simp [stamp]
    | false =>
      have old : newest ∈ before := by
        rcases mem_snoc.mp newestIn with old | rfl
        · exact old
        · rw [kind] at newestKind
          contradiction
      simpa using progress.categorized newest old newestTop newestKind
  · intro _
    rw [stamp]
    exact ⟨congrArg some (settled.categorization event member top topIn eventTop isTop), rfl⟩

theorem deliver_identity (reads : ProjectorReads) (doc : TransactionDoc)
    (event : TransactionEvent) :
    (deliver reads doc event).transactionId = doc.transactionId ∧
      (deliver reads doc event).isDeleted = doc.isDeleted := by
  unfold deliver
  by_cases accepted : admits (ownGuard doc event) (eventTs event) = true
  · simp [accepted]
  · simp [accepted]

theorem deliver_categorized_frame (reads : ProjectorReads) (doc : TransactionDoc)
    (kind : event.isCategorized = true) :
    (deliver reads doc event).core = doc.core ∧
      (deliver reads doc event).coreEventTs = doc.coreEventTs := by
  unfold deliver
  by_cases accepted : admits (ownGuard doc event) (eventTs event) = true
  · simp [accepted, kind]
  · simp [accepted]

theorem deliver_core_frame (reads : ProjectorReads) (doc : TransactionDoc)
    (kind : event.isCategorized = false) :
    (deliver reads doc event).categorizationEventTs = doc.categorizationEventTs := by
  unfold deliver
  by_cases accepted : admits (ownGuard doc event) (eventTs event) = true
  · simp [accepted, kind]
  · simp [accepted]

theorem progress_deliver_behind (topIn : top ∈ events)
    (progress : Progress reads transactionId events top before doc) (member : event ∈ events)
    (behind : eventTs event < eventTs top) :
    Progress reads transactionId events top (before ++ [event]) (deliver reads doc event) := by
  have last : event ∈ before ++ [event] := by simp
  have earlier : ∀ newest ∈ before ++ [event], AtTop eventTs events newest → newest ∈ before := by
    intro _ newestIn newestTop
    rcases mem_snoc.mp newestIn with old | same
    · exact old
    · have bound := newestTop top topIn
      rw [same] at bound
      omega
  -- The kind of the event is settled already, or only its own group can change.
  have frame : ∀ newest ∈ before, AtTop eventTs events newest →
      newest.isCategorized = event.isCategorized → deliver reads doc event = doc :=
    fun newest newestIn newestTop kind => deliver_behind progress behind newestIn newestTop kind
  have identity := deliver_identity reads doc event
  refine ⟨⟨identity.1.trans progress.identity.1, identity.2.trans progress.identity.2⟩,
    ?_, ?_, ?_, ?_, ?_⟩
  · intro allCategorized
    have core := deliver_categorized_frame reads doc (allCategorized event last)
    have before := progress.noCore fun old oldIn => allCategorized old (mem_append_left _ oldIn)
    exact ⟨core.1.trans before.1, core.2.trans before.2⟩
  · intro allCore
    have guard := deliver_core_frame reads doc (allCore event last)
    exact guard.trans (progress.noCategorized fun old oldIn =>
      allCore old (mem_append_left _ oldIn))
  · intro newest newestIn newestTop newestKind
    have old := earlier newest newestIn newestTop
    have settled := progress.core newest old newestTop newestKind
    cases kind : event.isCategorized with
    | true =>
      have core := deliver_categorized_frame reads doc kind
      exact ⟨core.1.trans settled.1, core.2.trans settled.2⟩
    | false =>
      rw [frame newest old newestTop (newestKind.trans kind.symm)]
      exact settled
  · intro newest newestIn newestTop newestKind
    have old := earlier newest newestIn newestTop
    have settled := progress.categorized newest old newestTop newestKind
    cases kind : event.isCategorized with
    | false => exact (deliver_core_frame reads doc kind).trans settled
    | true =>
      rw [frame newest old newestTop (newestKind.trans kind.symm)]
      exact settled
  · intro allSettled
    obtain ⟨newest, newestIn, newestTop, kind⟩ := allSettled event member
    rw [frame newest (earlier newest newestIn newestTop) newestTop kind]
    apply progress.shared
    intro other otherIn
    obtain ⟨settled, settledIn, settledTop, settledKind⟩ := allSettled other otherIn
    exact ⟨settled, earlier settled settledIn settledTop, settledTop, settledKind⟩

theorem progress_of_deliveries (transactionId : Int) {deliveries : List TransactionEvent}
    (settled : Settled reads events) (topIn : top ∈ events) (isTop : AtTop eventTs events top)
    (included : ∀ event ∈ deliveries, event ∈ events) :
    Progress reads transactionId events top deliveries
      (runFrom (deliver reads) (upsertBody transactionId) deliveries) := by
  have both := @run_history_keeps _ _ (deliver reads)
    (fun before doc => (∀ event ∈ before, event ∈ events) ∧ GuardsSeen before doc ∧
      Progress reads transactionId events top before doc)
    (upsertBody transactionId) ?_ deliveries ?_
  · exact both.2.2
  · refine ⟨by simp, ⟨by simp [upsertBody], by simp [upsertBody], by simp [upsertBody]⟩,
      ⟨rfl, rfl⟩, fun _ => ⟨rfl, rfl⟩, fun _ => rfl, by simp, by simp, ?_⟩
    intro allSettled
    obtain ⟨_, newestIn, _⟩ := allSettled top topIn
    simp at newestIn
  · rintro before doc event member ⟨beforeIn, seen, progress⟩
    have eventIn := included event member
    refine ⟨?_, guards_seen_deliver seen event, ?_⟩
    · refine forall_snoc beforeIn ?_
      exact eventIn
    · by_cases reaches : eventTs top ≤ eventTs event
      · apply progress_deliver_top settled topIn isTop beforeIn seen progress eventIn
        intro other otherIn
        exact Int.le_trans (isTop other otherIn) reaches
      · exact progress_deliver_behind topIn progress eventIn (Int.not_le.mp reaches)

/-- The document after all events came, given one event under the greatest stamp. -/
theorem settled_docs_eq (transactionId : Int) {first second : List TransactionEvent}
    (settled : Settled reads events) (topIn : top ∈ events) (isTop : AtTop eventTs events top)
    (firstCovers : Covers first events) (secondCovers : Covers second events) :
    runFrom (deliver reads) (upsertBody transactionId) first =
      runFrom (deliver reads) (upsertBody transactionId) second := by
  have firstProgress := progress_of_deliveries transactionId settled topIn isTop
    fun event member => (firstCovers event).mp member
  have secondProgress := progress_of_deliveries transactionId settled topIn isTop
    fun event member => (secondCovers event).mp member
  have allSettled : ∀ {deliveries : List TransactionEvent}, Covers deliveries events →
      ∀ event ∈ events, ∃ newest ∈ deliveries, AtTop eventTs events newest ∧
        newest.isCategorized = event.isCategorized := by
    intro _ covers event member
    obtain ⟨newest, newestIn, newestTop, kind⟩ := settled.kinds event member
    exact ⟨newest, (covers newest).mpr newestIn, newestTop, kind⟩
  have firstShared := firstProgress.shared (allSettled firstCovers)
  have secondShared := secondProgress.shared (allSettled secondCovers)
  have core : (runFrom (deliver reads) (upsertBody transactionId) first).core =
        (runFrom (deliver reads) (upsertBody transactionId) second).core ∧
      (runFrom (deliver reads) (upsertBody transactionId) first).coreEventTs =
        (runFrom (deliver reads) (upsertBody transactionId) second).coreEventTs := by
    by_cases allCategorized : ∀ event ∈ events, event.isCategorized = true
    · have firstNone := firstProgress.noCore fun event member =>
        allCategorized event ((firstCovers event).mp member)
      have secondNone := secondProgress.noCore fun event member =>
        allCategorized event ((secondCovers event).mp member)
      exact ⟨firstNone.1.trans secondNone.1.symm, firstNone.2.trans secondNone.2.symm⟩
    · push Not at allCategorized
      obtain ⟨event, member, kind⟩ := allCategorized
      obtain ⟨newest, newestIn, newestTop, newestKind⟩ := settled.kinds event member
      have isCore : newest.isCategorized = false := newestKind.trans (by simpa using kind)
      have firstCore := firstProgress.core newest ((firstCovers newest).mpr newestIn) newestTop isCore
      have secondCore :=
        secondProgress.core newest ((secondCovers newest).mpr newestIn) newestTop isCore
      exact ⟨firstCore.1.trans secondCore.1.symm, firstCore.2.trans secondCore.2.symm⟩
  have categorized : (runFrom (deliver reads) (upsertBody transactionId) first).categorizationEventTs =
      (runFrom (deliver reads) (upsertBody transactionId) second).categorizationEventTs := by
    by_cases allCore : ∀ event ∈ events, event.isCategorized = false
    · have firstNone := firstProgress.noCategorized fun event member =>
        allCore event ((firstCovers event).mp member)
      have secondNone := secondProgress.noCategorized fun event member =>
        allCore event ((secondCovers event).mp member)
      exact firstNone.trans secondNone.symm
    · push Not at allCore
      obtain ⟨event, member, kind⟩ := allCore
      obtain ⟨newest, newestIn, newestTop, newestKind⟩ := settled.kinds event member
      have isCategorized : newest.isCategorized = true := newestKind.trans (by simpa using kind)
      have firstGuard := firstProgress.categorized newest ((firstCovers newest).mpr newestIn)
        newestTop isCategorized
      have secondGuard := secondProgress.categorized newest ((secondCovers newest).mpr newestIn)
        newestTop isCategorized
      exact firstGuard.trans secondGuard.symm
  have identity := firstProgress.identity.1.trans secondProgress.identity.1.symm
  have live := firstProgress.identity.2.trans secondProgress.identity.2.symm
  have shared := firstShared.1.trans secondShared.1.symm
  have updated := firstShared.2.trans secondShared.2.symm
  exact TransactionDoc.ext identity live core.1 core.2 shared categorized updated

theorem converges_of_settled {history : EventHistory} (settled : Settled reads history.events) :
    Converges reads transactionId history := by
  refine ⟨project reads transactionId history.events, ?_, ?_⟩
  · intro deliveries covers
    cases nonempty : history.events with
    | nil =>
      have empty : deliveries = [] := by
        apply eq_nil_iff_forall_not_mem.mpr
        intro event member
        have inside := (covers event).mp member
        simp [nonempty] at inside
      rw [empty]
    | cons event =>
      have member : event ∈ history.events := by simp [nonempty]
      obtain ⟨_, topIn, isTop⟩ := exists_top eventTs member
      have delivered : deliveries ≠ [] := ne_nil_of_mem ((covers event).mpr member)
      rw [← nonempty, project_eq reads transactionId delivered,
        project_eq reads transactionId (ne_nil_of_mem member)]
      exact congrArg some (settled_docs_eq transactionId settled topIn isTop covers
        (covers_self history.events))
  · intro newest newestIn isNewest
    have isTop : AtTop eventTs history.events newest :=
      fun event member => event_ts_mono (isNewest event member)
    have progress := progress_of_deliveries transactionId settled newestIn isTop
      fun event member => member
    rw [project_eq reads transactionId (ne_nil_of_mem newestIn)]
    exact (progress.shared settled.kinds).1

/-- Order and repetition of the deliveries never matter, and the newest event
decides the category, exactly for the settled histories. -/
theorem converges_iff_settled (reads : ProjectorReads) (transactionId : Int)
    (history : EventHistory) :
    Converges reads transactionId history ↔ Settled reads history.events :=
  ⟨settled_of_converges, converges_of_settled⟩

def plainReads : ProjectorReads where
  amount := fun _ => 0
  lower := id
  getSubcategoryName := fun _ => none

def purchaseDate : Date := ⟨2026, 5, 20, by decide⟩

/-- The user moved the transaction to category 3 at 20 ms; the pipeline had
chosen category 5 at 10 ms. -/
def correctedCore : CoreEvent where
  accountId := 1
  userId := 1
  amount := "0"
  transactionType := "expense"
  txDate := purchaseDate
  categoryId := some 3
  categorizationTier := some "manual"
  timestamp := 20000

def earlierCategorization : CategorizedEvent where
  categoryId := 5
  subcategoryId := 12
  tier := "rule"
  timestamp := 10000

def correctedHistory : EventHistory where
  events := [.updated correctedCore, .categorized earlierCategorization]
  distinct := by decide

/-- The older categorization arrives last, passes its unset guard and rolls the
category of the newer core event back. -/
theorem corrected_history_diverges : ¬ Converges plainReads 1 correctedHistory := by
  rintro ⟨doc, same, newest⟩
  have delivered := same correctedHistory.events (covers_self _)
  have corrected := newest (.updated correctedCore) (by decide) (by decide)
  rw [← delivered] at corrected
  revert corrected
  decide +kernel

end FinanceTracker.Analytics.Convergence
