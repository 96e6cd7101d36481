import FinanceTracker.Analytics.TransactionStore

/-!
# Embeddings of the transaction projection

`EmbeddingProjector` reads the document of a transaction, embeds the text built
from what it has read and writes the vector under the `updated_at` it has read.
The projection queue and the embedding queue are independent, so the two
statements of a pass and the projected events interleave in any way.
-/

namespace FinanceTracker.Analytics.Embedding

open Library Binary64 Calendar Runs Shared.TransactionEvents TransactionStore

def danishMonths : List String :=
  ["januar", "februar", "marts", "april", "maj", "juni", "juli", "august", "september",
    "oktober", "november", "december"]

/-- `f"{value:.2f}"` of a double that is not negative. -/
def formatTwoDecimals (value : ℚ) : String :=
  let cents := (roundHalfEven (value * 100)).toNat
  toString (cents / 100) ++ "." ++ (if cents % 100 < 10 then "0" else "") ++
    toString (cents % 100)

/-- A year as `isoformat` writes it, with four digits. -/
def formatYear (year : Int) : String :=
  String.ofList (List.replicate (4 - (toString year).length) '0') ++ toString year

def typeLabel (transactionType : String) (amount : ℚ) : String :=
  if transactionType = "income" ∨ transactionType = "" ∧ 0 < amount then "Indkomst" else "Udgift"

/-- A field that is there and not empty, put into words. -/
def phrase (field : Option String) (words : String → String) : List String :=
  ((field.bind orNone).map words).toList

def formatDate (date : Date) : String :=
  toString date.day ++ ". " ++ danishMonths.getD (date.month - 1).toNat "" ++ " " ++
    formatYear date.year

/-- Missing fields of a partial document are left out of the text. -/
def buildEmbeddingText (source : TransactionDoc) : String :=
  let core := source.core
  let transactionType := (core.map CoreFields.transactionType).getD ""
  let parts :=
    [typeLabel transactionType ((core.map CoreFields.amount).getD 0)] ++
      (core.map fun fields => "paa " ++ formatTwoDecimals |fields.amount| ++ " kr").toList ++
      phrase (core.map CoreFields.description) (fun text => "hos " ++ text) ++
      (core.map fun fields => "den " ++ formatDate fields.txDate).toList
  let names := source.categorization
  " ".intercalate parts ++ "." ++
    "".intercalate
      (phrase (names.bind CategorizationFields.categoryName)
          (fun name => " Kategori: " ++ name ++ ".") ++
        phrase (names.bind CategorizationFields.subcategoryName)
          (fun name => " Underkategori: " ++ name ++ "."))

variable {Vector : Type}

structure EmbeddedDoc (Vector : Type) extends TransactionDoc where
  descriptionVector : Option Vector := none
  embeddingEventTs : Option Int := none

/-- `_EMBEDDING_SCRIPT`; `none` is `ctx.op = 'noop'`. -/
def embeddingScript (vector : Vector) (eventTs : Int) (doc : EmbeddedDoc Vector) :
    Option (EmbeddedDoc Vector) :=
  if doc.isDeleted then none
  else if admits doc.embeddingEventTs eventTs then
    some { doc with descriptionVector := some vector, embeddingEventTs := some eventTs }
  else none

/-- An update without an upsert: a missing document is left alone. -/
def updateEmbedding (vector : Vector) (eventTs : Int) :
    Option (EmbeddedDoc Vector) → Option (EmbeddedDoc Vector) :=
  Option.map fun doc => (embeddingScript vector eventTs doc).getD doc

/-- The document without its vector. -/
def getProjection (stored : Option (EmbeddedDoc Vector)) : Option TransactionDoc :=
  stored.map EmbeddedDoc.toTransactionDoc

/-- A projected event; the core and categorization scripts leave the vector and
its stamp alone. -/
def projectStored (reads : ProjectorReads) (transactionId : Int)
    (stored : Option (EmbeddedDoc Vector)) (event : TransactionEvent) :
    Option (EmbeddedDoc Vector) :=
  (projectEvent reads transactionId (getProjection stored) event).map fun doc =>
    { toTransactionDoc := doc
      descriptionVector := stored.bind EmbeddedDoc.descriptionVector
      embeddingEventTs := stored.bind EmbeddedDoc.embeddingEventTs }

def updatedAtOrZero (source : TransactionDoc) : Int := source.updatedAt.getD 0

/-- What a pass does after its read: `stale` raises, `deleted` returns. -/
inductive PassRead where
  | stale
  | deleted
  | source (source : TransactionDoc)
  deriving DecidableEq

def readForEvent (event : TransactionEvent) : Option TransactionDoc → PassRead
  | none => .stale
  | some source =>
    if source.isDeleted then .deleted
    else if updatedAtOrZero source < eventTs event then .stale
    else .source source

theorem read_for_event_source {event : TransactionEvent} {stored : Option TransactionDoc}
    {source : TransactionDoc} :
    readForEvent event stored = .source source ↔ stored = some source ∧ source.isDeleted = false ∧
        eventTs event ≤ updatedAtOrZero source := by
  cases stored with
  | none => simp [readForEvent]
  | some doc =>
    unfold readForEvent
    by_cases deleted : doc.isDeleted = true
    · simp [deleted]
      rintro rfl live
      rw [live] at deleted
      contradiction
    · by_cases stale : updatedAtOrZero doc < eventTs event
      · simp [deleted, stale]
        rintro rfl _
        exact stale
      · simp [deleted, stale]
        rintro rfl
        exact ⟨by simpa using deleted, Int.not_lt.mp stale⟩

def embedSource (embed : String → Vector) (source : TransactionDoc) :
    Option (EmbeddedDoc Vector) → Option (EmbeddedDoc Vector) :=
  updateEmbedding (embed (buildEmbeddingText source)) (updatedAtOrZero source)

/-- A pass between its read and its write; `startedAfter` counts the deliveries
that were projected before it started. -/
structure Pass where
  event : TransactionEvent
  source : TransactionDoc
  startedAfter : Nat
  deriving DecidableEq

structure EmbeddingState (Vector : Type) where
  stored : Option (EmbeddedDoc Vector) := none
  projected : Nat := 0
  inFlight : List Pass := []
  completed : List Pass := []

/-- `write` names the pass in flight that writes. -/
inductive Label where
  | project (event : TransactionEvent)
  | read (event : TransactionEvent)
  | write (index : Nat)
  deriving DecidableEq

def step (reads : ProjectorReads) (embed : String → Vector) (transactionId : Int)
    (state : EmbeddingState Vector) : Label → EmbeddingState Vector
  | .project event =>
    { state with
      stored := projectStored reads transactionId state.stored event
      projected := state.projected + 1 }
  | .read event =>
    match readForEvent event (getProjection state.stored) with
    | .source source =>
      { state with inFlight := state.inFlight ++ [⟨event, source, state.projected⟩] }
    | _ => state
  | .write index =>
    match state.inFlight[index]? with
    | some pass =>
      { state with
        stored := embedSource embed pass.source state.stored
        inFlight := state.inFlight.eraseIdx index
        completed := state.completed ++ [pass] }
    | none => state

def embeddingRun (reads : ProjectorReads) (embed : String → Vector) (transactionId : Int)
    (labels : List Label) : EmbeddingState Vector :=
  runFrom (step reads embed transactionId) {} labels

/-- The deliveries a run projects, in its order. -/
def projectedEvents (labels : List Label) : List TransactionEvent :=
  labels.filterMap fun
    | .project event => some event
    | _ => none

theorem projected_events_append (before later : List Label) :
    projectedEvents (before ++ later) = projectedEvents before ++ projectedEvents later :=
  List.filterMap_append

theorem projection_of_embedded (embed : String → Vector) (source : TransactionDoc)
    (stored : Option (EmbeddedDoc Vector)) :
    getProjection (embedSource embed source stored) = getProjection stored := by
  cases stored with
  | none => rfl
  | some doc =>
    unfold embedSource updateEmbedding embeddingScript getProjection
    rw [Option.map_some, Option.map_some, Option.map_some]
    by_cases deleted : doc.isDeleted = true
    · rw [if_pos deleted]
      rfl
    · rw [if_neg deleted]
      by_cases admitted : admits doc.embeddingEventTs (updatedAtOrZero source) = true
      · rw [if_pos admitted]
        rfl
      · rw [if_neg admitted]
        rfl

theorem projection_of_projected (reads : ProjectorReads) (transactionId : Int)
    (stored : Option (EmbeddedDoc Vector)) (event : TransactionEvent) :
    getProjection (projectStored reads transactionId stored event) =
      projectEvent reads transactionId (getProjection stored) event := by
  unfold projectStored
  cases projectEvent reads transactionId (getProjection stored) event with
  | none | some => rfl

theorem projected_events_snoc (before : List Label) (label : Label) :
    projectedEvents (before ++ [label]) =
      match label with
      | .project event => projectedEvents before ++ [event]
      | _ => projectedEvents before := by
  rw [projected_events_append]
  cases label with
  | project => rfl
  | read | write => exact List.append_nil _

/-- Passes never touch the projected fields, so the document of a run is the
projection of its deliveries. -/
structure Projected (reads : ProjectorReads) (transactionId : Int) (labels : List Label)
    (state : EmbeddingState Vector) : Prop where
  document : getProjection state.stored = project reads transactionId (projectedEvents labels)
  count : state.projected = (projectedEvents labels).length

theorem step_projected {reads : ProjectorReads} (embed : String → Vector) {transactionId : Int}
    {before : List Label} {state : EmbeddingState Vector}
    (projected : Projected reads transactionId before state) (label : Label) :
    Projected reads transactionId (before ++ [label])
      (step reads embed transactionId state label) := by
  have snoc := projected_events_snoc before label
  cases label with
  | project event =>
    constructor
    · rw [snoc]
      change getProjection (projectStored reads transactionId state.stored event) = _
      rw [projection_of_projected, projected.document]
      exact (run_from_snoc _ _ _ _).symm
    · rw [snoc, List.length_append, ← projected.count]
      rfl
  | read event =>
    have kept : Projected reads transactionId (before ++ [.read event]) state :=
      ⟨snoc.symm ▸ projected.document, snoc.symm ▸ projected.count⟩
    unfold step
    dsimp only
    split
    · exact ⟨kept.document, kept.count⟩
    · exact kept
  | write index =>
    have kept : Projected reads transactionId (before ++ [.write index]) state :=
      ⟨snoc.symm ▸ projected.document, snoc.symm ▸ projected.count⟩
    unfold step
    dsimp only
    split
    · exact ⟨(projection_of_embedded embed _ _).trans kept.document, kept.count⟩
    · exact kept

theorem run_projected (reads : ProjectorReads) (embed : String → Vector) (transactionId : Int)
    (labels : List Label) :
    Projected reads transactionId labels (embeddingRun reads embed transactionId labels) := by
  unfold embeddingRun
  apply run_history_keeps (step reads embed transactionId)
  · exact ⟨rfl, rfl⟩
  · intro _ _ label _ projected
    exact step_projected embed projected label

end FinanceTracker.Analytics.Embedding
