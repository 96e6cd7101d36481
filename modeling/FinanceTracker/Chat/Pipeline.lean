import FinanceTracker.Chat.Transcript

/-!
# The pipeline behind a chat stream

One run of router, dispatcher and responder as the events that it yields, and what the
reducer makes of them. A run that a disconnect cuts off while it responds is not among these.
-/

namespace FinanceTracker.Chat.Pipeline

open Library Json Runs List Reducer Transcript

/-- The classes of exceptions that the pipeline tells apart. -/
inductive Failure where
  | authError
  | notFound
  | serviceUnavailable
  | analyticsError
  | valueError
  | other

structure ErrorData where
  code : String
  message : String

def errorData : Failure → ErrorData
  | .authError => ⟨"auth_error", "Token er udløbet eller ugyldigt."⟩
  | .notFound => ⟨"not_found", "Data blev ikke fundet for den valgte periode."⟩
  | .serviceUnavailable =>
    ⟨"service_unavailable", "En bagvedliggende tjeneste er midlertidigt utilgængelig."⟩
  | .analyticsError => ⟨"analytics_error", "Kunne ikke hente data."⟩
  | .valueError => ⟨"validation_error", "Ugyldig forespørgsel."⟩
  | .other => ⟨"internal_error", "En uventet fejl opstod."⟩

structure ResolvedIntent where
  intent : String
  period : String
  slots : JsonObject

structure DataReadyData where
  kind : String
  payload : JsonValue

structure StreamMetadata where
  routerMs : JsonValue
  dispatchMs : JsonValue
  responderMs : JsonValue
  totalTokens : ℕ

inductive PipelineEvent where
  | intentResolved (data : ResolvedIntent)
  | dataReady (data : DataReadyData)
  | proseChunk (delta : String)
  | done (metadata : StreamMetadata)
  | error (data : ErrorData)

/-- What a run meets: an answer or an exception of each step, and the chunks of the
responder before it ends or raises. -/
structure PipelineRun where
  routed : Except Failure ResolvedIntent
  disconnectedAfterRouting : Except Failure Bool
  dispatched : Except Failure DataReadyData
  disconnectedAfterDispatch : Except Failure Bool
  formatted : Except Failure Unit
  deltas : List String
  responded : Except Failure Unit
  routerMs : JsonValue
  dispatchMs : JsonValue
  responderMs : JsonValue

def noContent : String := "Jeg kunne ikke formulere et svar baseret på data."

def failed (failure : Failure) : List PipelineEvent := [.error (errorData failure)]

def respond (run : PipelineRun) : List PipelineEvent :=
  match run.formatted with
  | .error failure => failed failure
  | .ok _ =>
    run.deltas.map .proseChunk ++
      match run.responded with
      | .error failure => failed failure
      | .ok _ =>
        (if run.deltas.length = 0 then [.proseChunk noContent] else []) ++
          [.done ⟨run.routerMs, run.dispatchMs, run.responderMs, run.deltas.length⟩]

def runPipeline (run : PipelineRun) : List PipelineEvent :=
  match run.routed with
  | .error failure => failed failure
  | .ok intent => .intentResolved intent ::
    match run.disconnectedAfterRouting with
    | .error failure => failed failure
    | .ok true => []
    | .ok false =>
      match run.dispatched with
      | .error failure => failed failure
      | .ok data => .dataReady data ::
        match run.disconnectedAfterDispatch with
        | .error failure => failed failure
        | .ok true => []
        | .ok false => respond run

/-- One of the two checks finds the client gone. -/
def CutOff (run : PipelineRun) : Prop :=
  (∃ intent, run.routed = .ok intent) ∧
    (run.disconnectedAfterRouting = .ok true ∨
      run.disconnectedAfterRouting = .ok false ∧ (∃ data, run.dispatched = .ok data) ∧
        run.disconnectedAfterDispatch = .ok true)

/-- The frame of an event as the browser reads it. -/
def PipelineEvent.frame : PipelineEvent → StreamEvent
  | .intentResolved data => ⟨"intent_resolved", .obj [("intent", .str data.intent),
      ("period", .str data.period), ("slots", .obj data.slots)]⟩
  | .dataReady data => ⟨"data_ready", .obj [("kind", .str data.kind), ("payload", data.payload)]⟩
  | .proseChunk delta => ⟨"prose_chunk", .obj [("delta", .str delta)]⟩
  | .done metadata => ⟨"done", .obj [("metadata", .obj [("router_ms", metadata.routerMs),
      ("dispatch_ms", metadata.dispatchMs), ("responder_ms", metadata.responderMs),
      ("total_tokens", .int metadata.totalTokens)])]⟩
  | .error data => ⟨"error", .obj [("code", .str data.code), ("message", .str data.message)]⟩

def feedEvent (js : Js) (state : State) (event : StreamEvent) : Except TypeError State := do
  match ← eventToAction event with
  | some action => .ok (chatReducer js state action)
  | none => .ok state

def feed (js : Js) (state : State) (events : List PipelineEvent) : Except TypeError State :=
  (events.map PipelineEvent.frame).foldlM (feedEvent js) state

def deltaOf : PipelineEvent → Option String
  | .proseChunk delta => some delta
  | _ => none

/-- The chat has failed, or its last message holds the text of the stream. -/
def EndsWith (prose : String) (result : Except TypeError State) : Prop :=
  ∃ final, result = .ok final ∧ (final.phase = .error ∨
    final.phase = .done ∧ (assistants final).getLast?.map Message.content = some prose)

variable {js : Js} {state : State}

theorem feed_failed (active : state.phase.active = true) (prose : String) (failure : Failure) :
    EndsWith prose (feed js state (failed failure)) := by
  refine ⟨chatReducer js state (.streamError (PipelineEvent.error (errorData failure)).frame.data),
    rfl, Or.inl ?_⟩
  rw [chatReducer, if_pos active]

theorem feed_chunks (deltas : List String) (events : List PipelineEvent)
    (taking : takesChunks state.phase = true) :
    ∃ next : State, takesChunks next.phase = true ∧
      next.currentProse = state.currentProse ++ String.join deltas ∧
        feed js state (deltas.map .proseChunk ++ events) = feed js next events := by
  induction deltas generalizing state with
  | nil => exact ⟨state, taking, by simp, rfl⟩
  | cons delta deltas ih =>
    have taken : state.phase = .fetching ∨ state.phase = .streaming := by
      simpa [takesChunks] using taking
    obtain ⟨next, takes, prose, fed⟩ := @ih
      { state with phase := .streaming, currentProse := state.currentProse ++ delta } rfl
    refine ⟨next, takes, ?_, ?_⟩
    · rw [prose, String.join_cons, String.append_assoc]
    · rw [← fed]
      change feed js (chatReducer js state (.proseChunk (some (.str delta)))) _ = _
      rw [chatReducer, if_pos taken]
      rfl

theorem feed_done (metadata : StreamMetadata) (taking : takesChunks state.phase = true) :
    EndsWith state.currentProse (feed js state [.done metadata]) := by
  have taken : state.phase = .fetching ∨ state.phase = .streaming := by
    simpa [takesChunks] using taking
  refine ⟨chatReducer js state (.streamDone (PipelineEvent.done metadata).frame.data), rfl,
    Or.inr ?_⟩
  rw [chatReducer, if_pos taken]
  simp [assistants]

theorem feed_respond (run : PipelineRun) (taking : takesChunks state.phase = true)
    (empty : state.currentProse = "") :
    EndsWith (String.join ((respond run).filterMap deltaOf)) (feed js state (respond run)) := by
  have active : state.phase.active = true := by
    revert taking
    cases state.phase <;> decide
  unfold respond
  cases run.formatted with
  | error failure => exact feed_failed active _ failure
  | ok _ =>
    dsimp only
    have chunks (deltas : List String) :
        (deltas.map PipelineEvent.proseChunk).filterMap deltaOf = deltas := by
      rw [filterMap_map]
      exact filterMap_some
    cases run.responded with
    | error failure =>
      obtain ⟨next, takes, _, fed⟩ := feed_chunks run.deltas (failed failure) taking
      rw [fed]
      apply feed_failed
      revert takes
      cases next.phase <;> decide
    | ok _ =>
      obtain ⟨shown, isShown⟩ : ∃ shown : List String, run.deltas.map PipelineEvent.proseChunk ++
          (if run.deltas.length = 0 then [.proseChunk noContent] else []) = shown.map .proseChunk := by
        by_cases none : run.deltas.length = 0
        · refine ⟨[noContent], ?_⟩
          rw [if_pos none, length_eq_zero_iff.mp none]
          rfl
        · refine ⟨run.deltas, ?_⟩
          rw [if_neg none, append_nil]
      obtain ⟨next, takes, prose, fed⟩ := feed_chunks shown [.done _] taking
      dsimp only
      have ends := @feed_done js next
      rw [prose, empty, String.empty_append] at ends
      have noDelta (metadata : StreamMetadata) : [PipelineEvent.done metadata].filterMap deltaOf = [] :=
        rfl
      rw [← append_assoc, isShown, fed, filterMap_append, chunks, noDelta, append_nil]
      exact ends _ takes

/-- A run that goes on to its end leaves the chat done, with the text of the stream, or failed. -/
theorem feed_pipeline (run : PipelineRun) (uncut : ¬ CutOff run)
    (startable : state.phase.startable = true) :
    EndsWith (String.join ((runPipeline run).filterMap deltaOf))
      (feed js (chatReducer js state .streamStarted) (runPipeline run)) := by
  rw [chatReducer, if_pos startable]
  unfold runPipeline
  cases routed : run.routed with
  | error failure => exact feed_failed rfl _ failure
  | ok intent =>
    dsimp only
    cases gone : run.disconnectedAfterRouting with
    | error failure => exact feed_failed rfl _ failure
    | ok cut =>
      cases cut with
      | true => exact absurd ⟨⟨intent, routed⟩, Or.inl gone⟩ uncut
      | false =>
        dsimp only
        cases dispatched : run.dispatched with
        | error failure => exact feed_failed rfl _ failure
        | ok data =>
          dsimp only
          cases goneLater : run.disconnectedAfterDispatch with
          | error failure => exact feed_failed rfl _ failure
          | ok cut =>
            cases cut with
            | true =>
              exact absurd ⟨⟨intent, routed⟩, Or.inr ⟨gone, ⟨data, dispatched⟩, goneLater⟩⟩ uncut
            | false => exact feed_respond run rfl rfl

/-- The transcript is faithful to the actions, and to the pipeline that sends them. -/
theorem chat_transcript_faithful (js : Js) :
    (∀ {Sender : Type} (given : List (Sender × Action)),
      let trace := runFrom (traceStep js) ({} : Trace Sender) given
      (∀ later, trace.state.history <+:
        (runFrom (traceStep js) ({} : Trace Sender) (given ++ later)).state.history) ∧
      (assistants trace.state).length ≤ trace.starts ∧
      (assistants trace.state).map Message.content = trace.written.map joined ∧
      Consistent trace.state) ∧
    ∀ (state : State) (run : PipelineRun), state.phase.startable = true → ¬ CutOff run →
      EndsWith (String.join ((runPipeline run).filterMap deltaOf))
        (feed js (chatReducer js state .streamStarted) (runPipeline run)) := by
  refine ⟨?_, fun state run startable uncut => feed_pipeline run uncut startable⟩
  intro Sender given
  have transcribed : Transcribed (runFrom (traceStep js) ({} : Trace Sender) given) :=
    @run_keeps _ _ _ Transcribed (fun trace given kept => trace_transcribed kept given) _
      transcribed_start given
  have consistent : Consistent (runFrom (traceStep js) ({} : Trace Sender) given).state :=
    @run_keeps _ _ _ (fun trace : Trace Sender => Consistent trace.state)
      (fun trace given kept => reducer_consistent kept given.2) _ consistent_start given
  refine ⟨?_, ?_, transcribed.contents, consistent⟩
  · intro later
    rw [run_from_append]
    exact @run_keeps _ _ (traceStep js)
      (fun trace => (runFrom (traceStep js) ({} : Trace Sender) given).state.history <+:
        trace.state.history)
      (fun trace given kept => kept.trans (history_appends js trace.state given.2)) _ (prefix_refl _)
      later
  · have counted := transcribed.counted
    have sizes := congrArg length transcribed.contents
    rw [length_map, length_map] at sizes
    omega

end FinanceTracker.Chat.Pipeline
