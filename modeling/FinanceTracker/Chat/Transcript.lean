import FinanceTracker.Chat.Reducer

/-!
# The transcript of a chat

What the reducer keeps of any sequence of actions, each given by somebody. A trace says,
apart from the state, which chunks were accepted since the last start and which of them
went into each message of the assistant.
-/

namespace FinanceTracker.Chat.Transcript

open List Reducer

def assistants (state : State) : List Message :=
  state.history.filter fun message => message.role = .assistant

/-- `written` holds, for each message of the assistant, the chunks accepted since its start. -/
structure Trace (Sender : Type) where
  state : State := initialState
  starts : ℕ := 0
  owner : Option Sender := none
  chunks : List (Sender × String) := []
  written : List (List (Sender × String)) := []

variable {Sender : Type}

def takesChunks (phase : Phase) : Bool := phase = .fetching || phase = .streaming

def chunksAfter (js : Js) (trace : Trace Sender) (sender : Sender) : Action → List (Sender × String)
  | .streamStarted => if trace.state.phase.startable then [] else trace.chunks
  | .proseChunk payload =>
    if takesChunks trace.state.phase then trace.chunks ++ [(sender, js.text payload)]
    else trace.chunks
  | _ => trace.chunks

def accepted (state : State) : Action → Bool
  | .streamStarted => state.phase.startable
  | _ => false

def traceStep (js : Js) (trace : Trace Sender) (given : Sender × Action) : Trace Sender where
  state := chatReducer js trace.state given.2
  starts := if accepted trace.state given.2 then trace.starts + 1 else trace.starts
  owner := if accepted trace.state given.2 then some given.1 else trace.owner
  chunks := chunksAfter js trace given.1 given.2
  written :=
    if (assistants (chatReducer js trace.state given.2)).length = (assistants trace.state).length
    then trace.written else trace.written ++ [trace.chunks]

def joined (chunks : List (Sender × String)) : String := String.join (chunks.map Prod.snd)

@[simp] theorem joined_nil : joined ([] : List (Sender × String)) = "" := rfl

@[simp] theorem joined_snoc (chunks : List (Sender × String)) (chunk : Sender × String) :
    joined (chunks ++ [chunk]) = joined chunks ++ chunk.2 := by
  simp [joined, String.join]

/-- What every state of a chat says of itself. -/
structure Consistent (state : State) : Prop where
  empty : state.phase = .idle ∨ state.phase = .done →
    state.currentProse = "" ∧ state.intent = none ∧ state.data = none
  identified : state.messageId ≠ none ↔ state.phase = .done
  last : state.phase = .done → state.messageId = (assistants state).getLast?.map Message.id
  failed : state.error ≠ none → state.phase = .error

/-- What every trace says of the messages of the assistant. -/
structure Transcribed (trace : Trace Sender) : Prop where
  contents : (assistants trace.state).map Message.content = trace.written.map joined
  prose : trace.state.phase.active = true → trace.state.currentProse = joined trace.chunks
  counted : trace.written.length + (if trace.state.phase.active then 1 else 0) ≤ trace.starts

variable {js : Js} {state : State} {trace : Trace Sender}

theorem consistent_start : Consistent initialState :=
  ⟨fun _ => ⟨rfl, rfl, rfl⟩, by simp [initialState], nofun, fun error => absurd rfl error⟩

theorem transcribed_start : Transcribed ({} : Trace Sender) :=
  ⟨rfl, fun _ => rfl, Nat.le_refl 0⟩

theorem history_appends (js : Js) (state : State) (action : Action) :
    state.history <+: (chatReducer js state action).history := by
  cases action with
  | _ =>
    simp only [chatReducer]
    try split_ifs
    all_goals first | exact prefix_append _ _ | exact prefix_refl _

theorem reducer_consistent (consistent : Consistent state) (action : Action) :
    Consistent (chatReducer js state action) := by
  obtain ⟨empty, identified, last, failed⟩ := consistent
  cases action with
  | _ =>
    simp only [chatReducer]
    try split_ifs
    all_goals
      constructor <;> simp_all [initialState, assistants, Phase.active, Phase.startable] <;> grind

theorem trace_transcribed (transcribed : Transcribed trace) (given : Sender × Action) :
    Transcribed (traceStep js trace given) := by
  obtain ⟨sender, action⟩ := given
  obtain ⟨contents, prose, counted⟩ := transcribed
  cases action with
  | _ =>
    simp only [traceStep, chatReducer, chunksAfter, accepted]
    try split_ifs
    all_goals
      constructor <;> simp_all [initialState, assistants, Phase.active, Phase.startable, takesChunks]
        <;> grind

end FinanceTracker.Chat.Transcript
