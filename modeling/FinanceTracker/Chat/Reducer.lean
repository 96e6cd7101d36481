import FinanceTracker.Library.Json
import FinanceTracker.Library.Runs

/-!
# The reducer of the chat

The state of a chat, the actions on it and the action of a server event. JSON null and
undefined are none where the state keeps null. `history` is what the user sees: messages
of both sides, with those that a cancel cut short.
-/

namespace FinanceTracker.Chat.Reducer

open Library.Json List

/-- What JavaScript supplies: the id that `crypto.randomUUID` draws for the n-th message,
and the text that `+` makes of a value that is not a string (none is undefined). -/
structure Js where
  randomUUID : ℕ → String
  toText : Option JsonValue → String

def Js.text (js : Js) : Option JsonValue → String
  | some (.str text) => text
  | value => js.toText value

inductive Phase where
  | idle
  | routing
  | fetching
  | streaming
  | done
  | error
  deriving DecidableEq

def Phase.active (phase : Phase) : Bool :=
  phase = .routing || phase = .fetching || phase = .streaming

def Phase.startable (phase : Phase) : Bool := phase = .idle || phase = .done || phase = .error

inductive Role where
  | user
  | assistant
  deriving DecidableEq

structure Intent where
  name : Option JsonValue
  period : Option JsonValue
  slots : Option JsonValue

structure Message where
  id : String
  role : Role
  content : String
  intent : Option Intent := none
  data : Option JsonValue := none
  metadata : Option JsonValue := none
  cancelled : Bool := false

structure State where
  phase : Phase := .idle
  intent : Option Intent := none
  data : Option JsonValue := none
  currentProse : String := ""
  messageId : Option String := none
  metadata : Option JsonValue := none
  error : Option JsonValue := none
  history : List Message := []

def initialState : State := {}

inductive Action where
  | userMessageSent (payload : String)
  | streamStarted
  | intentResolved (payload : Intent)
  | dataReady (payload : JsonValue)
  | proseChunk (payload : Option JsonValue)
  | streamDone (payload : JsonValue)
  | streamError (payload : JsonValue)
  | streamCancelled
  | reset
  | unknown

def nonNull : JsonValue → Option JsonValue
  | .null => none
  | value => some value

/-- `value.name`; only a value that is null has no fields to ask for. -/
def field (value : JsonValue) (name : String) : Option JsonValue :=
  match value with
  | .obj entries => Library.Json.get entries name
  | _ => none

/-- Every array and object is truthy in JavaScript. -/
def jsTruthy : JsonValue → Bool
  | .arr _ | .obj _ => true
  | value => truthy value

def State.hasPartial (state : State) : Bool :=
  state.currentProse ≠ "" || state.intent.isSome || state.data.any jsTruthy

def chatReducer (js : Js) (state : State) : Action → State
  | .userMessageSent payload =>
    { state with history := state.history ++
        [{ id := js.randomUUID state.history.length, role := .user, content := payload }] }
  | .streamStarted =>
    if state.phase.startable then { phase := .routing, history := state.history } else state
  | .intentResolved payload =>
    if state.phase = .routing then { state with phase := .fetching, intent := some payload }
    else state
  | .dataReady payload =>
    if state.phase = .fetching then { state with data := nonNull payload } else state
  | .proseChunk payload =>
    if state.phase = .fetching ∨ state.phase = .streaming then
      { state with phase := .streaming, currentProse := state.currentProse ++ js.text payload }
    else state
  | .streamDone payload =>
    if state.phase = .fetching ∨ state.phase = .streaming then
      let messageId := js.randomUUID state.history.length
      let metadata := (field payload "metadata").bind nonNull
      { state with
        phase := .done
        messageId := some messageId
        metadata
        currentProse := ""
        intent := none
        data := none
        history := state.history ++
          [{ id := messageId, role := .assistant, content := state.currentProse
             intent := state.intent, data := state.data, metadata }] }
    else state
  | .streamError payload =>
    if state.phase.active then { state with phase := .error, error := nonNull payload } else state
  | .streamCancelled =>
    if state.phase.active then
      { initialState with history :=
          if state.hasPartial then state.history ++
            [{ id := js.randomUUID state.history.length, role := .assistant
               content := state.currentProse, intent := state.intent, data := state.data
               cancelled := true }]
          else state.history }
    else state
  | .reset => { initialState with history := state.history }
  | .unknown => state

structure StreamEvent where
  type : String
  data : JsonValue

/-- The data of an event is null, which has no fields. -/
inductive TypeError where
  | fieldOfNull

def fieldOf (value : JsonValue) (name : String) : Except TypeError (Option JsonValue) :=
  match value with
  | .null => .error .fieldOfNull
  | value => .ok (field value name)

/-- none for an unknown type. -/
def eventToAction (event : StreamEvent) : Except TypeError (Option Action) :=
  match event.type with
  | "intent_resolved" => do
    let name ← fieldOf event.data "intent"
    let period ← fieldOf event.data "period"
    let slots ← fieldOf event.data "slots"
    .ok (some (.intentResolved { name, period, slots }))
  | "data_ready" => .ok (some (.dataReady event.data))
  | "prose_chunk" => do
    let delta ← fieldOf event.data "delta"
    .ok (some (.proseChunk delta))
  | "done" => .ok (some (.streamDone event.data))
  | "error" => .ok (some (.streamError event.data))
  | _ => .ok none

end FinanceTracker.Chat.Reducer
