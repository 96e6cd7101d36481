import FinanceTracker.Chat.Reducer

/-!
# A send and its stream

`streamChat` on what the browser gives it, the error callback of the mutation, and one
send of the hook from its dispatches to the end of its callbacks.
-/

namespace FinanceTracker.Chat.StreamChat

open Library Json Runs List Reducer

/-- `JSON.parse` and the message of a TypeError, with what the reducer needs. -/
structure Browser extends Js where
  parse : String → Except String JsonValue
  nullFieldMessage : String

structure EventSourceMessage where
  event : String
  data : String

/-- The errors that a mutation fails with; any other error has a name of its own. -/
inductive StreamFailure where
  | auth
  | stream (code : Option String) (status : ℕ) (message : String)
  | other (name message : String)

/-- How a stream is, apart from what it dispatched. -/
structure Transport where
  doneReceived : Bool := false
  failure : Option StreamFailure := none
  aborted : Bool := false

def isDone (message : EventSourceMessage) : Bool := message.data ≠ "" && message.event = "done"

/-- The action of a message; none for a comment and for an unknown type. -/
def readMessage (browser : Browser) (message : EventSourceMessage) :
    Except StreamFailure (Option Action) :=
  if message.data = "" then .ok none
  else
    match browser.parse message.data with
    | .error text => .error (.other "SyntaxError" text)
    | .ok data =>
      match eventToAction ⟨message.event, data⟩ with
      | .error _ => .error (.other "TypeError" browser.nullFieldMessage)
      | .ok action => .ok action

/-- `onmessage`. An error of it ends the stream. -/
def Transport.receive (browser : Browser) (transport : Transport) (message : EventSourceMessage) :
    Transport × Option Action :=
  if transport.failure.isSome || transport.aborted then (transport, none)
  else
    let noted := { transport with doneReceived := transport.doneReceived || isDone message }
    match readMessage browser message with
    | .error failure => ({ noted with failure := some failure }, none)
    | .ok action => (noted, action)

/-- How the response ends: `onclose` runs, or the reader of its body fails. -/
inductive Ending where
  | closed
  | failed (name message : String)

/-- What `streamChat` throws in the end. An aborted stream resolves. -/
def Transport.thrown (transport : Transport) (ending : Ending) : Option StreamFailure :=
  if transport.failure.isSome then transport.failure
  else if transport.aborted then none
  else
    match ending with
    | .closed =>
      if transport.doneReceived then none
      else some (.stream (some "incomplete_stream") 0 "Stream closed without done event")
    | .failed name message => some (.other name message)

/-- What `onError` dispatches. -/
def onError : StreamFailure → Option Action
  | .auth => none
  | .stream code status message =>
    some (.streamError (.obj
      [("code", .str (code.getD (String.append "http_" (toString status)))), ("message", .str message)]))
  | .other name message =>
    if name = "AbortError" then none
    else some (.streamError (.obj [("code", .str "network_error"), ("message", .str message)]))

def settled (js : Js) (state : State) (thrown : Option StreamFailure) : State :=
  (thrown.bind onError).elim state (chatReducer js state)

inductive Response where
  | rejected (name message : String)
  | answered (status : ℕ)

/-- What the storage holds and the server answers. -/
structure Call where
  token : Option String
  accountId : Option String
  response : Response

def hasText (stored : Option String) : Bool := stored.any fun text => text ≠ ""

/-- What `streamChat` throws before the first message. -/
def Call.refused (call : Call) : Option StreamFailure :=
  if !hasText call.token || !hasText call.accountId then some .auth
  else
    match call.response with
    | .rejected name message => some (.other name message)
    | .answered status =>
      if 200 ≤ status ∧ status < 300 then none
      else if status = 401 then some .auth
      else some (.stream none status (String.append "Stream failed: " (toString status)))

/-- What comes while a stream is open. The cancel of a stale closure changes nothing. -/
inductive Delivery where
  | message (message : EventSourceMessage)
  | cancel

structure Sending where
  chat : State
  transport : Transport

def deliver (browser : Browser) (sending : Sending) : Delivery → Sending
  | .message message =>
    let (transport, action) := sending.transport.receive browser message
    { chat := action.elim sending.chat (chatReducer browser.toJs sending.chat), transport }
  | .cancel =>
    if sending.chat.phase.active then
      { chat := chatReducer browser.toJs sending.chat .streamCancelled
        transport := { sending.transport with aborted := true } }
    else sending

/-- One send from a startable phase, with all that comes until its callbacks have run. -/
def send (browser : Browser) (state : State) (question : String) (call : Call)
    (deliveries : List Delivery) (ending : Ending) : State :=
  let started := chatReducer browser.toJs
    (chatReducer browser.toJs state (.userMessageSent question)) .streamStarted
  let sending := runFrom (deliver browser) ⟨started, { failure := call.refused }⟩ deliveries
  settled browser.toJs sending.chat (sending.transport.thrown ending)

/-! What a send needs to come to its end. -/

/-- Once an intent was taken, a done or an error comes. -/
def closes : List Action → Bool
  | [] => false
  | .streamDone _ :: _ | .streamError _ :: _ => true
  | _ :: actions => closes actions

/-- An error comes, or an intent and later a done. -/
def answered : List Action → Bool
  | [] => false
  | .streamError _ :: _ => true
  | .intentResolved _ :: actions => closes actions
  | _ :: actions => answered actions

/-- The callback of the mutation tells the reducer of the error. -/
def reported : StreamFailure → Bool
  | .auth => false
  | .stream _ _ _ => true
  | .other name _ => name ≠ "AbortError"

def messageOf : Delivery → Option EventSourceMessage
  | .message message => some message
  | .cancel => none

def actionOf (browser : Browser) (message : EventSourceMessage) : Option Action :=
  match readMessage browser message with
  | .ok action => action
  | .error _ => none

def unreadable (browser : Browser) (message : EventSourceMessage) : Bool :=
  match readMessage browser message with
  | .ok _ => false
  | .error _ => true

/-- The messages tell the reducer of an end, cannot be read, or end without a done. -/
def ends (browser : Browser) (messages : List EventSourceMessage) (ending : Ending) : Bool :=
  answered (messages.filterMap (actionOf browser)) || messages.any (unreadable browser) ||
    match ending with
    | .closed => !messages.any isDone
    | .failed name _ => name ≠ "AbortError"

/-- Cancelled; or both keys are stored, and the request neither fails with an AbortError nor is
answered 401, and the messages come to an end if it is answered well. -/
def endsCall (browser : Browser) (call : Call) (deliveries : List Delivery) (ending : Ending) : Bool :=
  deliveries.any (fun delivery => (messageOf delivery).isNone) ||
    hasText call.token && hasText call.accountId &&
      match call.response with
      | .rejected name _ => name ≠ "AbortError"
      | .answered status =>
        if 200 ≤ status ∧ status < 300 then ends browser (deliveries.filterMap messageOf) ending
        else status ≠ 401

variable {js : Js} {browser : Browser} {state : State} {action : Action}

theorem startable_iff (phase : Phase) : phase.startable = true ↔ phase.active = false := by
  cases phase <;> decide

/-- No event starts a stream. -/
inductive IsEvent : Action → Prop
  | intentResolved (payload) : IsEvent (.intentResolved payload)
  | dataReady (payload) : IsEvent (.dataReady payload)
  | proseChunk (payload) : IsEvent (.proseChunk payload)
  | streamDone (payload) : IsEvent (.streamDone payload)
  | streamError (payload) : IsEvent (.streamError payload)

theorem event_of_action {event : StreamEvent} (made : eventToAction event = .ok (some action)) :
    IsEvent action := by
  unfold eventToAction at made
  split at made
  · obtain ⟨_, made⟩ := rest_ok made
    obtain ⟨_, made⟩ := rest_ok made
    obtain ⟨_, made⟩ := rest_ok made
    cases made
    exact .intentResolved _
  · cases made
    exact .dataReady _
  · obtain ⟨_, made⟩ := rest_ok made
    cases made
    exact .proseChunk _
  · cases made
    exact .streamDone _
  · cases made
    exact .streamError _
  · cases made

theorem event_of_message {message : EventSourceMessage}
    (read : readMessage browser message = .ok (some action)) : IsEvent action := by
  unfold readMessage at read
  split at read
  · cases read
  · split at read
    · cases read
    · split at read
      · cases read
      · next made =>
        cases read
        exact event_of_action made

theorem failure_reported {message : EventSourceMessage} {failure : StreamFailure}
    (read : readMessage browser message = .error failure) : reported failure = true := by
  unfold readMessage at read
  split at read
  · cases read
  · split at read
    · cases read
      rfl
    · split at read
      · cases read
        rfl
      · cases read

theorem event_ignored (event : IsEvent action) (startable : state.phase.startable = true) :
    chatReducer js state action = state := by
  cases event with
  | _ => cases phase : state.phase <;> simp_all [chatReducer, Phase.startable, Phase.active]

theorem events_ignored {actions : List Action} (events : ∀ action ∈ actions, IsEvent action)
    (startable : state.phase.startable = true) :
    runFrom (chatReducer js) state actions = state := by
  induction actions with
  | nil => rfl
  | cons action actions ih =>
    obtain ⟨event, others⟩ := forall_mem_cons.mp events
    rw [run_from_cons, event_ignored event startable]
    exact ih others

theorem closes_iff {actions : List Action} (events : ∀ action ∈ actions, IsEvent action)
    (taking : state.phase = .fetching ∨ state.phase = .streaming) :
    (runFrom (chatReducer js) state actions).phase.startable = true ↔ closes actions = true := by
  induction actions generalizing state with
  | nil => rcases taking with phase | phase <;> simp [phase, Phase.startable, closes]
  | cons action actions ih =>
    obtain ⟨event, others⟩ := forall_mem_cons.mp events
    rw [run_from_cons]
    cases event with
    | streamDone payload =>
      rw [chatReducer, if_pos taking, events_ignored others rfl]
      exact iff_of_true rfl rfl
    | streamError payload =>
      have active : state.phase.active = true := by
        rcases taking with phase | phase <;> rw [phase] <;> rfl
      rw [chatReducer, if_pos active, events_ignored others rfl]
      exact iff_of_true rfl rfl
    | proseChunk payload =>
      rw [chatReducer, if_pos taking]
      exact ih others (Or.inr rfl)
    | _ =>
      apply ih others
      rcases taking with phase | phase <;> simp [chatReducer, phase]

theorem answered_iff {actions : List Action} (events : ∀ action ∈ actions, IsEvent action)
    (routing : state.phase = .routing) :
    (runFrom (chatReducer js) state actions).phase.startable = true ↔ answered actions = true := by
  induction actions generalizing state with
  | nil => simp [routing, Phase.startable, answered]
  | cons action actions ih =>
    obtain ⟨event, others⟩ := forall_mem_cons.mp events
    rw [run_from_cons]
    cases event with
    | intentResolved payload =>
      rw [chatReducer, if_pos routing]
      exact closes_iff others (Or.inl rfl)
    | streamError payload =>
      have active : state.phase.active = true := by
        rw [routing]
        rfl
      rw [chatReducer, if_pos active, events_ignored others rfl]
      exact iff_of_true rfl rfl
    | _ =>
      apply ih others
      simp [chatReducer, routing]

theorem reducer_keeps_startable (event : IsEvent action) (startable : state.phase.startable = true) :
    (chatReducer js state action).phase.startable = true := by
  rw [event_ignored event startable]
  exact startable

theorem cancel_starts (sending : Sending) :
    (deliver browser sending .cancel).chat.phase.startable = true := by
  by_cases active : sending.chat.phase.active = true
  · simp [deliver, chatReducer, active, initialState, Phase.startable]
  · rw [deliver, if_neg active]
    exact (startable_iff _).mpr (eq_false_of_ne_true active)

theorem deliver_keeps_startable (sending : Sending) (delivery : Delivery)
    (startable : sending.chat.phase.startable = true) :
    (deliver browser sending delivery).chat.phase.startable = true := by
  cases delivery with
  | cancel => exact cancel_starts sending
  | message message =>
    simp only [deliver, Transport.receive]
    split
    · exact startable
    · split
      · exact startable
      · next action read =>
        cases action with
        | none => exact startable
        | some action => exact reducer_keeps_startable (event_of_message read) startable

theorem settled_startable (thrown : Option StreamFailure) :
    (settled js state thrown).phase.startable = (state.phase.startable || thrown.any reported) := by
  have told (payload : JsonValue) :
      (chatReducer js state (.streamError payload)).phase.startable = true := by
    by_cases active : state.phase.active = true
    · rw [chatReducer, if_pos active]
      rfl
    · rw [chatReducer, if_neg active]
      exact (startable_iff _).mpr (eq_false_of_ne_true active)
  rcases thrown with _ | failure
  · exact (Bool.or_false _).symm
  cases failure with
  | auth => exact (Bool.or_false _).symm
  | stream code status message =>
    rw [Option.any_some, reported, Bool.or_true]
    exact told _
  | other name message =>
    by_cases aborted : name = "AbortError"
    · simp [settled, onError, reported, aborted]
    · simp [settled, onError, reported, aborted, told]

/-- A stream that failed takes no more messages. -/
theorem deliver_failed {sending : Sending} (failed : sending.transport.failure.isSome = true)
    (messages : List EventSourceMessage) :
    runFrom (deliver browser) sending (messages.map .message) = sending := by
  induction messages with
  | nil => rfl
  | cons message messages ih =>
    have same : deliver browser sending (.message message) = sending := by
      simp [deliver, Transport.receive, failed]
    rw [map_cons, run_from_cons, same]
    exact ih

/-- Messages on an open stream, up to the first that cannot be read. -/
theorem deliver_messages (messages : List EventSourceMessage) (chat : State) (noted : Bool) :
    let reached := runFrom (deliver browser) ⟨chat, { doneReceived := noted }⟩
      (messages.map .message)
    if messages.any (unreadable browser) then reached.transport.failure.any reported = true
    else reached = ⟨runFrom (chatReducer browser.toJs) chat (messages.filterMap (actionOf browser)),
      { doneReceived := noted || messages.any isDone }⟩ := by
  induction messages generalizing chat noted with
  | nil => simp
  | cons message messages ih =>
    rw [map_cons, run_from_cons, any_cons]
    rcases read : readMessage browser message with failure | action
    · have stopped : deliver browser ⟨chat, { doneReceived := noted }⟩ (.message message) =
          ⟨chat, ⟨noted || isDone message, some failure, false⟩⟩ := by
        simp [deliver, Transport.receive, read]
      rw [stopped, deliver_failed rfl]
      simp [unreadable, read, failure_reported read]
    · have taken : deliver browser ⟨chat, { doneReceived := noted }⟩ (.message message) =
          ⟨action.elim chat (chatReducer browser.toJs chat),
            { doneReceived := noted || isDone message }⟩ := by
        simp [deliver, Transport.receive, read]
      have readable : unreadable browser message = false := by
        rw [unreadable, read]
      have acts : actionOf browser message = action := by
        rw [actionOf, read]
      rw [taken, readable, Bool.false_or]
      have rest := ih (action.elim chat (chatReducer browser.toJs chat)) (noted || isDone message)
      cases action with
      | none => simpa [acts, Bool.or_assoc] using rest
      | some action => simpa [acts, Bool.or_assoc] using rest

theorem uncancelled {deliveries : List Delivery}
    (none : deliveries.any (fun delivery => (messageOf delivery).isNone) = false) :
    (deliveries.filterMap messageOf).map .message = deliveries := by
  induction deliveries with
  | nil => rfl
  | cons delivery deliveries ih =>
    rw [any_cons, Bool.or_eq_false_iff] at none
    cases delivery with
    | message message => exact congrArg (Delivery.message message :: ·) (ih none.2)
    | cancel => exact absurd none.1 Bool.noConfusion

theorem actions_are_events (messages : List EventSourceMessage) :
    ∀ action ∈ messages.filterMap (actionOf browser), IsEvent action := by
  intro action member
  obtain ⟨message, -, acts⟩ := mem_filterMap.mp member
  unfold actionOf at acts
  split at acts
  · next read =>
    rw [acts] at read
    exact event_of_message read
  · cases acts

/-- An open stream with no cancel. -/
theorem messages_settle_iff {chat : State} (routing : chat.phase = .routing)
    (messages : List EventSourceMessage) (ending : Ending) :
    let reached := runFrom (deliver browser) ⟨chat, {}⟩ (messages.map .message)
    (settled browser.toJs reached.chat (reached.transport.thrown ending)).phase.startable = true ↔
      ends browser messages ending = true := by
  have reached := @deliver_messages browser messages chat false
  simp only [settled_startable, ends, Bool.or_eq_true] at reached ⊢
  split at reached
  · next broken =>
    obtain ⟨failure, failed, told⟩ := (Option.any_eq_true _ _).mp reached
    have thrown : (runFrom (deliver browser) ⟨chat, {}⟩
        (messages.map .message)).transport.thrown ending = some failure := by
      simp [Transport.thrown, failed]
    rw [thrown]
    simp [told, broken]
  · next readable =>
    have answers := @answered_iff browser.toJs chat _
      (@actions_are_events browser messages) routing
    rw [reached, answers]
    simp only [Transport.thrown, readable]
    cases ending with
    | closed => cases messages.any isDone <;> simp [reported]
    | failed name text => simp [reported]

theorem refused_or_ends (call : Call) (messages : List EventSourceMessage) (ending : Ending) :
    (match call.refused with
      | some failure => reported failure
      | none => ends browser messages ending) =
    (hasText call.token && hasText call.accountId &&
      match call.response with
      | .rejected name _ => name ≠ "AbortError"
      | .answered status =>
        if 200 ≤ status ∧ status < 300 then ends browser messages ending else status ≠ 401) := by
  unfold Call.refused
  cases hasText call.token with
  | false => rfl
  | true =>
    cases hasText call.accountId with
    | false => rfl
    | true =>
      rcases call.response with ⟨name, message⟩ | status
      · rfl
      · by_cases good : 200 ≤ status ∧ status < 300
        · simp [good]
        · by_cases denied : status = 401 <;> simp [good, denied, reported]

/-- A send whose callbacks have run leaves the chat startable, exactly if it was cancelled, was
refused with an error that is reported, or its messages come to an end. -/
theorem send_settles_iff (startable : state.phase.startable = true) (question : String)
    (call : Call) (deliveries : List Delivery) (ending : Ending) :
    (send browser state question call deliveries ending).phase.startable = true ↔
      endsCall browser call deliveries ending = true := by
  have routing : (chatReducer browser.toJs (chatReducer browser.toJs state
      (.userMessageSent question)) .streamStarted).phase = .routing := by
    simp [chatReducer, startable]
  dsimp only [send, endsCall]
  cases cancelled : deliveries.any fun delivery => (messageOf delivery).isNone with
  | true =>
    obtain ⟨stop, member, isCancel⟩ := any_eq_true.mp cancelled
    obtain ⟨before, later, split⟩ := append_of_mem member
    have cancels : stop = .cancel := by
      cases stop with
      | message message => exact absurd isCancel Bool.noConfusion
      | cancel => rfl
    refine iff_of_true ?_ rfl
    rw [settled_startable, split, cancels, run_from_append, run_from_cons]
    rw [run_keeps (deliver browser) deliver_keeps_startable (cancel_starts _) later]
    rfl
  | false =>
    have plain := uncancelled cancelled
    generalize deliveries.filterMap messageOf = messages at plain ⊢
    subst plain
    rw [Bool.false_or, ← refused_or_ends]
    rcases call.refused with _ | failure
    · exact messages_settle_iff routing messages ending
    · rw [deliver_failed rfl, settled_startable, routing]
      rfl

/-- The page as a browser has it, whose every text parses as an empty object. -/
def page : Browser where
  randomUUID drawn := toString drawn
  toText _ := "undefined"
  parse _ := .ok (.obj [])
  nullFieldMessage := "Cannot read properties of null"

theorem answer_settles :
    (send page initialState "Hvad brugte jeg på mad?" ⟨some "token", some "1", .answered 200⟩
      [.message ⟨"intent_resolved", "\x7b\x7d"⟩, .message ⟨"done", "\x7b\x7d"⟩]
      .closed).phase.startable = true :=
  (send_settles_iff rfl _ _ _ _).mpr (by decide)

/-- Without an account the chat stays busy. -/
theorem missing_account_stays_busy :
    (send page initialState "Hvad brugte jeg på mad?" ⟨some "token", none, .answered 200⟩ []
      .closed).phase = .routing := by
  decide

end FinanceTracker.Chat.StreamChat
