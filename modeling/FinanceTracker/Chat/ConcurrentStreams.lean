import FinanceTracker.Chat.StreamChat
import FinanceTracker.Chat.Transcript

/-!
# Overlapping streams of one chat

The hook with all the streams that it started. `send` and `cancel` see the phase of the
last render; the request of a send starts later, when the client is online, and takes the
controller that is there by then. An abort is told to the streams that listen to it.
-/

namespace FinanceTracker.Chat.ConcurrentStreams

open Library.Runs List Reducer Transcript StreamChat

inductive Stream where
  | pending
  | running (signal : ℕ) (transport : Transport)
  | settled

/-- `streams` has one stream for each send that passed its guard; its controller has the
same number. -/
structure Hook where
  trace : Trace ℕ := {}
  seen : Phase := .idle
  streams : List Stream := []

inductive Step where
  | send (question : String)
  | cancel
  | render
  | start (stream : ℕ) (call : Call)
  | message (stream : ℕ) (message : EventSourceMessage)
  | settle (stream : ℕ) (ending : Ending)

def Hook.dispatch (js : Js) (hook : Hook) (sender : ℕ) (action : Option Action) : Hook :=
  { hook with trace := action.elim hook.trace fun action => traceStep js hook.trace (sender, action) }

def Hook.put (hook : Hook) (number : ℕ) (stream : Stream) : Hook :=
  { hook with streams := hook.streams.set number stream }

def Stream.abort (controller : ℕ) : Stream → Stream
  | .running signal transport =>
    .running signal (if signal = controller then { transport with aborted := true } else transport)
  | stream => stream

def step (browser : Browser) (hook : Hook) : Step → Hook
  | .send question =>
    if hook.seen.active then hook
    else
      let sent := hook.dispatch browser.toJs hook.streams.length (some (.userMessageSent question))
      let started := sent.dispatch browser.toJs hook.streams.length (some .streamStarted)
      { started with streams := hook.streams ++ [.pending] }
  | .cancel =>
    if hook.seen.active then
      { hook.dispatch browser.toJs hook.streams.length (some .streamCancelled) with
        streams := hook.streams.map (Stream.abort (hook.streams.length - 1)) }
    else hook
  | .render => { hook with seen := hook.trace.state.phase }
  | .start number call =>
    match hook.streams[number]? with
    | some .pending =>
      hook.put number (.running (hook.streams.length - 1) { failure := call.refused })
    | _ => hook
  | .message number message =>
    match hook.streams[number]? with
    | some (.running signal transport) =>
      let (received, action) := transport.receive browser message
      (hook.dispatch browser.toJs number action).put number (.running signal received)
    | _ => hook
  | .settle number ending =>
    match hook.streams[number]? with
    | some (.running _ transport) =>
      (hook.dispatch browser.toJs number ((transport.thrown ending).bind onError)).put number .settled
    | _ => hook

def Step.stream : Step → Option ℕ
  | .start number _ | .message number _ | .settle number _ => some number
  | _ => none

/-- A step of a stream that was sent before the last accepted start changes nothing. -/
def Unmixed (browser : Browser) (hook : Hook) (given : Step) : Prop :=
  ∀ owner number, hook.trace.owner = some owner → given.stream = some number → number < owner →
    (step browser hook given).trace.state = hook.trace.state

/-- The stream was aborted, failed with what is not reported, or got its done. -/
def Stream.finished : Stream → Bool
  | .pending => false
  | .running _ transport => !transport.failure.any reported &&
      (transport.failure.isSome || transport.aborted || transport.doneReceived)
  | .settled => true

def silent (browser : Browser) (message : EventSourceMessage) : Bool :=
  match readMessage browser message with
  | .ok none => true
  | _ => false

def quiet : Ending → Bool
  | .closed => true
  | .failed name _ => name = "AbortError"

/-- A send that passes its guard finds a startable phase and earlier streams that are finished,
which give no event and no failure after it. -/
def separate (browser : Browser) (hook : Hook) : Step → Bool
  | .send _ =>
    hook.seen.active || hook.trace.state.phase.startable && hook.streams.all Stream.finished
  | .message number message => hook.streams.length ≤ number + 1 || silent browser message
  | .settle number ending => hook.streams.length ≤ number + 1 || quiet ending
  | _ => true

/-- What separate steps keep. -/
structure Separated (hook : Hook) : Prop where
  finished : ∀ number stream, hook.streams[number]? = some stream →
    number + 1 < hook.streams.length → stream.finished = true
  owned : hook.trace.owner = if hook.streams.length = 0 then none else some (hook.streams.length - 1)
  chunks : ∀ chunk ∈ hook.trace.chunks, chunk.1 + 1 = hook.streams.length
  written : ∀ chunks ∈ hook.trace.written, ∃ sender, ∀ chunk ∈ chunks, chunk.1 = sender
  transcribed : Transcribed hook.trace

variable {js : Js} {browser : Browser} {hook : Hook} {transport : Transport}

theorem separated_start : Separated {} :=
  ⟨nofun, rfl, nofun, nofun, transcribed_start⟩

theorem receive_finished {signal : ℕ} (finished : (Stream.running signal transport).finished = true)
    {message : EventSourceMessage} (quiet : silent browser message = true) :
    transport.receive browser message = (transport, none) := by
  by_cases stopped : (transport.failure.isSome || transport.aborted) = true
  · rw [Transport.receive, if_pos stopped]
  · obtain ⟨doneReceived, failure, aborted⟩ := transport
    simp only [silent] at quiet
    split at quiet
    · next read => simp_all [Stream.finished, Transport.receive]
    · cases quiet

theorem reported_iff (failure : StreamFailure) : (onError failure).isSome = reported failure := by
  cases failure with
  | other name message => by_cases aborted : name = "AbortError" <;> simp [onError, reported, aborted]
  | _ => rfl

theorem thrown_finished {signal : ℕ} (finished : (Stream.running signal transport).finished = true)
    {ending : Ending} (closes : quiet ending = true) :
    (transport.thrown ending).bind onError = none := by
  obtain ⟨doneReceived, failure, aborted⟩ := transport
  simp only [Stream.finished, Bool.and_eq_true, Bool.not_eq_true'] at finished
  rcases failure with _ | failure
  · cases ending with
    | closed => cases aborted <;> simp_all [Transport.thrown]
    | failed name message => cases aborted <;> simp_all [Transport.thrown, onError, quiet]
  · have unreported : (onError failure).isSome = false := by
      rw [reported_iff]
      exact finished.1
    simpa [Transport.thrown] using unreported

theorem abort_finished (controller : ℕ) {stream : Stream} (finished : stream.finished = true) :
    (stream.abort controller).finished = true := by
  cases stream with
  | running signal transport =>
    simp only [Stream.abort, Stream.finished] at finished ⊢
    split <;> simp_all
  | _ => exact finished

theorem written_step (separated : Separated hook) (given : ℕ × Action) :
    ∀ chunks ∈ (traceStep js hook.trace given).written,
      ∃ sender, ∀ chunk ∈ chunks, chunk.1 = sender := by
  intro chunks member
  simp only [traceStep] at member
  split at member
  · exact separated.written chunks member
  · rcases mem_snoc.mp member with earlier | rfl
    · exact separated.written chunks earlier
    · refine ⟨hook.streams.length - 1, fun chunk taken => ?_⟩
      have := separated.chunks chunk taken
      omega

theorem dispatch_separated (separated : Separated hook) {sender : ℕ} {action : Action}
    (started : accepted hook.trace.state action = false)
    (sends : ∀ payload, action = .proseChunk payload → sender + 1 = hook.streams.length) :
    Separated (hook.dispatch js sender (some action)) where
  finished := separated.finished
  owned := by
    simp only [Hook.dispatch, Option.elim_some, traceStep, started]
    exact separated.owned
  chunks := by
    intro chunk taken
    simp only [Hook.dispatch, Option.elim_some, traceStep] at taken
    unfold chunksAfter at taken
    split at taken
    · rw [accepted] at started
      rw [if_neg (ne_true_of_eq_false started)] at taken
      exact separated.chunks chunk taken
    · next payload =>
      split at taken
      · rcases mem_snoc.mp taken with earlier | rfl
        · exact separated.chunks chunk earlier
        · exact sends payload rfl
      · exact separated.chunks chunk taken
    · exact separated.chunks chunk taken
  written := written_step separated (sender, action)
  transcribed := trace_transcribed separated.transcribed (sender, action)

theorem put_separated (separated : Separated hook) {number : ℕ} {stream : Stream}
    (finished : number + 1 < hook.streams.length → stream.finished = true) :
    Separated (hook.put number stream) := by
  refine ⟨?_, ?_, ?_, separated.written, separated.transcribed⟩
  · intro other found isThere stale
    simp only [Hook.put, length_set] at isThere stale
    rw [getElem?_set] at isThere
    split at isThere
    · next same =>
      subst same
      split at isThere
      · cases isThere
        exact finished stale
      · cases isThere
    · exact separated.finished other found isThere stale
  · simpa [Hook.put] using separated.owned
  · simpa [Hook.put] using separated.chunks

theorem send_separated (separated : Separated hook) (question : String)
    (allowed : separate browser hook (.send question) = true) :
    Separated (step browser hook (.send question)) := by
  by_cases busy : hook.seen.active = true
  · rw [step, if_pos busy]
    exact separated
  simp only [separate, busy, Bool.false_or, Bool.and_eq_true] at allowed
  obtain ⟨startable, finished⟩ := allowed
  rw [step, if_neg busy]
  have sent := @dispatch_separated browser.toJs hook separated hook.streams.length
    (.userMessageSent question) rfl nofun
  have rests : (hook.dispatch browser.toJs hook.streams.length
      (some (.userMessageSent question))).trace.state.phase.startable = true := startable
  generalize hook.dispatch browser.toJs hook.streams.length (some (.userMessageSent question)) = told
    at sent rests ⊢
  refine ⟨?_, ?_, ?_, written_step sent _, trace_transcribed sent.transcribed _⟩
  · intro number stream found stale
    rw [length_append, length_singleton] at stale
    rw [getElem?_append_left (by omega)] at found
    exact all_eq_true.mp finished stream (mem_of_getElem? found)
  · simp [Hook.dispatch, traceStep, accepted, rests]
  · simp [Hook.dispatch, traceStep, chunksAfter, rests]

theorem cancel_separated (separated : Separated hook) : Separated (step browser hook .cancel) := by
  by_cases busy : hook.seen.active = true
  · rw [step, if_pos busy]
    have told := @dispatch_separated browser.toJs hook separated hook.streams.length
      .streamCancelled rfl nofun
    refine ⟨?_, ?_, ?_, told.written, told.transcribed⟩
    · intro number stream found stale
      rw [length_map] at stale
      rw [getElem?_map] at found
      obtain ⟨earlier, isThere, rfl⟩ := Option.map_eq_some_iff.mp found
      exact abort_finished _ (separated.finished number earlier isThere stale)
    · simpa [Hook.dispatch] using told.owned
    · simpa [Hook.dispatch] using told.chunks
  · rw [step, if_neg busy]
    exact separated

theorem receive_event {message : EventSourceMessage} {received : Transport} {action : Action}
    (receives : transport.receive browser message = (received, some action)) : IsEvent action := by
  unfold Transport.receive at receives
  split at receives
  · cases receives
  · dsimp only at receives
    split at receives
    · cases receives
    · next taken read =>
      cases receives
      exact event_of_message read

/-- No event and no failure starts a stream. -/
theorem event_separated (separated : Separated hook) {number : ℕ} {action : Option Action}
    (events : ∀ given, action = some given → IsEvent given)
    (last : number + 1 = hook.streams.length) :
    Separated (hook.dispatch js number action) := by
  rcases action with _ | action
  · exact separated
  · apply dispatch_separated separated
    · cases events action rfl <;> rfl
    · exact fun _ _ => last

theorem error_event {thrown : Option StreamFailure} {action : Action}
    (told : thrown.bind onError = some action) : IsEvent action := by
  obtain ⟨failure, -, told⟩ := Option.bind_eq_some_iff.mp told
  cases failure with
  | auth => cases told
  | stream code status message =>
    cases told
    exact .streamError _
  | other name message =>
    rw [onError] at told
    split at told
    · cases told
    · cases told
      exact .streamError _

/-- A stream that a later send followed tells the chat nothing more. -/
theorem stale_unchanged (separated : Separated hook) {given : Step} {number : ℕ}
    (allowed : separate browser hook given = true) (gives : given.stream = some number)
    (stale : number + 1 < hook.streams.length) :
    (step browser hook given).trace = hook.trace := by
  have late : ¬ hook.streams.length ≤ number + 1 := by
    omega
  cases given with
  | start other call =>
    cases gives
    simp only [step]
    split <;> rfl
  | message other message =>
    cases gives
    simp only [separate, late, decide_false, Bool.false_or] at allowed
    simp only [step]
    split
    · next signal transport found =>
      have finished := separated.finished number _ found stale
      rw [receive_finished finished allowed]
      rfl
    · rfl
  | settle other ending =>
    cases gives
    simp only [separate, late, decide_false, Bool.false_or] at allowed
    simp only [step]
    split
    · next signal transport found =>
      rw [thrown_finished (separated.finished number _ found stale) allowed]
      rfl
    · rfl
  | _ => cases gives

theorem step_separated (separated : Separated hook) (given : Step)
    (allowed : separate browser hook given = true) : Separated (step browser hook given) := by
  cases given with
  | send question => exact send_separated separated question allowed
  | cancel => exact cancel_separated separated
  | render => exact ⟨separated.1, separated.2, separated.3, separated.4, separated.5⟩
  | start number call =>
    simp only [step]
    split
    · next found =>
      apply put_separated separated
      intro stale
      cases separated.finished number _ found stale
    · exact separated
  | message number message =>
    simp only [step]
    split
    · next signal transport found =>
      by_cases stale : number + 1 < hook.streams.length
      · have finished := separated.finished number _ found stale
        have quiet : silent browser message = true := by
          simpa [separate, Nat.not_le.mpr stale] using allowed
        rw [receive_finished finished quiet]
        exact put_separated separated fun _ => finished
      · have last : number + 1 = hook.streams.length := by
          have := (List.getElem?_eq_some_iff.mp found).1
          omega
        rcases receives : transport.receive browser message with ⟨received, action⟩
        apply put_separated
        · apply event_separated separated _ last
          rintro given rfl
          exact receive_event receives
        · exact fun late => absurd late stale
    · exact separated
  | settle number ending =>
    simp only [step]
    split
    · next signal transport found =>
      apply put_separated
      · by_cases stale : number + 1 < hook.streams.length
        · have quiet : quiet ending = true := by
            simpa [separate, Nat.not_le.mpr stale] using allowed
          rw [thrown_finished (separated.finished number _ found stale) quiet]
          exact separated
        · have last : number + 1 = hook.streams.length := by
            have := (List.getElem?_eq_some_iff.mp found).1
            omega
          exact event_separated separated (fun _ told => error_event told) last
      · exact fun _ => rfl
    · exact separated

theorem step_unmixed (separated : Separated hook) (given : Step)
    (allowed : separate browser hook given = true) : Unmixed browser hook given := by
  intro owner number owned gives earlier
  have last := separated.owned
  rw [owned] at last
  split at last
  · cases last
  · cases last
    rw [stale_unchanged separated allowed gives (by omega)]

theorem run_separated (separated : Separated hook) (steps : List Step)
    (allowed : AllSteps (step browser) (fun hook given => separate browser hook given = true) hook
      steps) :
    AllSteps (step browser) (Unmixed browser) hook steps ∧
      Separated (runFrom (step browser) hook steps) := by
  induction steps generalizing hook with
  | nil => exact ⟨trivial, separated⟩
  | cons given steps ih =>
    obtain ⟨unmixed, reached⟩ := ih (step_separated separated given allowed.1) allowed.2
    exact ⟨⟨step_unmixed separated given allowed.1, unmixed⟩, reached⟩

/-- In every run whose steps are separate, no step of an earlier stream changes the chat, and
every message of the assistant is the chunks of one stream. -/
theorem streams_do_not_mix (browser : Browser) (steps : List Step)
    (allowed : AllSteps (step browser) (fun hook given => separate browser hook given = true) {}
      steps) :
    AllSteps (step browser) (Unmixed browser) {} steps ∧
      let reached := (runFrom (step browser) {} steps).trace
      (assistants reached.state).map Message.content = reached.written.map joined ∧
        ∀ chunks ∈ reached.written, ∃ sender, ∀ chunk ∈ chunks, chunk.1 = sender := by
  obtain ⟨unmixed, separated⟩ := run_separated separated_start steps allowed
  exact ⟨unmixed, separated.transcribed.contents, separated.written⟩

/-- Two questions, the second asked before the first stream is closed. -/
def twoQuestions : List Step :=
  [.send "Hvad brugte jeg på mad?", .render, .start 0 ⟨some "token", some "1", .answered 200⟩,
    .message 0 ⟨"intent_resolved", "\x7b\x7d"⟩, .message 0 ⟨"prose_chunk", "\x7b\x7d"⟩,
    .message 0 ⟨"done", "\x7b\x7d"⟩, .render, .send "Og på transport?", .settle 0 .closed]

theorem two_questions_unmixed :
    AllSteps (step page) (Unmixed page) {} twoQuestions ∧
      let reached := (runFrom (step page) {} twoQuestions).trace
      (assistants reached.state).map Message.content = reached.written.map joined ∧
        ∀ chunks ∈ reached.written, ∃ sender, ∀ chunk ∈ chunks, chunk.1 = sender :=
  streams_do_not_mix page twoQuestions (by decide)

/-- A first stream that told of an error, and a second question before it is closed. -/
def failedQuestion : List Step :=
  [.send "Hvad brugte jeg på mad?", .render, .start 0 ⟨some "token", some "1", .answered 200⟩,
    .message 0 ⟨"error", "\x7b\x7d"⟩, .render, .send "Og på transport?"]

/-- The close of the first stream ends the second. -/
theorem closing_error_mixes :
    let asked := runFrom (step page) {} failedQuestion
    asked.trace.owner = some 1 ∧ asked.trace.state.phase = .routing ∧
      (step page asked (.settle 0 .closed)).trace.state.phase = .error := by
  decide

end FinanceTracker.Chat.ConcurrentStreams
