import FinanceTracker.Banking.EnableBanking

/-!
# What the command consumer answers

A reply of banking-service answers the command that was running, and a successful one
to a fetch carries what that delivery has fetched.
-/

namespace FinanceTracker.Banking.FetchReplies

open Library.Runs Shared.CommandConsumer Shared.SagaMessages SagaCommands EnableBanking

variable {parseUuid : String → Option String} {consumer : Consumer} {label : Label}

/-- A handler works on a command of its own kind. -/
def WorkMatches (running : Running Work) : Prop :=
  match running.work with
  | .fetching => running.message.body.eventType = fetchEventType
  | .fetched _ => running.message.body.eventType = fetchEventType
  | .marking _ => running.message.body.eventType = markSyncCompleteEventType
  | .raised _ => True

def RunningMatches (consumer : Consumer) : Prop :=
  ∀ running, consumer.running = some running → WorkMatches running

theorem begin_work_matches {running : Running Work}
    (begun : beginWork running.message.body = some running.work) : WorkMatches running := by
  unfold WorkMatches
  unfold beginWork at begun
  split at begun
  · next isFetch =>
    rw [← Option.some.inj begun]
    unfold beginFetch
    cases running.message.body.fields.connectionId with
    | none => trivial
    | some => exact isFetch
  · split at begun
    · next isMark =>
      rw [← Option.some.inj begun]
      exact isMark
    · contradiction

theorem step_keeps_matches (label : Label) (invariant : RunningMatches consumer) :
    RunningMatches (step parseUuid consumer label) := by
  have stepped := step_stepped parseUuid consumer label
  generalize step parseUuid consumer label = next at stepped ⊢
  cases stepped with
  | idle | delivered | claimed => exact invariant
  | taken =>
    intro running isRunning
    rcases take_running isRunning with before | begun
    · exact invariant running before
    · exact begin_work_matches begun
  | fetched isRunning work | advanced isRunning work =>
    intro _ isNext
    cases isNext
    have matched := invariant _ isRunning
    unfold WorkMatches at matched ⊢
    rw [work] at matched
    exact matched
  | raised =>
    intro _ isNext
    cases isNext
    trivial
  | exhausted | republished | finished | crashed => intro running isRunning; contradiction

theorem step_replies (parseUuid : String → Option String) (consumer : Consumer) (label : Label) :
    (step parseUuid consumer label).replies = consumer.replies ∨
      ∃ running data, consumer.running = some running ∧
        (finishedReply running.work = some data ∨ ∃ error, data = exhaustedReply error) ∧
        (step parseUuid consumer label).replies =
          consumer.replies ++ [publishedReply running.message.body data] := by
  have stepped := step_stepped parseUuid consumer label
  generalize step parseUuid consumer label = next at stepped ⊢
  cases stepped with
  | exhausted isRunning =>
    exact Or.inr ⟨_, _, isRunning, Or.inr ⟨_, rfl⟩, rfl⟩
  | finished isRunning done => exact Or.inr ⟨_, _, isRunning, Or.inl done, rfl⟩
  | idle | delivered | taken | fetched | advanced | claimed | raised | republished | crashed => exact Or.inl rfl

theorem step_fetched {running : Running Work} {data : ReplyData}
    (isRunning : (step parseUuid consumer label).running = some running)
    (work : running.work = .fetched data) :
    consumer.running = some running ∨
      ∃ outcome before, label = .fetch outcome ∧ consumer.running = some before ∧
        before.work = .fetching ∧ data = fetchReply outcome := by
  have stepped := step_stepped parseUuid consumer label
  generalize step parseUuid consumer label = next at stepped isRunning
  cases stepped with
  | idle | delivered | claimed => exact Or.inl isRunning
  | taken =>
    rcases take_running isRunning with before | begun
    · exact Or.inl before
    · rw [work] at begun
      unfold beginWork beginFetch at begun
      split at begun
      · split at begun
        · cases begun
        · cases begun
      · split at begun
        · cases begun
        · contradiction
  | fetched wasRunning earlier =>
    cases isRunning
    cases work
    exact Or.inr ⟨_, _, rfl, wasRunning, earlier, rfl⟩
  | advanced | raised =>
    cases isRunning
    contradiction
  | exhausted | republished | finished | crashed => contradiction

theorem fetch_transactions_counts {fromisoformat : FromIsoformat} {maxTxPages : ℕ}
    {pages : List Page} {outcome : FetchOutcome}
    (returned : fetchTransactions fromisoformat maxTxPages pages = .ok outcome) :
    ∃ transactions skipped items errors,
      getTransactions fromisoformat maxTxPages 0 pages = .ok (transactions, skipped) ∧
        outcome = .fetched items transactions.length skipped (errors : ℕ) ∧
        items.length + errors = transactions.length := by
  unfold fetchTransactions at returned
  obtain ⟨⟨transactions, skipped⟩, got, returned⟩ := bind_eq_ok.mp returned
  cases returned
  exact ⟨transactions, skipped, _, _, got, rfl, (prepare_items_counts transactions).2⟩

end FinanceTracker.Banking.FetchReplies
