import FinanceTracker.Library.Sessions
import FinanceTracker.Notifications.Consumer

/-!
# Every event notifies once

A key belongs to the session that has inserted it until its e-mail is sent, and nobody
inserts it again. A delivery is acknowledged behind a row of its key, or because there
is nobody to notify of anything.
-/

namespace FinanceTracker.Notifications.NotifiedOnce

open Library Json KeyedRows Runs Sessions Messaging.Callbacks Messaging.ConsumerBase Domain Service
  Consumer List

/-- The delivery is a message with this event. -/
def Carries (validate : ModelValidate) (session : Session) (event : Event) : Prop :=
  ∃ payload, loads session.delivery.body = some (.obj payload) ∧
    parseEvent validate payload session.drawnId = .ok event

/-- The event is not suppressed, and account-service has not answered that its account
does not exist. -/
def Notifies (session : Session) (event : Event) : Prop :=
  event.isSuppressed = false ∧
    ∀ accountId, event.accountId = some accountId → session.asked ≠ some (accountId, .notFound)

def HasRow (rows : List Notification) (sourceKey : String) : Prop :=
  ∃ row ∈ rows, row.sourceKey = sourceKey

/-- Every event of the delivery that is to be notified has a row. -/
def Answered (validate : ModelValidate) (rows : List Notification) (session : Session) : Prop :=
  ∀ event, Carries validate session event → Notifies session event → HasRow rows event.sourceKey

structure OncePerKey (validate : ModelValidate) (state : State) : Prop where
  rows : ∀ sourceKey, (state.rows.filter fun row => row.sourceKey = sourceKey).length ≤ 1
  emails : ∀ sourceKey, (state.emails.filter fun email => email.sourceKey = sourceKey).length ≤ 1
  acknowledged : ∀ session ∈ state.acknowledged, Answered validate state.rows session

def insertedKey (session : Session) : Option String := session.phase.insertedKey

/-- The e-mail of the row is still to be sent. -/
def mailKey (session : Session) : Option String :=
  match session.phase with
  | .committed notification => some notification.sourceKey
  | _ => none

def claimedKey (session : Session) : Option String := (insertedKey session).or (mailKey session)

structure KeyInv (state : State) : Prop where
  rows : DistinctKeys Notification.sourceKey state.rows
  emails : DistinctKeys Email.sourceKey state.emails
  mailed : ∀ email ∈ state.emails, HasRow state.rows email.sourceKey
  inserted : ∀ index key, Claims insertedKey state.sessions index key → ¬ HasRow state.rows key
  stored : ∀ index key, Claims mailKey state.sessions index key → HasRow state.rows key
  unmailed : ∀ index key, Claims mailKey state.sessions index key →
    ∀ email ∈ state.emails, email.sourceKey ≠ key
  exclusive : Exclusive claimedKey state.sessions

theorem source_key_exists_iff {rows : List Notification} {sourceKey : String} :
    sourceKeyExists rows sourceKey = true ↔ HasRow rows sourceKey := by
  simp [sourceKeyExists, HasRow]

theorem has_row_append {rows : List Notification} {row : Notification} {key : String} :
    HasRow (rows ++ [row]) key ↔ HasRow rows key ∨ row.sourceKey = key := by
  simp [HasRow, or_and_right, exists_or]

theorem claimed_of_inserted {session : Session} {key : String}
    (inserts : insertedKey session = some key) : claimedKey session = some key := by
  simp [claimedKey, inserts]

theorem claimed_of_mail {session : Session} {key : String} (mails : mailKey session = some key) :
    claimedKey session = some key := by
  unfold mailKey at mails
  split at mails
  · next notification here => simp
  [claimedKey, insertedKey, Phase.insertedKey, mailKey, here, mails]
  · cases mails

/-- What the move of one session does: it claims no key afterwards, takes a free one, or
goes on with its own; it writes the row or sends the e-mail of the key it has claimed. -/
inductive Move (state : State) (session next : Session) :
    List Notification → List Email → Prop where
  | idles (idle : claimedKey next = none) : Move state session next state.rows state.emails
  | inserts (notification : Notification) (after : next.phase = .inserted notification)
      (free : isLocked state notification.sourceKey = false)
      (absent : ¬ HasRow state.rows notification.sourceKey) :
      Move state session next state.rows state.emails
  | commits (notification : Notification) (here : session.phase = .inserted notification)
      (after : claimedKey next = none ∨ next.phase = .committed notification) :
      Move state session next (state.rows ++ [notification]) state.emails
  | mails (notification : Notification) (here : session.phase = .committed notification)
      (idle : claimedKey next = none) :
      Move state session next state.rows (state.emails ++ [emailOf notification])

section Moves

variable {state after : State} {index : ℕ} {session next : Session} {rows : List Notification}
  {emails : List Email} {notification : Notification} {key : String} {other : ℕ}

theorem free_key (invariant : KeyInv state) (free : isLocked state key = false)
    (absent : ¬ HasRow state.rows key) (other : ℕ) :
    ¬ Claims claimedKey state.sessions other key := by
  intro ⟨found, got, claims⟩
  cases inserts : insertedKey found with
  | some =>
    rw [claimed_of_inserted inserts] at claims
    cases claims
    exact any_eq_false.mp free found (mem_of_getElem? got)
      (decide_eq_true inserts)
  | none =>
    have mails : mailKey found = some key := by simpa [claimedKey, inserts] using claims
    exact absent (invariant.stored other key ⟨found, got, mails⟩)

theorem other_key (invariant : KeyInv state) (here : state.sessions[index]? = some session)
    {otherKey : String} (claims : claimedKey session = some key) (elsewhere : other ≠ index)
    (claimsThere : Claims claimedKey state.sessions other otherKey) :
    otherKey ≠ key := by
  rintro rfl
  exact elsewhere (invariant.exclusive other index otherKey claimsThere ⟨session, here, claims⟩)

theorem inserted_claimed (claims : Claims insertedKey state.sessions other key) :
    Claims claimedKey state.sessions other key := by
  obtain ⟨found, got, inserts⟩ := claims
  exact ⟨found, got, claimed_of_inserted inserts⟩

theorem mail_claimed (claims : Claims mailKey state.sessions other key) :
    Claims claimedKey state.sessions other key := by
  obtain ⟨found, got, mails⟩ := claims
  exact ⟨found, got, claimed_of_mail mails⟩

theorem idle_inserts (idle : claimedKey next = none) : insertedKey next = none := by
  cases inserts : insertedKey next with
  | none => rfl
  | some =>
    rw [claimed_of_inserted inserts] at idle
    cases idle

theorem idle_mails (idle : claimedKey next = none) : mailKey next = none := by
  cases mails : mailKey next with
  | none => rfl
  | some =>
    rw [claimed_of_mail mails] at idle
    cases idle

theorem claims_elsewhere {Key : Type} {claim : Session → Option Key} {key : Key}
    (idle : claim next = none) (claims : Claims claim (state.sessions.set index next) other key) :
    other ≠ index ∧ Claims claim state.sessions other key := by
  rcases claims_set claims with ⟨_, claimed⟩ | elsewhere
  · rw [idle] at claimed
    cases claimed
  · exact elsewhere

theorem exclusive_idle (invariant : KeyInv state) (idle : claimedKey next = none) :
    Exclusive claimedKey (state.sessions.set index next) := by
  apply exclusive_set invariant.exclusive
  intro _ claimed
  rw [idle] at claimed
  cases claimed

theorem idles_inv (invariant : KeyInv state) (idle : claimedKey next = none) :
    KeyInv { state with sessions := state.sessions.set index next } where
  rows := invariant.rows
  emails := invariant.emails
  mailed := invariant.mailed
  inserted := fun other key claims =>
    invariant.inserted other key (claims_elsewhere (idle_inserts idle) claims).2
  stored := fun other key claims =>
    invariant.stored other key (claims_elsewhere (idle_mails idle) claims).2
  unmailed := fun other key claims =>
    invariant.unmailed other key (claims_elsewhere (idle_mails idle) claims).2
  exclusive := exclusive_idle invariant idle

theorem inserts_inv (invariant : KeyInv state) (after : next.phase = .inserted notification)
    (free : isLocked state notification.sourceKey = false)
    (absent : ¬ HasRow state.rows notification.sourceKey) :
    KeyInv { state with sessions := state.sessions.set index next } := by
  have inserts : insertedKey next = some notification.sourceKey := by
    simp [insertedKey, after, Phase.insertedKey]
  have mailsNot : mailKey next = none := by simp [mailKey, after]
  exact {
    rows := invariant.rows
    emails := invariant.emails
    mailed := invariant.mailed
    inserted := by
      intro other key claims
      rcases claims_set claims with ⟨_, claimed⟩ | ⟨_, before⟩
      · rw [inserts] at claimed
        cases claimed
        exact absent
      · exact invariant.inserted other key before
    stored := fun other key claims =>
      invariant.stored other key (claims_elsewhere mailsNot claims).2
    unmailed := fun other key claims =>
      invariant.unmailed other key (claims_elsewhere mailsNot claims).2
    exclusive := by
      apply exclusive_set invariant.exclusive
      intro _ claimed
      rw [claimed_of_inserted inserts] at claimed
      cases claimed
      exact Or.inr (free_key invariant free absent) }

theorem row_new (invariant : KeyInv state) (here : state.sessions[index]? = some session)
    (inserted : session.phase = .inserted notification) :
    claimedKey session = some notification.sourceKey ∧
      ¬ HasRow state.rows notification.sourceKey := by
  have inserts : insertedKey session = some notification.sourceKey := by
    simp [insertedKey, inserted, Phase.insertedKey]
  exact ⟨claimed_of_inserted inserts, invariant.inserted index _ ⟨session, here, inserts⟩⟩

theorem row_inserted_distinct (invariant : KeyInv state)
    (new : ¬ HasRow state.rows notification.sourceKey) :
    DistinctKeys Notification.sourceKey (state.rows ++ [notification]) := by
  apply append_distinct invariant.rows
  intro stored member same
  exact new ⟨stored, member, same⟩

theorem others_stay_new (invariant : KeyInv state) (here : state.sessions[index]? = some session)
    (claimed : claimedKey session = some notification.sourceKey) (elsewhere : other ≠ index)
    (claims : Claims insertedKey state.sessions other key) :
    ¬ HasRow (state.rows ++ [notification]) key := by
  intro has
  rcases has_row_append.mp has with before | same
  · exact invariant.inserted other key claims before
  · exact other_key invariant here claimed elsewhere (inserted_claimed claims) same.symm

theorem ends_committed_inv (invariant : KeyInv state)
    (here : state.sessions[index]? = some session)
    (inserted : session.phase = .inserted notification) (idle : claimedKey next = none) :
    KeyInv
      { state with
        rows := state.rows ++ [notification]
        sessions := state.sessions.set index next } := by
  obtain ⟨claimed, new⟩ := row_new invariant here inserted
  exact {
    rows := row_inserted_distinct invariant new
    emails := invariant.emails
    mailed := fun email member => has_row_append.mpr (Or.inl (invariant.mailed email member))
    inserted := by
      intro _ _ claims
      obtain ⟨elsewhere, before⟩ := claims_elsewhere (idle_inserts idle) claims
      exact others_stay_new invariant here claimed elsewhere before
    stored := fun other key claims =>
      has_row_append.mpr
        (Or.inl (invariant.stored other key (claims_elsewhere (idle_mails idle) claims).2))
    unmailed := fun other key claims =>
      invariant.unmailed other key (claims_elsewhere (idle_mails idle) claims).2
    exclusive := exclusive_idle invariant idle }

theorem commits_inv (invariant : KeyInv state) (here : state.sessions[index]? = some session)
    (inserted : session.phase = .inserted notification)
    (after : next.phase = .committed notification) :
    KeyInv
      { state with
        rows := state.rows ++ [notification]
        sessions := state.sessions.set index next } := by
  obtain ⟨claimed, new⟩ := row_new invariant here inserted
  have mails : mailKey next = some notification.sourceKey := by simp [mailKey, after]
  have insertsNot : insertedKey next = none := by
    simp [insertedKey, after, Phase.insertedKey]
  exact {
    rows := row_inserted_distinct invariant new
    emails := invariant.emails
    mailed := fun email member => has_row_append.mpr (Or.inl (invariant.mailed email member))
    inserted := by
      intro _ _ claims
      obtain ⟨elsewhere, before⟩ := claims_elsewhere insertsNot claims
      exact others_stay_new invariant here claimed elsewhere before
    stored := by
      intro other key claims
      rcases claims_set claims with ⟨_, mine⟩ | ⟨_, before⟩
      · rw [mails] at mine
        cases mine
        exact has_row_append.mpr (Or.inr rfl)
      · exact has_row_append.mpr (Or.inl (invariant.stored other key before))
    unmailed := by
      intro other key claims email member
      rcases claims_set claims with ⟨_, mine⟩ | ⟨_, before⟩
      · rw [mails] at mine
        cases mine
        intro same
        exact new (same ▸ invariant.mailed email member)
      · exact invariant.unmailed other key before email member
    exclusive := by
      apply exclusive_set invariant.exclusive
      intro _ mine
      rw [claimed_of_mail mails] at mine
      cases mine
      exact Or.inl ⟨session, here, claimed⟩ }

theorem mails_inv (invariant : KeyInv state) (here : state.sessions[index]? = some session)
    (committed : session.phase = .committed notification) (idle : claimedKey next = none) :
    KeyInv
      { state with
        emails := state.emails ++ [emailOf notification]
        sessions := state.sessions.set index next } := by
  have mails : mailKey session = some notification.sourceKey := by simp [mailKey, committed]
  exact {
    rows := invariant.rows
    emails := append_distinct invariant.emails
      (invariant.unmailed index notification.sourceKey ⟨session, here, mails⟩)
    mailed := by
      refine forall_snoc invariant.mailed ?_
      exact invariant.stored index notification.sourceKey ⟨session, here, mails⟩
    inserted := fun other key claims =>
      invariant.inserted other key (claims_elsewhere (idle_inserts idle) claims).2
    stored := fun other key claims =>
      invariant.stored other key (claims_elsewhere (idle_mails idle) claims).2
    unmailed := by
      intro other key claims email member
      obtain ⟨elsewhere, before⟩ := claims_elsewhere (idle_mails idle) claims
      rcases mem_snoc.mp member with old | rfl
      · exact invariant.unmailed other key before email old
      · exact (other_key invariant here (claimed_of_mail mails) elsewhere
          (mail_claimed before)).symm
    exclusive := exclusive_idle invariant idle }

theorem move_keys (invariant : KeyInv state) (here : state.sessions[index]? = some session)
    (move : Move state session next rows emails) :
    KeyInv
      { state with
        rows := rows
        emails := emails
        sessions := state.sessions.set index next } := by
  cases move with
  | idles idle => exact idles_inv invariant idle
  | inserts notification after free absent => exact inserts_inv invariant after free absent
  | commits notification inserted after =>
    rcases after with idle | after
    · exact ends_committed_inv invariant here inserted idle
    · exact commits_inv invariant here inserted after
  | mails notification committed idle => exact mails_inv invariant here committed idle

theorem move_keeps_rows (move : Move state session next rows emails) (has : HasRow state.rows key) :
    HasRow rows key := by
  cases move with
  | idles | inserts | mails => exact has
  | commits => exact has_row_append.mpr (Or.inl has)

end Moves

section Reasons

variable {validate : ModelValidate} {state : State} {session : Session}

theorem carries_unique {first second : Event} (isFirst : Carries validate session first)
    (isSecond : Carries validate session second) : first = second := by
  obtain ⟨_, read, parsed⟩ := isFirst
  obtain ⟨_, read', parsed'⟩ := isSecond
  rw [read] at read'
  cases read'
  rw [parsed] at parsed'
  exact Except.ok.inj parsed'

def CarriesKey (validate : ModelValidate) (session : Session) (sourceKey : String) : Prop :=
  ∃ event, Carries validate session event ∧ sourceKey = event.sourceKey

/-- What a session knows of its delivery in a phase. -/
def Explained (validate : ModelValidate) (rows : List Notification) (session : Session) : Prop :=
  match session.phase with
  | .resolving accountId request =>
    ∃ event, Carries validate session event ∧ request.sourceKey = event.sourceKey ∧
      event.accountId = some accountId
  | .checking notification => CarriesKey validate session notification.sourceKey
  | .absent notification => CarriesKey validate session notification.sourceKey
  | .inserted notification => CarriesKey validate session notification.sourceKey
  | .committed notification => CarriesKey validate session notification.sourceKey
  | .handled (.ok ()) => Answered validate rows session
  | _ => True

theorem answered_of_row {rows : List Notification} {key : String}
    (carries : CarriesKey validate session key) (has : HasRow rows key) :
    Answered validate rows session := by
  obtain ⟨_, carried, rfl⟩ := carries
  intro _ carriesOther _
  rw [carries_unique carriesOther carried]
  exact has

theorem answered_grows {rows rowsAfter : List Notification}
    (keeps : ∀ key, HasRow rows key → HasRow rowsAfter key)
    (answered : Answered validate rows session) : Answered validate rowsAfter session :=
  fun event carries notifies => keeps event.sourceKey (answered event carries notifies)

theorem explained_grows {rows rowsAfter : List Notification}
    (keeps : ∀ key, HasRow rows key → HasRow rowsAfter key)
    (explained : Explained validate rows session) : Explained validate rowsAfter session := by
  revert explained
  unfold Explained
  split
  · exact id
  · exact id
  · exact id
  · exact id
  · exact id
  · exact answered_grows keeps
  · exact id

theorem plan_carries {drawnId : String} {next : Plan}
    (planned : plan validate session.delivery.body drawnId = .ok next) :
    ∃ event, Carries validate { session with drawnId := drawnId } event ∧ Planned event next := by
  unfold plan at planned
  split at planned
  · next payload read =>
    obtain ⟨event, parsed, handled⟩ := bind_eq_ok.mp planned
    exact ⟨event, ⟨payload, read, parsed⟩, event_planned handled⟩
  · cases planned

theorem planned_explained (rows : List Notification) (session : Session) (drawnId : String) :
    Explained validate rows
      { session with
        drawnId := drawnId
        phase := planned (plan validate session.delivery.body drawnId) } := by
  cases result : plan validate session.delivery.body drawnId with
  | error => trivial
  | ok =>
    obtain ⟨event, carries, isPlan⟩ := plan_carries result
    cases isPlan with
    | ignored suppressed =>
      intro _ carriesOther notifies
      rw [carries_unique carriesOther carries] at notifies
      rw [notifies.1] at suppressed
      cases suppressed
    | create userId request key => exact ⟨event, carries, key⟩
    | resolve accountId request key account => exact ⟨event, carries, key, account⟩

theorem resolved_explained {rows : List Notification} {accountId : Int} {request : Request}
    {event : Event} (carries : Carries validate session event)
    (key : request.sourceKey = event.sourceKey) (account : event.accountId = some accountId)
    (answer : OwnerAnswer) :
    Explained validate rows
      { session with
        asked := some (accountId, answer)
        phase := resolved request answer } := by
  cases answer with
  | owner => exact ⟨event, carries, key⟩
  | notFound =>
    intro _ carriesOther notifies
    rw [carries_unique carriesOther carries] at notifies
    exact absurd rfl (notifies.2 accountId account)
  | failed => trivial

end Reasons

structure Inv (validate : ModelValidate) (state : State) : Prop where
  keys : KeyInv state
  explained : ∀ session ∈ state.sessions, Explained validate state.rows session
  acknowledged : ∀ session ∈ state.acknowledged, Answered validate state.rows session

section Steps

variable {validate : ModelValidate} {state : State} {index : ℕ} {session next : Session}
  {rows : List Notification} {emails : List Email}

theorem move_inv (invariant : Inv validate state) (here : state.sessions[index]? = some session)
    (move : Move state session next rows emails) (explained : Explained validate rows next)
    {acknowledged : List Session}
    (acks : acknowledged = state.acknowledged ∨
      (acknowledged = state.acknowledged ++ [session] ∧ Answered validate rows session))
    (queue deadLettered : List Delivery) :
    Inv validate
      { rows := rows
        emails := emails
        queue := queue
        sessions := state.sessions.set index next
        acknowledged := acknowledged
        deadLettered := deadLettered } := by
  have keeps : ∀ key, HasRow state.rows key → HasRow rows key := fun _ => move_keeps_rows move
  have keys := move_keys invariant.keys here move
  exact {
    keys := ⟨keys.rows, keys.emails, keys.mailed, keys.inserted, keys.stored, keys.unmailed,
      keys.exclusive⟩
    explained := by
      intro found member
      rcases mem_set_cases member with rfl | before
      · exact explained
      · exact explained_grows keeps (invariant.explained found before)
    acknowledged := by
      intro found member
      rcases acks with same | ⟨more, answered⟩
      · rw [same] at member
        exact answered_grows keeps (invariant.acknowledged found member)
      · rw [more] at member
        rcases mem_snoc.mp member with before | rfl
        · exact answered_grows keeps (invariant.acknowledged found before)
        · exact answered }

theorem work_of_handled (payload : JsonObject) (outcome : Outcome) :
    work notificationConsumer payload outcome = outcome.handled := by
  unfold work
  cases handled : outcome.handled with
  | error | ok => rfl

/-- The callback acks without a copy only what `handle` has returned from. -/
theorem acked_handled {delivery : Delivery} {result : Except Failure Unit} {published : Bool}

    (acked : fateAfter notificationConsumer.leadsBack delivery (onMessage notificationConsumer delivery
      { handled := result, published := published }) = .acked) : result = .ok () := by
  cases result with
  | ok => rfl
  | error failure =>
    exfalso
    unfold onMessage at acked
    split at acked
    · rw [work_of_handled] at acked
      cases failure with
      | poison => cases acked
      | other =>
        dsimp only at acked
        unfold retry at acked
        split at acked
        · cases acked
        · split at acked
          · split at acked
            · simp
            [fateAfter, isSettlement, republish, broughtBack, Consumer.leadsBack] at acked
            · cases acked
          · cases acked
    · cases acked

theorem settle_inv (invariant : Inv validate state) (here : state.sessions[index]? = some session)
    {result : Except Failure Unit} (handled : session.phase = .handled result) (published : Bool) :
    Inv validate (settle state index session result published) := by
  have explained := invariant.explained session (mem_of_getElem? here)
  unfold settle
  dsimp only
  split
  · refine move_inv invariant here (.idles rfl) ?_ (Or.inl rfl) _ _
    trivial
  · next acked =>
    have returned := acked_handled acked
    have answered : Answered validate state.rows session := by
      simpa [Explained, handled, returned] using explained
    refine move_inv invariant here (.idles rfl) ?_ (Or.inr ⟨rfl, answered⟩) _ _
    trivial
  · refine move_inv invariant here (.idles rfl) ?_ (Or.inl rfl) _ _
    trivial
  · refine move_inv invariant here (.idles rfl) ?_ (Or.inl rfl) _ _
    trivial

theorem planned_idle (session : Session) (drawnId : String) (result : Except Failure Plan) :
    claimedKey { session with drawnId := drawnId, phase := planned result } = none := by
  cases result with
  | error => rfl
  | ok next => cases next <;> rfl

theorem resolved_idle (session : Session) (asked : Option (Int × OwnerAnswer)) (request : Request)
    (answer : OwnerAnswer) :
    claimedKey { session with asked := asked, phase := resolved request answer } = none := by
  cases answer <;> rfl

theorem insert_row_inv (invariant : Inv validate state)
    (here : state.sessions[index]? = some session)
    {notification : Notification} (absent : session.phase = .absent notification) :
    Inv validate (state.setSession index (session.at (insertRow state notification))) := by
  have carries : CarriesKey validate session notification.sourceKey := by
    simpa [Explained, absent] using invariant.explained session (mem_of_getElem? here)
  unfold insertRow
  split
  · refine move_inv invariant here (.idles rfl) ?_ (Or.inl rfl) _ _
    exact carries
  · next free =>
    split
    · next stored =>
      refine move_inv invariant here (.idles rfl) ?_ (Or.inl rfl) _ _
      exact answered_of_row carries (source_key_exists_iff.mp stored)
    · next new =>
      split
      · have absent : ¬ HasRow state.rows notification.sourceKey :=
          fun has => new (source_key_exists_iff.mpr has)
        have move : Move state session (session.at (.inserted notification)) state.rows
            state.emails := .inserts notification rfl (eq_false_of_ne_true free) absent
        exact move_inv invariant here move carries (Or.inl rfl) _ _
      · refine move_inv invariant here (.idles rfl) ?_ (Or.inl rfl) _ _
        trivial

theorem check_inv (invariant : Inv validate state) (here : state.sessions[index]? = some session)
    {notification : Notification} (checking : session.phase = .checking notification) :
    Inv validate (state.setSession index (session.at
      (if sourceKeyExists state.rows notification.sourceKey then .handled (.ok ())
      else .absent notification))) := by
  have carries : CarriesKey validate session notification.sourceKey := by
    simpa [Explained, checking] using invariant.explained session (mem_of_getElem? here)
  split
  · next stored =>
    refine move_inv invariant here (.idles rfl) ?_ (Or.inl rfl) _ _
    exact answered_of_row carries (source_key_exists_iff.mp stored)
  · refine move_inv invariant here (.idles rfl) ?_ (Or.inl rfl) _ _
    exact carries

theorem mail_inv (invariant : Inv validate state) (here : state.sessions[index]? = some session)
    {notification : Notification} (committed : session.phase = .committed notification)
    (sent : Bool) :
    Inv validate
      ({ state with
        emails := if sent then state.emails ++ [emailOf notification] else state.emails }.setSession
          index (session.at (.handled (.ok ())))) := by
  have carries : CarriesKey validate session notification.sourceKey := by
    simpa [Explained, committed] using invariant.explained session (mem_of_getElem? here)
  have stored : HasRow state.rows notification.sourceKey :=
    invariant.keys.stored index _ ⟨session, here, by simp [mailKey, committed]⟩
  have answered := answered_of_row carries stored
  cases sent with
  | true => refine move_inv invariant here (.mails notification committed rfl) ?_ (Or.inl rfl) _ _
            exact answered
  | false => refine move_inv invariant here (.idles rfl) ?_ (Or.inl rfl) _ _
             exact answered

theorem advance_inv (invariant : Inv validate state) (here : state.sessions[index]? = some session)
    (choice : Choice) : Inv validate (advance validate state index choice session) := by
  have explained := invariant.explained session (mem_of_getElem? here)
  unfold advance
  split
  · refine move_inv invariant here (.idles (planned_idle _ _ _)) ?_ (Or.inl rfl) _ _
    exact planned_explained state.rows session choice.drawnId
  · next accountId request resolving =>
    obtain ⟨event, carries, key, account⟩ :
        ∃ event, Carries validate session event ∧ request.sourceKey = event.sourceKey ∧
          event.accountId = some accountId := by
      simpa [Explained, resolving] using explained
    refine move_inv invariant here (.idles (resolved_idle _ _ _ _)) ?_ (Or.inl rfl) _ _
    exact resolved_explained carries key account choice.owner
  · next notification checking => exact check_inv invariant here checking
  · next notification absent => exact insert_row_inv invariant here absent
  · next notification inserted =>
    have carries : CarriesKey validate session notification.sourceKey := by
      simpa [Explained, inserted] using explained
    have move : Move state session (session.at (.committed notification))
        (state.rows ++ [notification]) state.emails :=
      .commits notification inserted (Or.inr rfl)
    exact move_inv invariant here move carries (Or.inl rfl) _ _
  · next notification committed => exact mail_inv invariant here committed choice.emailSent
  · next result handled => exact settle_inv invariant here handled choice.published
  · exact invariant
  · exact invariant

theorem ends_move (committed : Bool) (idle : claimedKey next = none) :
    Move state session next (rowsAfter state session committed) state.emails := by
  unfold rowsAfter
  split
  · next notification inserted =>
    split
    · exact .commits notification inserted (Or.inl idle)
    · exact .idles idle
  · exact .idles idle

theorem fail_inv (invariant : Inv validate state) (here : state.sessions[index]? = some session)
    (committed : Bool) : Inv validate (fail state index committed session) := by
  unfold fail
  split
  · refine move_inv invariant here (ends_move committed rfl) ?_ (Or.inl rfl) _ _
    trivial
  · exact invariant

theorem crash_inv (invariant : Inv validate state) (here : state.sessions[index]? = some session)
    (committed : Bool) : Inv validate (crash state index committed session) := by
  unfold crash
  split
  · exact invariant
  · refine move_inv invariant here (ends_move committed rfl) ?_ (Or.inl rfl) _ _
    trivial

theorem take_inv (invariant : Inv validate state) (queue : List Delivery) (delivery : Delivery) :
    Inv validate
      { state with
        queue := queue
        sessions := state.sessions ++ [{ delivery := delivery }] } where
  keys :=
    { rows := invariant.keys.rows
      emails := invariant.keys.emails
      mailed := invariant.keys.mailed
      inserted := fun index key claims =>
        invariant.keys.inserted index key (claims_append rfl claims)
      stored := fun index key claims => invariant.keys.stored index key (claims_append rfl claims)
      unmailed := fun index key claims =>
        invariant.keys.unmailed index key (claims_append rfl claims)
      exclusive := exclusive_append invariant.keys.exclusive rfl }
  explained := by
    refine forall_snoc invariant.explained ?_
    trivial
  acknowledged := invariant.acknowledged

end Steps

theorem step_inv (validate : ModelValidate) (state : State) (label : Label)
    (invariant : Inv validate state) : Inv validate (step validate state label) := by
  cases label with
  | publish =>
    exact ⟨⟨invariant.keys.rows, invariant.keys.emails, invariant.keys.mailed,
      invariant.keys.inserted, invariant.keys.stored, invariant.keys.unmailed,
      invariant.keys.exclusive⟩, invariant.explained, invariant.acknowledged⟩
  | take =>
    unfold step
    dsimp only
    split
    · exact invariant
    · exact take_inv invariant _ _
  | advance index choice =>
    unfold step onSession
    dsimp only
    split
    · exact invariant
    · next session here => exact advance_inv invariant here choice
  | fail index committed =>
    unfold step onSession
    dsimp only
    split
    · exact invariant
    · next session here => exact fail_inv invariant here committed
  | crash index committed =>
    unfold step onSession
    dsimp only
    split
    · exact invariant
    · next session here => exact crash_inv invariant here committed

theorem start_inv (validate : ModelValidate) : Inv validate {} where
  keys :=
    { rows := nodup_nil
      emails := nodup_nil
      mailed := fun email member => by cases member
      inserted := fun index key ⟨session, got, _⟩ => by cases got
      stored := fun index key ⟨session, got, _⟩ => by cases got
      unmailed := fun index key ⟨session, got, _⟩ => by cases got
      exclusive := exclusive_nil }
  explained := fun session member => by cases member
  acknowledged := fun session member => by cases member

/-- In every run each e-mail has a notification row of its own. -/
theorem mailed_keys_stored (validate : ModelValidate) (labels : List Label) :
    let state := runFrom (step validate) {} labels
    (state.emails.map Email.sourceKey).Subperm (state.rows.map Notification.sourceKey) := by
  have invariant := run_keeps (step validate) (step_inv validate) (start_inv validate) labels
  refine List.Nodup.subperm invariant.keys.emails fun key member => ?_
  obtain ⟨email, sent, rfl⟩ := mem_map.mp member
  obtain ⟨row, stored, same⟩ := invariant.keys.mailed email sent
  exact mem_map.mpr ⟨row, stored, same⟩

theorem inv_once_per_key {validate : ModelValidate} {state : State}
    (invariant : Inv validate state) : OncePerKey validate state where
  rows := by
    intro _
    apply (filter_at_most_one_iff invariant.keys.rows _).mpr
    intro _ _ _ _ firstKey secondKey
    exact (of_decide_eq_true firstKey).trans (of_decide_eq_true secondKey).symm
  emails := by
    intro _
    apply (filter_at_most_one_iff invariant.keys.emails _).mpr
    intro _ _ _ _ firstKey secondKey
    exact (of_decide_eq_true firstKey).trans (of_decide_eq_true secondKey).symm
  acknowledged := invariant.acknowledged

/-- In every run there is at most one row and one e-mail for a key, every acknowledged
delivery of an event to be notified has left a row of its key, and the reached goals of
an edit and of an allocation have one key. -/
theorem events_notified_once (validate : ModelValidate) (labels : List Label) :
    OncePerKey validate (runFrom (step validate) {} labels) ∧
      ∀ (edit : GoalUpdatedEvent) (allocation : GoalReachedEvent), edit.goalId = allocation.goalId →
          (Event.goalUpdated edit).sourceKey = (Event.goalReached allocation).sourceKey := by
  constructor
  · apply inv_once_per_key
    exact run_keeps (step validate) (step_inv validate) (start_inv validate) labels
  · intro _ _ sameGoal
    exact congrArg goalReachedKey sameGoal

end FinanceTracker.Notifications.NotifiedOnce
