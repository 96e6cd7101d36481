import FinanceTracker.Library.Columns
import FinanceTracker.Transaction.Categorization

/-!
# A category choice among concurrent categorizations

Calls of `update_transaction` and deliveries to the categorized consumer work on one
row and interleave at their statements under READ COMMITTED. Each session loads the
row, changes it in memory and writes at its commit only the columns whose values it
has changed. The consumer's check of the tier is on the row it has loaded, so a choice
that commits after the load is overwritten. The ghost field `choice` is the last
committed choice of the user.
-/

namespace FinanceTracker.Transaction.ConcurrentChoice

open Library Columns Runs Shared.TransactionEvents Domain Transaction.Categorization List

/-- How far a delivery has come, with the row it has loaded. -/
inductive DeliveryPhase where
  | received
  | unprocessed
  | loaded (tx : Transaction)
  | named (tx : Transaction) (parentName : Option String)

/-- How far an update has come: the row it has found, the fields it has computed from
it, and the row it has loaded again to write them. -/
inductive UpdatePhase where
  | requested
  | found (existing : Transaction)
  | checked (existing : Transaction) (fields : UpdateFields)
  | loaded (existing : Transaction) (fields : UpdateFields) (row : Transaction)

inductive Session where
  | delivery (messageId : String) (event : CategorizedEvent) (phase : DeliveryPhase)
  | update (userId : Int) (dto : UpdateTransactionDTO) (phase : UpdatePhase)
  | ended

structure State where
  row : Transaction
  inbox : List String := []
  sessions : List Session := []
  choice : Option CategoryChoice := none

/-- `copies` are the read copies of the taxonomy that the statement sees. -/
inductive Label where
  | deliver (messageId : String) (event : CategorizedEvent)
  | requestUpdate (userId : Int) (dto : UpdateTransactionDTO)
  | proceed (index : ℕ) (copies : ReadCopies)
  | lose (index : ℕ)

def State.setSession (state : State) (index : ℕ) (session : Session) : State :=
  { state with sessions := state.sessions.set index session }

def flushRow (loaded assigned stored : Transaction) : Transaction :=
  { stored with
    accountId := writeColumn loaded.accountId assigned.accountId stored.accountId
    accountName := writeColumn loaded.accountName assigned.accountName stored.accountName
    categoryId := writeColumn loaded.categoryId assigned.categoryId stored.categoryId
    categoryName := writeColumn loaded.categoryName assigned.categoryName stored.categoryName
    amount := writeColumn loaded.amount assigned.amount stored.amount
    transactionType :=
      writeColumn loaded.transactionType assigned.transactionType stored.transactionType
    description := writeColumn loaded.description assigned.description stored.description
    date := writeColumn loaded.date assigned.date stored.date
    subcategoryId := writeColumn loaded.subcategoryId assigned.subcategoryId stored.subcategoryId
    subcategoryName :=
      writeColumn loaded.subcategoryName assigned.subcategoryName stored.subcategoryName
    categorizationTier :=
      writeColumn loaded.categorizationTier assigned.categorizationTier stored.categorizationTier
    categorizationConfidence := writeColumn loaded.categorizationConfidence
      assigned.categorizationConfidence stored.categorizationConfidence }

def isDuplicate (state : State) (messageId : String) : Bool :=
  messageId ≠ "" && state.inbox.contains messageId

def commitDelivery (state : State) (index : ℕ) (messageId : String) (tx assigned : Transaction) :
    State :=
  if !fitsColumns assigned || isDuplicate state messageId then state.setSession index .ended
  else
    { state with
      row := flushRow tx assigned state.row
      inbox := if messageId = "" then state.inbox else state.inbox ++ [messageId]
      sessions := state.sessions.set index .ended }

/-- One statement of the consumer's `handle`. -/
def proceedDelivery (state : State) (index : ℕ) (copies : ReadCopies) (messageId : String)
    (event : CategorizedEvent) : DeliveryPhase → State
  | .received =>
    if isDuplicate state messageId then state.setSession index .ended
    else state.setSession index (.delivery messageId event .unprocessed)
  | .unprocessed =>
    if state.row.deleted then state.setSession index .ended
    else state.setSession index (.delivery messageId event (.loaded state.row))
  | .loaded tx =>
    state.setSession index (.delivery messageId event (.named tx (parentName copies event)))
  | .named tx parentName =>
    commitDelivery state index messageId tx (applyCategorization tx event parentName)

/-- The row as a query of its owner sees it. -/
def visibleRow (state : State) (userId : Int) : Option Transaction :=
  if state.row.userId ≠ userId || state.row.deleted then none else some state.row

/-- The choice that an update makes on the row it has found. -/
def chosen (existing : Transaction) (fields : UpdateFields) : CategoryChoice where
  categoryId := fields.categoryId.getD existing.categoryId
  subcategoryId := fields.subcategoryId.getD existing.subcategoryId
  tier := fields.categorizationTier.getD existing.categorizationTier

/-- The flush of the changed columns and the commit; a correction is a choice. -/
def commitUpdate (state : State) (index : ℕ) (dto : UpdateTransactionDTO)
    (existing : Transaction) (fields : UpdateFields) (loaded : Transaction) : State :=
  match writeFields loaded fields with
  | .error _ => state.setSession index .ended
  | .ok assigned =>
    { state with
      row := flushRow loaded assigned state.row
      sessions := state.sessions.set index .ended
      choice := if isCategoryCorrection dto then some (chosen existing fields) else state.choice }

/-- One statement of `update_transaction`. -/
def proceedUpdate (state : State) (index : ℕ) (copies : ReadCopies) (userId : Int)
    (dto : UpdateTransactionDTO) : UpdatePhase → State
  | .requested =>
    match visibleRow state userId with
    | none => state.setSession index .ended
    | some existing =>
      if dto.isEmpty then state.setSession index .ended
      else state.setSession index (.update userId dto (.found existing))
  | .found existing =>
    match checkSubcategory copies existing (pinCategory copies existing dto) with
    | .error _ => state.setSession index .ended
    | .ok fields => state.setSession index (.update userId dto (.checked existing fields))
  | .checked existing fields =>
    match visibleRow state userId with
    | none => state.setSession index .ended
    | some row => state.setSession index (.update userId dto (.loaded existing fields row))
  | .loaded existing fields row => commitUpdate state index dto existing fields row

def step (state : State) : Label → State
  | .deliver messageId event =>
    { state with sessions := state.sessions ++ [.delivery messageId event .received] }
  | .requestUpdate userId dto =>
    { state with sessions := state.sessions ++ [.update userId dto .requested] }
  | .proceed index copies =>
    match state.sessions[index]? with
    | some (.delivery messageId event phase) =>
      proceedDelivery state index copies messageId event phase
    | some (.update userId dto phase) => proceedUpdate state index copies userId dto phase
    | some .ended => state
    | none => state
  | .lose index => state.setSession index .ended

def start (row : Transaction) (inbox : List String) : State := { row := row, inbox := inbox }

variable {existing stored : Transaction} {fields : UpdateFields} {copies : ReadCopies}
  {dto : UpdateTransactionDTO} {Value : Type} {loaded : Value} {assigned : Transaction}

/-- A column that the commit of a choice writes, or that holds the chosen value already. -/
def KeepsColumn {Value : Type} (loaded assigned stored wanted : Value) : Prop :=
  assigned ≠ loaded ∨ stored = wanted

/-- The commit of a correction writes its choice or finds it on the row. -/
def ChoiceWritten (stored existing : Transaction) (fields : UpdateFields) (loaded : Transaction) :
    Prop :=
  KeepsColumn loaded.categoryId (fields.categoryId.getD loaded.categoryId) stored.categoryId
      (chosen existing fields).categoryId ∧
    KeepsColumn loaded.subcategoryId (fields.subcategoryId.getD loaded.subcategoryId)
      stored.subcategoryId (chosen existing fields).subcategoryId ∧
    KeepsColumn loaded.categorizationTier (fields.categorizationTier.getD loaded.categorizationTier)
      stored.categorizationTier (chosen existing fields).tier

def LeavesColumn {Value : Type} (loaded assigned stored : Value) : Prop :=
  assigned = loaded ∨ assigned = stored

/-- The commit of a categorization changes none of the three columns. -/
def ChoiceLeft (stored loaded : Transaction) (event : CategorizedEvent) : Prop :=
  loaded.categorizationTier = some "manual" ∨
    LeavesColumn loaded.categoryId (some event.categoryId) stored.categoryId ∧
      LeavesColumn loaded.subcategoryId (some event.subcategoryId) stored.subcategoryId ∧
        LeavesColumn loaded.categorizationTier (some event.tier) stored.categorizationTier

/-- Where a correction commits, each of its three columns is written or holds the chosen
value; where a categorization commits after a choice, it changes none of them. -/
def KeepsChoice (state : State) (label : Label) : Prop :=
  match label with
  | .proceed index _ =>
    match state.sessions[index]? with
    | some (.delivery messageId event (.named tx parentName)) =>
      fitsColumns (applyCategorization tx event parentName) = true →
        isDuplicate state messageId = false → state.choice.isSome = true →
          ChoiceLeft state.row tx event
    | some (.update _ dto (.loaded existing fields loaded)) =>
      (writeFields loaded fields).isOk = true → isCategoryCorrection dto = true →
        ChoiceWritten state.row existing fields loaded
    | _ => True
  | _ => True

instance {Value : Type} [DecidableEq Value] (loaded assigned stored wanted : Value) :
    Decidable (KeepsColumn loaded assigned stored wanted) :=
  inferInstanceAs (Decidable (assigned ≠ loaded ∨ stored = wanted))

instance {Value : Type} [DecidableEq Value] (loaded assigned stored : Value) :
    Decidable (LeavesColumn loaded assigned stored) :=
  inferInstanceAs (Decidable (assigned = loaded ∨ assigned = stored))

instance (stored existing : Transaction) (fields : UpdateFields) (loaded : Transaction) :
    Decidable (ChoiceWritten stored existing fields loaded) :=
  inferInstanceAs (Decidable (_ ∧ _ ∧ _))

instance (stored loaded : Transaction) (event : CategorizedEvent) :
    Decidable (ChoiceLeft stored loaded event) :=
  inferInstanceAs (Decidable (_ ∨ _ ∧ _ ∧ _))

instance (state : State) (label : Label) : Decidable (KeepsChoice state label) :=
  match label with
  | .proceed index _ => by
    unfold KeepsChoice
    dsimp only
    split <;> infer_instance
  | .deliver _ _ => isTrue trivial
  | .requestUpdate _ _ => isTrue trivial
  | .lose _ => isTrue trivial

def Session.isEnded : Session → Bool
  | .ended => true
  | _ => false

/-- Once the user has committed a choice, the row has it. -/
def ChoiceSurvives (state : State) : Prop :=
  ∀ choice, state.choice = some choice → rowChoice state.row = choice

theorem keeps_column_written [DecidableEq Value] {field : Option Value} {existing stored : Value}
    (keeps : KeepsColumn loaded (field.getD loaded) stored (field.getD existing)) :
    writeColumn loaded (field.getD loaded) stored = field.getD existing := by
  unfold writeColumn
  split_ifs with same
  · rcases keeps with changed | holds
    · exact absurd same changed
    · exact holds
  · cases field with
    | none => exact absurd rfl same
    | some => rfl

theorem leaves_column_stored [DecidableEq Value] {assigned stored : Value}
    (leaves : LeavesColumn loaded assigned stored) :
    writeColumn loaded assigned stored = stored := by
  unfold writeColumn
  split_ifs with same
  · rfl
  · rcases leaves with unchanged | holds
    · exact absurd unchanged same
    · exact holds

theorem choice_written {loaded : Transaction} (wrote : writeFields loaded fields = .ok assigned)
    (written : ChoiceWritten stored existing fields loaded) :
    rowChoice (flushRow loaded assigned stored) = chosen existing fields := by
  obtain ⟨_, _, _, _, _, rfl⟩ := write_fields_ok wrote
  obtain ⟨category, subcategory, tier⟩ := written
  simp only [rowChoice, flushRow, chosen, CategoryChoice.mk.injEq]
  exact ⟨keeps_column_written category, keeps_column_written subcategory, keeps_column_written tier⟩

theorem choice_left {tx : Transaction} {event : CategorizedEvent} {parentName : Option String}
    (left : ChoiceLeft stored tx event) :
    rowChoice (flushRow tx (applyCategorization tx event parentName) stored) =
      rowChoice stored := by
  by_cases pinned : tx.categorizationTier = some "manual"
  · rw [apply_categorization_manual event parentName pinned]
    simp only [rowChoice, flushRow, write_column_unchanged]
  · rcases left with manual | ⟨category, subcategory, tier⟩
    · exact absurd manual pinned
    · have assigned := apply_categorization_choice event parentName pinned
      simp only [rowChoice, CategoryChoice.mk.injEq] at assigned
      obtain ⟨isCategory, isSubcategory, isTier⟩ := assigned
      simp only [rowChoice, flushRow, isCategory, isSubcategory, isTier,
        leaves_column_stored category, leaves_column_stored subcategory,
        leaves_column_stored tier]

def LeavesChoice (dto : UpdateTransactionDTO) (fields : UpdateFields) : Prop :=
  isCategoryCorrection dto = false →
    fields.categoryId = none ∧ fields.subcategoryId = none ∧ fields.categorizationTier = none

theorem checked_fields_leave
    (checked : checkSubcategory copies existing (pinCategory copies existing dto) = .ok fields) :
    LeavesChoice dto fields := by
  intro plain
  have pinned : pinCategory copies existing dto = { toUpdateTransactionDTO := dto } := by
    simp [pinCategory, plain]
  simp only [isCategoryCorrection, Bool.or_eq_false_iff, Option.isSome_eq_false_iff,
    Option.isNone_iff_eq_none] at plain
  rw [pinned] at checked
  unfold checkSubcategory at checked
  dsimp only at checked
  rw [plain.2] at checked
  cases checked
  exact ⟨plain.1.1, plain.2, rfl⟩

theorem choice_not_written {loaded : Transaction} (wrote : writeFields loaded fields = .ok assigned)
    (leaves : fields.categoryId = none ∧ fields.subcategoryId = none ∧
      fields.categorizationTier = none) :
    rowChoice (flushRow loaded assigned stored) = rowChoice stored := by
  obtain ⟨_, _, _, _, _, rfl⟩ := write_fields_ok wrote
  obtain ⟨category, subcategory, tier⟩ := leaves
  simp only [rowChoice, flushRow, category, subcategory, tier, Option.getD_none,
    write_column_unchanged]

def FieldsOfRequest : Session → Prop
  | .update _ dto (.checked _ fields) => LeavesChoice dto fields
  | .update _ dto (.loaded _ fields _) => LeavesChoice dto fields
  | _ => True

structure ChoiceInv (state : State) : Prop where
  fields : ∀ session ∈ state.sessions, FieldsOfRequest session
  survives : ChoiceSurvives state

section Steps

variable {state : State} {session : Session} {messageId : String} {event : CategorizedEvent}
  {userId : Int} {dto : UpdateTransactionDTO} {index : ℕ} {copies : ReadCopies}

theorem fields_set (inv : ChoiceInv state) (index : ℕ) (ofRequest : FieldsOfRequest session) :
    ∀ other ∈ state.sessions.set index session, FieldsOfRequest other := by
  intro other member
  rcases mem_or_eq_of_mem_set member with old | rfl
  · exact inv.fields other old
  · exact ofRequest

theorem set_session_keeps_inv (inv : ChoiceInv state) (index : ℕ)
    (ofRequest : FieldsOfRequest session) : ChoiceInv (state.setSession index session) where
  fields := fields_set inv index ofRequest
  survives := inv.survives

theorem added_session_keeps_inv (inv : ChoiceInv state) (ofRequest : FieldsOfRequest session) :
    ChoiceInv { state with sessions := state.sessions ++ [session] } where
  fields := by
    refine forall_snoc inv.fields ?_
    exact ofRequest
  survives := inv.survives

theorem delivery_commit_keeps_inv (inv : ChoiceInv state) (index : ℕ) {tx : Transaction}
    {parentName : Option String}
    (left : fitsColumns (applyCategorization tx event parentName) = true →
      isDuplicate state messageId = false → state.choice.isSome = true →
        ChoiceLeft state.row tx event) :
    ChoiceInv
      (commitDelivery state index messageId tx (applyCategorization tx event parentName)) := by
  unfold commitDelivery
  split
  · exact set_session_keeps_inv inv index trivial
  · next refused =>
    simp only [Bool.or_eq_true, Bool.not_eq_true', not_or, Bool.not_eq_false,
      Bool.not_eq_true] at refused
    constructor
    · exact fields_set inv index trivial
    · intro choice isChoice
      dsimp only at isChoice ⊢
      have chosen : state.choice = some choice := isChoice
      rw [choice_left (left refused.1 refused.2 (by rw [chosen]; rfl))]
      exact inv.survives choice chosen

theorem update_commit_keeps_inv (inv : ChoiceInv state) (index : ℕ) {existing loaded : Transaction}
    {fields : UpdateFields}
    (here : state.sessions[index]? = some (.update userId dto (.loaded existing fields loaded)))
    (written : (writeFields loaded fields).isOk = true → isCategoryCorrection dto = true →
      ChoiceWritten state.row existing fields loaded) :
    ChoiceInv (commitUpdate state index dto existing fields loaded) := by
  have leaves : LeavesChoice dto fields := inv.fields _ (mem_of_getElem? here)
  unfold commitUpdate
  cases wrote : writeFields loaded fields with
  | error => exact set_session_keeps_inv inv index trivial
  | ok =>
    constructor
    · exact fields_set inv index trivial
    · intro choice isChoice
      dsimp only at isChoice ⊢
      split_ifs at isChoice with correction
      · cases isChoice
        exact choice_written wrote (written (by rw [wrote]; rfl) correction)
      · rw [choice_not_written wrote (leaves (Bool.eq_false_iff.mpr correction))]
        exact inv.survives choice isChoice

theorem delivery_keeps_inv (inv : ChoiceInv state) {phase : DeliveryPhase}
    (here : state.sessions[index]? = some (.delivery messageId event phase))
    (keeps : KeepsChoice state (.proceed index copies)) :
    ChoiceInv (proceedDelivery state index copies messageId event phase) := by
  cases phase with
  | received | unprocessed =>
    dsimp only [proceedDelivery]
    split
    · exact set_session_keeps_inv inv index trivial
    · exact set_session_keeps_inv inv index trivial
  | loaded => exact set_session_keeps_inv inv index trivial
  | named =>
    simp only [KeepsChoice, here] at keeps
    exact delivery_commit_keeps_inv inv index keeps

theorem update_keeps_inv (inv : ChoiceInv state) {phase : UpdatePhase}
    (here : state.sessions[index]? = some (.update userId dto phase))
    (keeps : KeepsChoice state (.proceed index copies)) :
    ChoiceInv (proceedUpdate state index copies userId dto phase) := by
  have ofRequest := inv.fields _ (mem_of_getElem? here)
  cases phase with
  | requested =>
    dsimp only [proceedUpdate]
    split
    · exact set_session_keeps_inv inv index trivial
    · split
      · exact set_session_keeps_inv inv index trivial
      · exact set_session_keeps_inv inv index trivial
  | found =>
    dsimp only [proceedUpdate]
    split
    · exact set_session_keeps_inv inv index trivial
    · next fields checked => exact set_session_keeps_inv inv index (checked_fields_leave checked)
  | checked =>
    dsimp only [proceedUpdate]
    split
    · exact set_session_keeps_inv inv index trivial
    · exact set_session_keeps_inv inv index ofRequest
  | loaded =>
    simp only [KeepsChoice, here] at keeps
    exact update_commit_keeps_inv inv index here keeps

theorem step_keeps_inv {label : Label} (keeps : KeepsChoice state label) (inv : ChoiceInv state) :
    ChoiceInv (step state label) := by
  cases label with
  | deliver | requestUpdate => exact added_session_keeps_inv inv trivial
  | proceed index =>
    dsimp only [step]
    cases here : state.sessions[index]? with
    | none => exact inv
    | some session =>
      cases session with
      | delivery => exact delivery_keeps_inv inv here keeps
      | update => exact update_keeps_inv inv here keeps
      | ended => exact inv
  | lose index => exact set_session_keeps_inv inv index trivial

end Steps

def noCopies : ReadCopies where
  categoryName := fun _ => none
  subcategory := fun _ => none

def importedRow : Transaction where
  id := 1
  userId := 1
  accountId := 1
  accountName := "Lønkonto"
  amount := 12550
  transactionType := .expense
  description := some "NETTO"
  date := ⟨2026, 6, 3, by decide⟩

/-- The pipeline puts the row into category 5 while its owner chooses category 3. -/
def bothSides : List Label :=
  [.deliver "m1" { categoryId := 5, subcategoryId := 12, tier := "rule", timestamp := 0 },
    .requestUpdate 1 { categoryId := some (some 3) }]

def proceeds (index statements : ℕ) : List Label :=
  List.replicate statements (.proceed index noCopies)

/-- The choice commits before the consumer loads the row, and the message comes again. -/
def choiceFirst : List Label :=
  bothSides ++ proceeds 1 3 ++ proceeds 0 1 ++ proceeds 1 1 ++ proceeds 0 3 ++
    [.deliver "m1" { categoryId := 5, subcategoryId := 12, tier := "rule", timestamp := 0 }] ++
    proceeds 2 4

/-- The choice commits after the consumer has loaded the row. -/
def choiceBetween : List Label := bothSides ++ proceeds 0 3 ++ proceeds 1 4 ++ proceeds 0 1

end FinanceTracker.Transaction.ConcurrentChoice
