import Mathlib.Data.List.Basic

/-!
# Sessions that move one at a time

A list of sessions, each known by its place in it. A step replaces one session or adds
one. What a session claims is read off the session; claims are exclusive when no two
places claim one key, which a step keeps when the session that moves claims what it
claimed before or what nobody does.
-/

namespace FinanceTracker.Library.Sessions

section Places

variable {Session : Type*} {sessions : List Session} {index other : ℕ} {next found : Session}

theorem get_set_cases (got : (sessions.set index next)[other]? = some found) :
    (other = index ∧ found = next) ∨ (other ≠ index ∧ sessions[other]? = some found) := by
  by_cases same : other = index
  · rw [same, List.getElem?_set_self'] at got
    obtain ⟨_, _, isNext⟩ := Option.map_eq_some_iff.mp got
    exact Or.inl ⟨same, isNext.symm⟩
  · rw [List.getElem?_set_ne (Ne.symm same)] at got
    exact Or.inr ⟨same, got⟩

theorem mem_set_cases (member : found ∈ sessions.set index next) :
    found = next ∨ found ∈ sessions :=
  (List.mem_or_eq_of_mem_set member).symm

theorem get_append_cases (got : (sessions ++ [next])[other]? = some found) :
    sessions[other]? = some found ∨ found = next := by
  by_cases before : other < sessions.length
  · rw [List.getElem?_append_left before] at got
    exact Or.inl got
  · rw [List.getElem?_append_right (Nat.le_of_not_lt before)] at got
    exact Or.inr (List.mem_singleton.mp (List.mem_of_getElem? got))

/-- What no other place passes, none of them passes. -/
theorem no_other {test : ℕ → Bool}
    (free : ((List.range sessions.length).any fun other => other ≠ index && test other) = false)
    (got : sessions[other]? = some found) (apart : other ≠ index) : test other = false := by
  have inRange : other ∈ List.range sessions.length :=
    List.mem_range.mpr (List.getElem?_eq_some_iff.mp got).1
  simpa [apart] using List.any_eq_false.mp free other inRange

end Places

section Claims

variable {Session Key : Type*} (claim : Session → Option Key)

def Claims (sessions : List Session) (index : ℕ) (key : Key) : Prop :=
  ∃ session, sessions[index]? = some session ∧ claim session = some key

def Exclusive (sessions : List Session) : Prop :=
  ∀ first second key, Claims claim sessions first key → Claims claim sessions second key →
    first = second

variable {claim} {sessions : List Session} {index other : ℕ} {next : Session} {key : Key}

theorem exclusive_nil : Exclusive claim [] := by
  intro first second key ⟨session, got, _⟩
  cases got

theorem no_other_claims [DecidableEq Key]
    (free : ((List.range sessions.length).any fun other =>
      other ≠ index && sessions[other]?.bind claim = some key) = false)
    (own : ¬ Claims claim sessions index key) (other : ℕ) :
    ¬ Claims claim sessions other key := by
  rintro ⟨found, got, claimed⟩
  by_cases same : other = index
  · subst same
    exact own ⟨found, got, claimed⟩
  · have apart := no_other free got same
    simp [got, claimed] at apart

theorem claims_set (claims : Claims claim (sessions.set index next) other key) :
    (other = index ∧ claim next = some key) ∨
      (other ≠ index ∧ Claims claim sessions other key) := by
  obtain ⟨session, got, claimed⟩ := claims
  rcases get_set_cases got with ⟨here, rfl⟩ | ⟨elsewhere, before⟩
  · exact Or.inl ⟨here, claimed⟩
  · exact Or.inr ⟨elsewhere, session, before, claimed⟩

theorem exclusive_set (exclusive : Exclusive claim sessions)
    (new : ∀ key, claim next = some key →
      Claims claim sessions index key ∨ ∀ other, ¬ Claims claim sessions other key) :
    Exclusive claim (sessions.set index next) := by
  have alone : ∀ other key, claim next = some key → Claims claim sessions other key →
      other = index := by
    intro other key claimed claims
    rcases new key claimed with mine | free
    · exact exclusive other index key claims mine
    · exact absurd claims (free other)
  intro first second key firstClaims secondClaims
  rcases claims_set firstClaims with ⟨rfl, claimed⟩ | ⟨_, firstBefore⟩
  · rcases claims_set secondClaims with ⟨rfl, _⟩ | ⟨elsewhere, secondBefore⟩
    · rfl
    · exact absurd (alone second key claimed secondBefore) elsewhere
  · rcases claims_set secondClaims with ⟨rfl, claimed⟩ | ⟨_, secondBefore⟩
    · exact alone first key claimed firstBefore
    · exact exclusive first second key firstBefore secondBefore

theorem claims_append (idle : claim next = none)
    (claims : Claims claim (sessions ++ [next]) index key) : Claims claim sessions index key := by
  obtain ⟨session, got, claimed⟩ := claims
  rcases get_append_cases got with before | rfl
  · exact ⟨session, before, claimed⟩
  · rw [idle] at claimed
    cases claimed

theorem exclusive_append (exclusive : Exclusive claim sessions) (idle : claim next = none) :
    Exclusive claim (sessions ++ [next]) :=
  fun first second key firstClaims secondClaims =>
    exclusive first second key (claims_append idle firstClaims) (claims_append idle secondClaims)

end Claims

end FinanceTracker.Library.Sessions
