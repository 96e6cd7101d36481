import Mathlib.Data.List.Infix

/-!
# Substrings

`pattern in text` and `text.startswith(pattern)` of Python.
-/

namespace FinanceTracker.Library.Substrings

open List

/-- `pattern in text`. -/
def occursIn (pattern text : String) : Bool := decide (pattern.toList <:+: text.toList)

/-- `text.startswith(pattern)`. -/
def startsWith (text pattern : String) : Bool := decide (pattern.toList <+: text.toList)

theorem occurs_iff {pattern text : String} :
    occursIn pattern text = true ↔ pattern.toList <:+: text.toList := by
  unfold occursIn
  rw [decide_eq_true_eq]

theorem starts_iff {text pattern : String} :
    startsWith text pattern = true ↔ pattern.toList <+: text.toList := by
  unfold startsWith
  rw [decide_eq_true_eq]

section Words

variable {Letter : Type*} {letter : Letter}

theorem mem_of_mem_split {separates : Letter → Bool} {letters word : List Letter}
    (isWord : word ∈ letters.splitOnP separates) (member : letter ∈ word) : letter ∈ letters := by
  induction letters generalizing word with
  | nil =>
    rw [splitOnP_nil, mem_singleton] at isWord
    rw [isWord] at member
    cases member
  | cons head letters ih =>
    rw [splitOnP_cons_eq_if_modifyHead] at isWord
    split at isWord
    · rcases mem_cons.mp isWord with isEmpty | later
      · rw [isEmpty] at member
        cases member
      · exact mem_cons_of_mem head (ih later member)
    · cases isSplit : letters.splitOnP separates with
      | nil => exact absurd isSplit (splitOnP_ne_nil separates letters)
      | cons first =>
        rw [isSplit] at ih
        rw [isSplit, modifyHead_cons] at isWord
        rcases mem_cons.mp isWord with isFirst | later
        · rw [isFirst] at member
          rcases mem_cons.mp member with isHead | inFirst
          · rw [isHead]
            exact mem_cons_self
          · exact mem_cons_of_mem head (ih mem_cons_self inFirst)
        · exact mem_cons_of_mem head (ih (mem_cons_of_mem first later) member)

theorem mem_of_mem_join {separator : List Letter} {words : List (List Letter)}
    (member : letter ∈ separator.intercalate words) :
    letter ∈ separator ∨ ∃ word ∈ words, letter ∈ word := by
  induction words with
  | nil => cases member
  | cons word words ih =>
    by_cases isLast : words = []
    · rw [isLast, intercalate_singleton] at member
      exact Or.inr ⟨word, mem_cons_self, member⟩
    · rw [intercalate_cons_of_ne_nil isLast, append_assoc] at member
      rcases mem_append.mp member with inWord | later
      · exact Or.inr ⟨word, mem_cons_self, inWord⟩
      · rcases mem_append.mp later with inSeparator | inRest
        · exact Or.inl inSeparator
        · rcases ih inRest with inSeparator | ⟨other, isOther, inOther⟩
          · exact Or.inl inSeparator
          · exact Or.inr ⟨other, mem_cons_of_mem word isOther, inOther⟩

end Words

end FinanceTracker.Library.Substrings
