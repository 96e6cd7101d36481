import FinanceTracker.Library.Json
import FinanceTracker.Library.Texts

/-!
# The texts of integers

`str` of an integer, its decimal digits, and `int` that reads the text back.
-/

namespace FinanceTracker.Library.IntText

open Json List
open Texts (byteDigit decimalDigit digitGroups intOfText isByteSpace isIntSpace)

def signedDigits (value : ℤ) : List Char :=
  if value < 0 then '-' :: Nat.toDigits 10 value.natAbs else Nat.toDigits 10 value.natAbs

/-- `str(value)`. -/
def intText (value : ℤ) : String := String.ofList (signedDigits value)

theorem digit_char_ascii : ∀ digit < 10, isAsciiDigit (Nat.digitChar digit) = true := by decide

theorem digits_ascii (value : ℕ) : ∀ char ∈ Nat.toDigits 10 value, isAsciiDigit char = true := by
  induction value using Nat.strong_induction_on with
  | _ value ih =>
    rw [Nat.toDigits_eq_if (by decide)]
    split
    · next small =>
      intro _ member
      rw [mem_singleton.mp member]
      exact digit_char_ascii value small
    · next large =>
      refine forall_mem_append.mpr ⟨ih (value / 10) (by omega), ?_⟩
      intro char last
      rw [mem_singleton.mp last]
      exact digit_char_ascii _ (Nat.mod_lt _ (by decide))

theorem digit_char_value : ∀ digit < 10, (Nat.digitChar digit).toNat - '0'.toNat = digit := by
  decide

theorem numeral_digits (value : ℕ) : numeral (Nat.toDigits 10 value) = value := by
  induction value using Nat.strong_induction_on with
  | _ value ih =>
    rw [Nat.toDigits_eq_if (by decide)]
    split
    · next small =>
      have read := digit_char_value value small
      simp only [numeral, foldl_cons, foldl_nil]
      omega
    · next large =>
      have front := ih (value / 10) (by omega)
      have last := digit_char_value (value % 10) (Nat.mod_lt _ (by decide))
      unfold numeral at front ⊢
      rw [foldl_append, front]
      simp only [foldl_cons, foldl_nil]
      omega

theorem digit_char_positive : ∀ digit < 10, 0 < digit → Nat.digitChar digit ≠ '0' := by decide

variable {value : ℕ} {char : Char} {chars : List Char}

theorem digits_head (positive : 0 < value) :
    ∃ head tail, Nat.toDigits 10 value = head :: tail ∧ head ≠ '0' := by
  induction value using Nat.strong_induction_on with
  | _ value ih =>
    rw [Nat.toDigits_eq_if (by decide)]
    split
    · next small =>
      exact ⟨Nat.digitChar value, [], rfl, digit_char_positive value small positive⟩
    · next large =>
      obtain ⟨head, tail, front, notZero⟩ := ih (value / 10) (by omega) (by omega)
      exact ⟨head, tail ++ [Nat.digitChar (value % 10)], by rw [front]; rfl, notZero⟩

theorem digit_bounds (digit : isAsciiDigit char = true) :
    0x30 ≤ char.toNat ∧ char.toNat ≤ 0x39 := by
  simp only [isAsciiDigit, Bool.and_eq_true, decide_eq_true_eq] at digit
  exact digit

theorem decimal_digit_ascii (digit : isAsciiDigit char = true) :
    decimalDigit char = some (char.toNat - '0'.toNat) := by
  obtain ⟨least, most⟩ := digit_bounds digit
  have first : (decide (0x30 ≤ char.toNat) && decide (char.toNat ≤ 0x30 + 9)) = true := by
    simp only [Bool.and_eq_true, decide_eq_true_eq]
    exact ⟨least, most⟩
  have zeros : Texts.decimalZeros = 0x30 :: Texts.decimalZeros.tail := rfl
  unfold decimalDigit
  rw [zeros, List.find?_cons, first]
  rfl

theorem digit_no_space (digit : isAsciiDigit char = true) : isIntSpace char = false := by
  obtain ⟨_, _⟩ := digit_bounds digit
  simp [isIntSpace, isByteSpace, Texts.inRanges]
  omega

theorem digit_no_underscore (digit : isAsciiDigit char = true) : char ≠ '_' := by
  rintro rfl
  exact absurd digit (by decide)

/-- A reader of integers that takes the ASCII digits as they are. -/
structure ReadsAscii (space : Char → Bool) (digit : Char → Option ℕ) : Prop where
  solid : ∀ char, isAsciiDigit char = true → space char = false
  minus : space '-' = false
  value : ∀ char, isAsciiDigit char = true → digit char = some (char.toNat - '0'.toNat)

theorem text_reads : ReadsAscii isIntSpace decimalDigit :=
  ⟨fun _ => digit_no_space, by decide, fun _ => decimal_digit_ascii⟩

theorem bytes_read : ReadsAscii isByteSpace byteDigit where
  solid _ digit := (Bool.or_eq_false_iff.mp (digit_no_space digit)).1
  minus := by decide
  value char digit := by
    obtain ⟨least, most⟩ := digit_bounds digit
    simp [byteDigit, Texts.inRanges, least, most]

variable {space : Char → Bool} {digit : Char → Option ℕ}

theorem digit_groups_digits (reads : ReadsAscii space digit)
    (digits : ∀ char ∈ chars, isAsciiDigit char = true) (present : chars ≠ []) :
    digitGroups digit chars = some (chars.map fun char => char.toNat - '0'.toNat) := by
  induction chars with
  | nil => exact absurd rfl present
  | cons char chars ih =>
    have here := reads.value char (digits char mem_cons_self)
    have later : ∀ other ∈ chars, isAsciiDigit other = true :=
      fun other member => digits other (mem_cons_of_mem _ member)
    cases chars with
    | nil => simp [digitGroups, here]
    | cons next =>
      have rest := ih later (cons_ne_nil _ _)
      rw [digitGroups, here, rest]
      · rfl
      · rintro same
        contradiction
      · rintro after same
        exact digit_no_underscore (later next mem_cons_self) (List.cons.inj same).1

theorem magnitude_digits (reads : ReadsAscii space digit) (value : ℕ) :
    Texts.magnitude digit (Nat.toDigits 10 value) =
      if Texts.maxStrDigits < (Nat.toDigits 10 value).length then none else some value := by
  have read := digit_groups_digits reads (digits_ascii value) Nat.toDigits_ne_nil
  have folded := numeral_digits value
  unfold numeral at folded
  unfold Texts.magnitude
  rw [read, Option.bind_some, length_map, foldl_map, folded]

theorem no_space_trim (solid : ∀ char ∈ chars, space char = false) :
    (chars.dropWhile space).rdropWhile space = chars := by
  have front : chars.dropWhile space = chars := by
    rw [dropWhile_eq_self_iff]
    intro nonempty
    simp [solid _ (getElem_mem nonempty)]
  rw [front, rdropWhile_eq_self_iff]
  intro nonempty
  simp [solid _ (getLast_mem nonempty)]

/-- The digits of an integer are read back, if there are not too many of them. -/
theorem read_signed_digits (reads : ReadsAscii space digit) (value : ℤ) :
    Texts.readInteger space digit (signedDigits value) =
      if Texts.maxStrDigits < (Nat.toDigits 10 value.natAbs).length then none else some value := by
  have digits := digits_ascii value.natAbs
  have solid : ∀ char ∈ signedDigits value, space char = false := by
    unfold signedDigits
    split
    · exact forall_mem_cons.mpr ⟨reads.minus, fun char member => reads.solid char (digits char member)⟩
    · exact fun char member => reads.solid char (digits char member)
  have read := magnitude_digits reads value.natAbs
  unfold Texts.readInteger
  rw [no_space_trim solid]
  unfold signedDigits
  by_cases negative : value < 0
  · have magnitude : -(value.natAbs : ℤ) = value := by omega
    rw [if_pos negative]
    simp only
    rw [read]
    split
    · rfl
    · exact congrArg some magnitude
  · have magnitude : Int.ofNat value.natAbs = value := by
      rw [Int.ofNat_eq_natCast]
      omega
    have unsigned : ∀ sign rest, isAsciiDigit sign = false →
        Nat.toDigits 10 value.natAbs ≠ sign :: rest := by
      intro sign _ noDigit same
      have digit := digits sign (by rw [same]; exact mem_cons_self)
      exact absurd (digit.symm.trans noDigit) (by decide)
    rw [if_neg negative]
    split
    · next rest same => exact absurd same (unsigned '-' rest rfl)
    · next rest same => exact absurd same (unsigned '+' rest rfl)
    · rw [read, apply_ite (Option.map Int.ofNat), Option.map_some, Option.map_none, magnitude]

theorem int_of_int_text {value : ℤ}
    (short : (Nat.toDigits 10 value.natAbs).length ≤ Texts.maxStrDigits) :
    intOfText (intText value) = some value := by
  unfold intOfText intText
  rw [String.toList_ofList, read_signed_digits text_reads, if_neg (Nat.not_lt.mpr short)]

theorem int_text_injective {first second : ℤ}
    (shortFirst : (Nat.toDigits 10 first.natAbs).length ≤ Texts.maxStrDigits)
    (shortSecond : (Nat.toDigits 10 second.natAbs).length ≤ Texts.maxStrDigits)
    (same : intText first = intText second) : first = second := by
  have read := int_of_int_text shortFirst
  rw [same, int_of_int_text shortSecond] at read
  exact (Option.some.inj read).symm

end FinanceTracker.Library.IntText
