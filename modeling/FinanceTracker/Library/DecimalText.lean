import FinanceTracker.Library.Texts
import Mathlib.Data.Rat.Defs
import Mathlib.Tactic.Linarith

/-!
# Decimal numbers as texts

Python's `Decimal` with its coefficient and exponent: reading a text, writing one,
and the two operations that round to the default context of 28 digits. The payload
and the sign of a NaN are left out. A number that the context has rounded is
unchanged by rounding it again, and the text of such a number reads back as it.
-/

namespace FinanceTracker.Library.DecimalText

open Texts List

inductive Decimal where
  | finite (negative : Bool) (coefficient : ℕ) (exponent : ℤ)
  | infinity (negative : Bool)
  | nan (signaling : Bool)
  deriving DecidableEq

/-- The signals that the default context traps. -/
inductive Signal where
  | invalidOperation
  | overflow
  deriving DecidableEq

def Decimal.finiteValue : Decimal → Option ℚ
  | .finite negative coefficient exponent =>
    some ((if negative then -(coefficient : ℚ) else coefficient) * 10 ^ exponent)
  | .infinity _ => none
  | .nan _ => none

def digits (coefficient : ℕ) : List Char := Nat.toDigits 10 coefficient

def precision : ℕ := 28
def maxExponent : ℤ := 999999
def minExponent : ℤ := -999999

/-- The exponents of the last digit of the smallest and the largest numbers. -/
def etiny : ℤ := minExponent - precision + 1
def etop : ℤ := maxExponent - precision + 1

def roundHalfEven (dividend divisor : ℕ) : ℕ :=
  let quotient := dividend / divisor
  let remainder := dividend % divisor
  if 2 * remainder < divisor then quotient
  else if divisor < 2 * remainder then quotient + 1
  else quotient + quotient % 2

/-- `_fix` for a number that is not special. -/
def fix (negative : Bool) (coefficient : ℕ) (exponent : ℤ) : Except Signal Decimal :=
  if coefficient = 0 then
    .ok (.finite negative 0 (min (max exponent etiny) maxExponent))
  else
    let lowest := (digits coefficient).length + exponent - precision
    if etop < lowest then .error .overflow
    else
      let expMin := max lowest etiny
      if exponent < expMin then
        let rounded := roundHalfEven coefficient (10 ^ (expMin - exponent).toNat)
        if precision < (digits rounded).length then
          if etop < expMin + 1 then .error .overflow
          else .ok (.finite negative (rounded / 10) (expMin + 1))
        else .ok (.finite negative rounded expMin)
      else .ok (.finite negative coefficient exponent)

/-- `abs(value)`. -/
def Decimal.abs : Decimal → Except Signal Decimal
  | .finite _ coefficient exponent => fix false coefficient exponent
  | .infinity _ => .ok (.infinity false)
  | .nan signaling => if signaling then .error .invalidOperation else .ok (.nan false)

/-- `-value`; a zero loses its sign. -/
def Decimal.neg : Decimal → Except Signal Decimal
  | .finite negative coefficient exponent =>
    fix (if coefficient = 0 then false else !negative) coefficient exponent
  | .infinity negative => .ok (.infinity !negative)
  | .nan signaling => if signaling then .error .invalidOperation else .ok (.nan false)

/-- `value >= 0`. -/
def Decimal.geZero : Decimal → Except Signal Bool
  | .finite negative coefficient _ => .ok (!negative || coefficient = 0)
  | .infinity negative => .ok !negative
  | .nan _ => .error .invalidOperation

/-- `value == 0`. -/
def Decimal.eqZero : Decimal → Except Signal Bool
  | .finite _ coefficient _ => .ok (coefficient = 0)
  | .infinity _ => .ok false
  | .nan signaling => if signaling then .error .invalidOperation else .ok false

/-- `value < 0`. -/
def Decimal.ltZero : Decimal → Except Signal Bool
  | .finite negative coefficient _ => .ok (negative && coefficient ≠ 0)
  | .infinity negative => .ok negative
  | .nan _ => .error .invalidOperation

/-- `value <= 0`. -/
def Decimal.leZero : Decimal → Except Signal Bool
  | .finite negative coefficient _ => .ok (negative || coefficient = 0)
  | .infinity negative => .ok negative
  | .nan _ => .error .invalidOperation

/-- A coefficient and an exponent that the context does not round. -/
structure Fixed (coefficient : ℕ) (exponent : ℤ) : Prop where
  short : (digits coefficient).length ≤ precision
  least : etiny ≤ exponent
  most : exponent ≤ maxExponent
  inRange : coefficient ≠ 0 → (digits coefficient).length + exponent - precision ≤ etop

variable {coefficient : ℕ} {exponent : ℤ} {negative : Bool} {value : ℚ} {magnitude : Decimal}
  {chars fraction : List Char}

theorem length_digits_le_iff {count : ℕ} (positive : 0 < count) :
    (digits coefficient).length ≤ count ↔ coefficient < 10 ^ count :=
  Nat.length_toDigits_le_iff (by decide) positive

theorem fix_of_fixed (negative : Bool) (fixed : Fixed coefficient exponent) :
    fix negative coefficient exponent = .ok (.finite negative coefficient exponent) := by
  have short := fixed.short
  have least := fixed.least
  have most := fixed.most
  unfold fix
  by_cases vanishes : coefficient = 0
  · rw [if_pos vanishes, vanishes, max_eq_left least, min_eq_left most]
  · have inRange := fixed.inRange vanishes
    rw [if_neg vanishes]
    dsimp only
    rw [if_neg (by omega), if_neg (by omega)]

theorem round_half_even_le (dividend divisor : ℕ) :
    roundHalfEven dividend divisor ≤ dividend / divisor + 1 := by
  unfold roundHalfEven
  dsimp only
  split_ifs <;> omega

/-- Dropping the digits beyond a count leaves at most the next power of ten. -/
theorem rounded_le {coefficient places count : ℕ}
    (short : (digits coefficient).length ≤ count + places) :
    roundHalfEven coefficient (10 ^ places) ≤ 10 ^ count := by
  have bound : coefficient < 10 ^ (count + places) := by
    rcases Nat.eq_zero_or_pos (count + places) with none | positive
    · have nonempty : 0 < (digits coefficient).length := Nat.length_toDigits_pos
      omega
    · exact (length_digits_le_iff positive).mp short
  have quotient : coefficient / 10 ^ places < 10 ^ count := by
    rw [Nat.div_lt_iff_lt_mul (by positivity), ← pow_add]
    exact bound
  have rounded := round_half_even_le coefficient (10 ^ places)
  omega

/-- What the context makes of a number, it keeps. -/
theorem fixed_of_fix {result : Decimal} (fixes : fix negative coefficient exponent = .ok result) :
    ∃ coefficient exponent, result = .finite negative coefficient exponent ∧
      Fixed coefficient exponent := by
  have one : (digits 0).length = 1 := rfl
  unfold fix at fixes
  split at fixes
  · cases fixes
    refine ⟨0, _, rfl, ⟨by rw [one]; decide, ?_, min_le_right _ _, by simp⟩⟩
    exact le_min (le_max_right _ _) (by decide)
  dsimp only at fixes
  split at fixes
  · contradiction
  next notOver =>
  split at fixes
  · next below =>
    have rounded := @rounded_le coefficient
      (max ((digits coefficient).length + exponent - precision) etiny - exponent).toNat
      precision (by omega)
    generalize roundHalfEven coefficient _ = kept at fixes rounded
    split at fixes
    · next long =>
      have carried : kept = 10 ^ precision := by
        have large := mt (length_digits_le_iff (show 0 < precision by decide)).mpr
          (Nat.not_le_of_lt long)
        omega
      split at fixes
      · contradiction
      · cases fixes
        have length : (digits (kept / 10)).length = precision := by
          rw [carried]
          decide +kernel
        refine ⟨_, _, rfl, ⟨?_, ?_, ?_, ?_⟩⟩
        · omega
        · omega
        · unfold etop maxExponent precision at *
          omega
        · omega
    · next short =>
      cases fixes
      refine ⟨_, _, rfl, ⟨?_, ?_, ?_, ?_⟩⟩
      · omega
      · omega
      · unfold etiny etop minExponent maxExponent precision at *
        omega
      · unfold etiny etop minExponent maxExponent precision at *
        omega
  · next above =>
    cases fixes
    refine ⟨_, _, rfl, ⟨?_, ?_, ?_, ?_⟩⟩
    · omega
    · omega
    · unfold etop maxExponent precision at *
      have nonempty : 0 < (digits coefficient).length := Nat.length_toDigits_pos
      omega
    · omega

variable {signal : Signal} {number : Decimal} {rest whole : List Char} {char : Char}

theorem fix_error (raised : fix negative coefficient exponent = .error signal) :
    signal = .overflow := by
  unfold fix at raised
  dsimp only at raised
  split_ifs at raised
  · exact (Except.error.inj raised).symm
  · exact (Except.error.inj raised).symm

/-- The magnitude of a finite number is a number unless it is too large. -/
theorem abs_error (raised : (Decimal.finite negative coefficient exponent).abs = .error signal) :
    signal = .overflow := fix_error raised

theorem finite_value_nonneg
    (isValue : (Decimal.finite false coefficient exponent).finiteValue = some value) :
    0 ≤ value := by
  have magnitude : value = (coefficient : ℚ) * 10 ^ exponent := (Option.some.inj isValue).symm
  rw [magnitude]
  exact mul_nonneg (Nat.cast_nonneg _) (zpow_nonneg (by norm_num) _)

theorem abs_value_nonneg (absolute : number.abs = .ok magnitude)
    (isValue : magnitude.finiteValue = some value) : 0 ≤ value := by
  cases number with
  | finite =>
    obtain ⟨_, _, rfl, _⟩ := fixed_of_fix absolute
    exact finite_value_nonneg isValue
  | infinity =>
    cases absolute
    cases isValue
  | nan signaling =>
    cases signaling with
    | false =>
      cases absolute
      cases isValue
    | true => cases absolute

theorem positive_nonneg (positive : number.leZero = .ok false)
    (isValue : number.finiteValue = some value) : 0 ≤ value := by
  cases number with
  | finite negative =>
    cases negative with
    | false => exact finite_value_nonneg isValue
    | true => cases positive
  | infinity | nan => cases isValue

theorem abs_of_neg_abs {value negated : Decimal} (absolute : value.abs = .ok magnitude)
    (negates : magnitude.neg = .ok negated) : negated.abs = .ok magnitude := by
  cases value with
  | finite =>
    obtain ⟨_, _, rfl, fixed⟩ := fixed_of_fix absolute
    change fix _ _ _ = _ at negates
    rw [fix_of_fixed _ fixed] at negates
    cases negates
    exact fix_of_fixed false fixed
  | infinity =>
    cases absolute
    cases negates
    rfl
  | nan signaling =>
    cases signaling with
    | false =>
      cases absolute
      cases negates
      rfl
    | true => contradiction

/-- `%+d` behind an `E`, absent for a zero. -/
def exponentText (exponent : ℤ) : List Char :=
  if exponent = 0 then []
  else 'E' :: (if exponent < 0 then '-' else '+') :: digits exponent.natAbs

def fractionText (fraction : List Char) : List Char :=
  if fraction = [] then [] else '.' :: fraction

/-- The digits around the point, and the exponent that is left. -/
def numeral (whole fraction : List Char) (exponent : ℤ) : List Char :=
  whole ++ (fractionText fraction ++ exponentText exponent)

def signText (negative : Bool) : List Char := if negative then ['-'] else []

def finiteText (coefficient : ℕ) (exponent : ℤ) : List Char :=
  let int := digits coefficient
  let leftDigits := exponent + int.length
  let dotPlace := if exponent ≤ 0 ∧ -6 < leftDigits then leftDigits else 1
  if dotPlace ≤ 0 then
    numeral ['0'] (List.replicate (-dotPlace).toNat '0' ++ int) (leftDigits - dotPlace)
  else if int.length ≤ dotPlace then
    numeral (int ++ List.replicate (dotPlace - int.length).toNat '0') [] (leftDigits - dotPlace)
  else
    numeral (int.take dotPlace.toNat) (int.drop dotPlace.toNat) (leftDigits - dotPlace)

/-- `str(value)`. -/
def Decimal.text : Decimal → String
  | .finite negative coefficient exponent =>
    String.ofList (signText negative ++ finiteText coefficient exponent)
  | .infinity negative => String.ofList (signText negative ++ "Infinity".toList)
  | .nan signaling => if signaling then "sNaN" else "NaN"

def toAscii (char : Char) : Char := ((decimalDigit char).map Nat.digitChar).getD char

def normalize (text : String) : List Char :=
  ((strip text).toList.filter (· ≠ '_')).map toAscii

def readSign : List Char → Bool × List Char
  | '-' :: rest => (true, rest)
  | '+' :: rest => (false, rest)
  | rest => (false, rest)

def readExponent : List Char → Option ℤ
  | [] => some 0
  | mark :: rest =>
    let (negative, exponent) := readSign rest
    if (mark = 'e' ∨ mark = 'E') ∧ exponent ≠ [] ∧ exponent.all Char.isDigit then
      some (if negative then -(Nat.ofDigitChars 10 exponent 0) else Nat.ofDigitChars 10 exponent 0)
    else none

def readFraction : List Char → List Char × List Char
  | '.' :: rest => (rest.takeWhile Char.isDigit, rest.dropWhile Char.isDigit)
  | rest => ([], rest)

def Exact (coefficient : ℕ) (exponent : ℤ) : Prop :=
  -1999999999999999997 ≤ exponent ∧
    (if coefficient = 0 then exponent else exponent + (digits coefficient).length - 1) ≤
      999999999999999999

instance (coefficient : ℕ) (exponent : ℤ) : Decidable (Exact coefficient exponent) :=
  inferInstanceAs (Decidable (_ ∧ _))

def readNumber (negative : Bool) (chars : List Char) : Option Decimal :=
  let whole := chars.takeWhile Char.isDigit
  let (fraction, rest) := readFraction (chars.dropWhile Char.isDigit)
  if whole ++ fraction = [] then none
  else
    (readExponent rest).bind fun exponent =>
      let coefficient := Nat.ofDigitChars 10 (whole ++ fraction) 0
      if Exact coefficient (exponent - fraction.length) then
        some (.finite negative coefficient (exponent - fraction.length))
      else none

def readSpecial (negative : Bool) (chars : List Char) : Option Decimal :=
  match chars.map Char.toLower with
  | 'n' :: 'a' :: 'n' :: payload => if payload.all Char.isDigit then some (.nan false) else none
  | 's' :: 'n' :: 'a' :: 'n' :: payload =>
    if payload.all Char.isDigit then some (.nan true) else none
  | name =>
    if name = "inf".toList ∨ name = "infinity".toList then some (.infinity negative) else none

/-- `Decimal(text)`; none where it raises `InvalidOperation`. -/
def Decimal.ofText (text : String) : Option Decimal :=
  let (negative, chars) := readSign (normalize text)
  (readNumber negative chars).or (readSpecial negative chars)

def Digits (chars : List Char) : Prop := ∀ char ∈ chars, char.isDigit = true

theorem digits_of_coefficient (coefficient : ℕ) : Digits (digits coefficient) :=
  fun _ member => Nat.isDigit_of_mem_toDigits (by decide) (by decide) member

/-- The first character of a rest is no digit. -/
def Stops (rest : List Char) : Prop := rest.head?.all (fun char => !char.isDigit) = true

theorem take_digits (isDigits : Digits chars) (stops : Stops rest) :
    (chars ++ rest).takeWhile Char.isDigit = chars := by
  rw [takeWhile_append_of_pos isDigits]
  cases rest with
  | nil => simp
  | cons => simp_all [Stops]

theorem drop_digits (isDigits : Digits chars) (stops : Stops rest) :
    (chars ++ rest).dropWhile Char.isDigit = rest := by
  rw [dropWhile_append_of_pos isDigits]
  cases rest with
  | nil => simp
  | cons => simp_all [Stops]

theorem exponent_text_stops (exponent : ℤ) : Stops (exponentText exponent) := by
  unfold exponentText
  split
  · rfl
  · rfl

theorem value_of_digits (coefficient : ℕ) :
    Nat.ofDigitChars 10 (digits coefficient) 0 = coefficient := Nat.ofDigitChars_ten_toDigits

theorem read_exponent_signed {rest exponent : List Char} {negative : Bool}
    (sign : readSign rest = (negative, exponent)) (nonempty : exponent ≠ [])
    (isDigits : Digits exponent) :
    readExponent ('E' :: rest) = some (if negative then -(Nat.ofDigitChars 10 exponent 0 : ℤ)
      else Nat.ofDigitChars 10 exponent 0) := by
  unfold readExponent
  dsimp only
  rw [sign]
  exact if_pos ⟨Or.inr rfl, nonempty, all_eq_true.mpr isDigits⟩

theorem read_exponent_text (exponent : ℤ) : readExponent (exponentText exponent) = some exponent := by
  have isDigits := digits_of_coefficient exponent.natAbs
  have nonempty : digits exponent.natAbs ≠ [] := Nat.toDigits_ne_nil
  unfold exponentText
  split
  · next vanishes =>
    rw [vanishes]
    rfl
  · split
    · next negative =>
      rw [@read_exponent_signed _ _ true rfl nonempty isDigits, value_of_digits, if_pos rfl]
      congr 1
      omega
    · next positive =>
      rw [@read_exponent_signed _ _ false rfl nonempty isDigits, value_of_digits,
        if_neg Bool.false_ne_true]
      congr 1
      omega

theorem read_fraction_text (isDigits : Digits fraction) (exponent : ℤ) :
    readFraction (fractionText fraction ++ exponentText exponent) =
      (fraction, exponentText exponent) := by
  have stops := exponent_text_stops exponent
  unfold fractionText
  split
  · next empty =>
    rw [empty, nil_append]
    unfold exponentText
    split
    · rfl
    · rfl
  · change ((fraction ++ exponentText exponent).takeWhile _,
      (fraction ++ exponentText exponent).dropWhile _) = _
    rw [take_digits isDigits stops, drop_digits isDigits stops]

theorem fraction_text_stops (fraction : List Char) (exponent : ℤ) :
    Stops (fractionText fraction ++ exponentText exponent) := by
  unfold fractionText
  split
  · exact exponent_text_stops exponent
  · rfl

theorem read_numeral_eq (negative : Bool) (exponent : ℤ) (isWhole : Digits whole)
    (nonempty : whole ≠ []) (isFraction : Digits fraction) :
    readNumber negative (numeral whole fraction exponent) =
      if Exact (Nat.ofDigitChars 10 (whole ++ fraction) 0) (exponent - fraction.length) then
        some (.finite negative (Nat.ofDigitChars 10 (whole ++ fraction) 0)
          (exponent - fraction.length))
      else none := by
  have stops := fraction_text_stops fraction exponent
  unfold readNumber numeral
  dsimp only
  rw [take_digits isWhole stops, drop_digits isWhole stops, read_fraction_text isFraction]
  dsimp only
  rw [if_neg (by simp [nonempty]), read_exponent_text]
  rfl

theorem finite_text_numeral (coefficient : ℕ) (exponent : ℤ) :
    ∃ whole fraction left, finiteText coefficient exponent = numeral whole fraction left ∧
      Digits whole ∧ whole ≠ [] ∧ Digits fraction ∧
      Nat.ofDigitChars 10 (whole ++ fraction) 0 = coefficient ∧
      left - fraction.length = exponent := by
  have isDigits := digits_of_coefficient coefficient
  have positive : 0 < (digits coefficient).length := Nat.length_toDigits_pos
  have value := value_of_digits coefficient
  unfold finiteText
  dsimp only
  generalize isPlace : (if exponent ≤ 0 ∧ -6 < exponent + ((digits coefficient).length : ℤ) then
    exponent + ((digits coefficient).length : ℤ) else 1) = dotPlace
  split
  · next before =>
    refine ⟨_, _, _, rfl, ?_, by simp, ?_, ?_, ?_⟩
    · simp [Digits]
    · intro char member
      rcases mem_append.mp member with isZero | isDigit
      · rw [eq_of_mem_replicate isZero]
        rfl
      · exact isDigits char isDigit
    · rw [Nat.ofDigitChars_append, Nat.ofDigitChars_append, Nat.ofDigitChars_replicate_zero]
      simpa [Nat.ofDigitChars_cons] using value
    · rw [length_append, length_replicate]
      split at isPlace <;> push_cast <;> omega
  · split
    · next inside whole =>
      have noZeros : dotPlace = (digits coefficient).length := by
        split at isPlace <;> omega
      refine ⟨_, _, _, rfl, ?_, ?_, ?_, ?_, ?_⟩
      · rw [noZeros]
        simpa using isDigits
      · simp [digits]
      · simp [Digits]
      · rw [noZeros]
        simpa using value
      · rw [noZeros]
        simp
    · next inside part =>
      refine ⟨_, _, _, rfl, ?_, ?_, ?_, ?_, ?_⟩
      · exact fun char member => isDigits char (mem_of_mem_take member)
      · intro empty
        have length := congrArg List.length empty
        rw [length_take, length_nil] at length
        omega
      · exact fun char member => isDigits char (mem_of_mem_drop member)
      · rw [take_append_drop]
        exact value
      · rw [length_drop]
        omega

/-- A character that `normalize` leaves alone. -/
def Plain (char : Char) : Prop := isSpace char = false ∧ char ≠ '_' ∧ toAscii char = char

instance (char : Char) : Decidable (Plain char) := inferInstanceAs (Decidable (_ ∧ _))

theorem digit_char_of_is_digit (isDigit : char.isDigit = true) :
    ∃ digit < 10, char = Nat.digitChar digit := by
  rw [Char.isDigit_iff_toNat] at isDigit
  change 48 ≤ char.toNat ∧ char.toNat ≤ 57 at isDigit
  refine ⟨char.toNat - 48, by omega, ?_⟩
  apply Char.toNat_inj.mp
  rw [Nat.toNat_digitChar_of_lt_ten (by omega)]
  omega

theorem digit_plain (isDigit : char.isDigit = true) : Plain char := by
  obtain ⟨digit, small, rfl⟩ := digit_char_of_is_digit isDigit
  have all : ∀ digit < 10, Plain (Nat.digitChar digit) := by decide +kernel
  exact all digit small

theorem normalize_plain (plain : ∀ char ∈ chars, Plain char) :
    normalize (String.ofList chars) = chars := by
  unfold normalize
  rw [strip_plain fun char member => (plain char member).1,
    filter_eq_self.mpr fun char member => by simp [(plain char member).2.1]]
  calc
    chars.map toAscii = chars.map id := map_congr_left fun char member => (plain char member).2.2
    _ = chars := map_id chars

theorem numeral_plain (isWhole : Digits whole) (isFraction : Digits fraction) (exponent : ℤ) :
    ∀ char ∈ numeral whole fraction exponent, Plain char := by
  have marks : Plain '.' ∧ Plain 'E' ∧ Plain '-' ∧ Plain '+' := by decide +kernel
  intro char member
  rcases mem_append.mp member with inWhole | member
  · exact digit_plain (isWhole char inWhole)
  rcases mem_append.mp member with inFraction | inExponent
  · unfold fractionText at inFraction
    split at inFraction
    · contradiction
    · rcases mem_cons.mp inFraction with rfl | isDigit
      · exact marks.1
      · exact digit_plain (isFraction char isDigit)
  · unfold exponentText at inExponent
    split at inExponent
    · contradiction
    · rcases mem_cons.mp inExponent with rfl | inExponent
      · exact marks.2.1
      rcases mem_cons.mp inExponent with isSign | isDigit
      · rw [isSign]
        split
        · exact marks.2.2.1
        · exact marks.2.2.2
      · exact digit_plain (digits_of_coefficient _ char isDigit)

theorem read_sign_text (negative : Bool) (unsigned : ∀ char ∈ chars.head?, char ≠ '-' ∧ char ≠ '+') :
    readSign (signText negative ++ chars) = (negative, chars) := by
  cases negative with
  | true => rfl
  | false =>
    change readSign chars = (false, chars)
    unfold readSign
    split
    · simp at unsigned
    · simp at unsigned
    · rfl

theorem sign_text_plain (negative : Bool) (plain : ∀ char ∈ chars, Plain char) :
    ∀ char ∈ signText negative ++ chars, Plain char := by
  have mark : Plain '-' := by decide +kernel
  intro char member
  rcases mem_append.mp member with isSign | inChars
  · cases negative with
    | true =>
      rw [mem_singleton.mp isSign]
      exact mark
    | false => contradiction
  · exact plain char inChars

theorem read_special_digits (negative : Bool) (isDigits : Digits chars) (nonempty : chars ≠ []) :
    readSpecial negative (chars ++ rest) = none := by
  cases chars with
  | nil => contradiction
  | cons char chars =>
    obtain ⟨digit, small, isChar⟩ := digit_char_of_is_digit (isDigits char mem_cons_self)
    have all : ∀ digit < 10, (Nat.digitChar digit).toLower ≠ 'n' ∧
        (Nat.digitChar digit).toLower ≠ 's' ∧ (Nat.digitChar digit).toLower ≠ 'i' := by decide +kernel
    obtain ⟨notN, notS, notI⟩ := all digit small
    rw [isChar]
    simp [readSpecial, notN, notS, notI]

/-- A numeral behind its sign is read where the constructor is exact. -/
theorem of_text_numeral (negative : Bool) (exponent : ℤ) (isWhole : Digits whole)
    (nonempty : whole ≠ []) (isFraction : Digits fraction) :
    Decimal.ofText (String.ofList (signText negative ++ numeral whole fraction exponent)) =
      if Exact (Nat.ofDigitChars 10 (whole ++ fraction) 0) (exponent - fraction.length) then
        some (.finite negative (Nat.ofDigitChars 10 (whole ++ fraction) 0)
          (exponent - fraction.length))
      else none := by
  have unsigned : ∀ char ∈ (numeral whole fraction exponent).head?, char ≠ '-' ∧ char ≠ '+' := by
    intro char isHead
    unfold numeral at isHead
    rw [List.head?_append_of_ne_nil _ nonempty] at isHead
    have isDigit := isWhole char (mem_of_mem_head? isHead)
    constructor
    · intro same
      rw [same] at isDigit
      contradiction
    · intro same
      rw [same] at isDigit
      contradiction
  unfold Decimal.ofText
  rw [normalize_plain (sign_text_plain negative (numeral_plain isWhole isFraction exponent)),
    read_sign_text negative unsigned]
  dsimp only
  rw [read_numeral_eq negative exponent isWhole nonempty isFraction, numeral,
    read_special_digits negative isWhole nonempty, Option.or_none]

theorem of_text_finite (negative : Bool) (exact : Exact coefficient exponent) :
    Decimal.ofText (Decimal.finite negative coefficient exponent).text =
      some (.finite negative coefficient exponent) := by
  obtain ⟨whole, fraction, left, isNumeral, isWhole, nonempty, isFraction, value, exponentIs⟩ :=
    finite_text_numeral coefficient exponent
  have isExact : Exact (Nat.ofDigitChars 10 (whole ++ fraction) 0) (left - fraction.length) := by
    rw [value, exponentIs]
    exact exact
  change Decimal.ofText (String.ofList (signText negative ++ finiteText coefficient exponent)) = _
  rw [isNumeral, of_text_numeral negative left isWhole nonempty isFraction, if_pos isExact, value,
    exponentIs]

theorem of_text_infinity (negative : Bool) :
    Decimal.ofText (Decimal.infinity negative).text = some (.infinity negative) := by
  cases negative <;> decide +kernel

theorem exact_of_fixed (fixed : Fixed coefficient exponent) : Exact coefficient exponent := by
  have least := fixed.least
  have most := fixed.most
  unfold etiny minExponent precision at least
  unfold maxExponent at most
  constructor
  · omega
  · split
    · omega
    · next nonzero =>
      have inRange := fixed.inRange nonzero
      unfold etop maxExponent precision at inRange
      omega

/-- What `abs` gives, unless it is a NaN, survives being written and read. -/
theorem of_text_abs {value : Decimal} (absolute : value.abs = .ok magnitude)
    (number : magnitude ≠ .nan false) : Decimal.ofText magnitude.text = some magnitude := by
  cases value with
  | finite =>
    obtain ⟨_, _, rfl, fixed⟩ := fixed_of_fix absolute
    exact of_text_finite false (exact_of_fixed fixed)
  | infinity =>
    cases absolute
    exact of_text_infinity false
  | nan signaling =>
    cases signaling with
    | false =>
      cases absolute
      contradiction
    | true => contradiction

end FinanceTracker.Library.DecimalText
