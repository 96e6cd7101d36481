import FinanceTracker.Transaction.CsvParsers

/-!
# Danish amounts

What `parse_danish_amount` reads in the Danish rendering of a whole number of øre, which
`format_amount` writes with thousands dots. The parser takes a text with both marks and one
with a comma alone; both come down to the digits around one point.
-/

namespace FinanceTracker.Transaction.DanishAmounts

open Library DecimalText Runs Texts CsvParsers List

/-- Digits from the last on, with a mark behind each third. -/
def groupBack (mark : Char) : List Char → List Char
  | first :: second :: third :: next :: rest =>
    first :: second :: third :: mark :: groupBack mark (next :: rest)
  | rest => rest

def groupThousands (mark : Char) (chars : List Char) : List Char :=
  (groupBack mark chars.reverse).reverse

def oereDigits (oere : ℕ) : List Char :=
  [Nat.digitChar (oere / 10 % 10), Nat.digitChar (oere % 10)]

/-- The rendering with two decimals, with or without thousands dots. -/
def rendering (grouped : Bool) (oere : ℤ) : List Char :=
  let whole := digits (oere.natAbs / 100)
  signText (oere < 0) ++
    ((if grouped then groupThousands '.' whole else whole) ++ ',' :: oereDigits oere.natAbs)

def IsRendering (text : String) (oere : ℤ) : Prop :=
  ∃ grouped before after, (∀ char ∈ before, isSpace char = true) ∧
    (∀ char ∈ after, isSpace char = true) ∧
    text = String.ofList (before ++ (rendering grouped oere ++ after))

/-- The digits are not more than a decimal can have. -/
def Held (oere : ℤ) : Prop := (digits oere.natAbs).length ≤ 1000000000000000002

theorem digit_no_mark {char : Char} (isDigit : char.isDigit = true) : char ≠ '.' ∧ char ≠ ',' := by
  constructor
  · intro same
    rw [same] at isDigit
    contradiction
  · intro same
    rw [same] at isDigit
    contradiction

theorem oere_digits (oere : ℕ) : Digits (oereDigits oere) := by
  have digit (value : ℕ) (small : value < 10) : (Nat.digitChar value).isDigit = true := by
    revert value
    decide
  intro char member
  rcases mem_pair.mp member with isTens | isOnes
  · rw [isTens]
    exact digit _ (Nat.mod_lt _ (by decide))
  · rw [isOnes]
    exact digit _ (Nat.mod_lt _ (by decide))

variable {mark : Char} {chars : List Char}

theorem group_back_filter (unmarked : ∀ char ∈ chars, char ≠ mark) :
    (groupBack mark chars).filter (· ≠ mark) = chars := by
  induction chars using groupBack.induct with
  | case1 first second third next rest ih =>
    have inRest := ih fun char member => unmarked char (by simp at member ⊢; tauto)
    simp only [ne_eq, decide_not] at inRest
    rw [groupBack]
    simp [unmarked first, unmarked second, unmarked third, inRest]
  | case2 rest short =>
    rw [groupBack.eq_2 _ _ short]
    exact filter_eq_self.mpr fun char member => decide_eq_true (unmarked char member)

theorem group_thousands_filter (unmarked : ∀ char ∈ chars, char ≠ mark) :
    (groupThousands mark chars).filter (· ≠ mark) = chars := by
  have back := group_back_filter fun char member => unmarked char (mem_reverse.mp member)
  rw [groupThousands, filter_reverse, back, reverse_reverse]

theorem unmarked_digits (isDigits : Digits chars) (isMark : mark = '.' ∨ mark = ',') :
    ∀ char ∈ chars, char ≠ mark := by
  intro char member
  obtain ⟨noDot, noComma⟩ := digit_no_mark (isDigits char member)
  rcases isMark with isDot | isComma
  · rw [isDot]
    exact noDot
  · rw [isComma]
    exact noComma

theorem sign_unmarked (negative : Bool) (notMinus : '-' ≠ mark) :
    ∀ char ∈ signText negative, char ≠ mark := by
  cases negative with
  | true =>
    intro char member
    rw [mem_singleton.mp member]
    exact notMinus
  | false => exact fun _ member => absurd member not_mem_nil

theorem whole_filter (grouped : Bool) (whole : ℕ) :
    (if grouped then groupThousands '.' (digits whole) else digits whole).filter (· ≠ '.') =
      digits whole := by
  have unmarked := unmarked_digits (digits_of_coefficient whole) (Or.inl rfl)
  cases grouped with
  | true => exact group_thousands_filter unmarked
  | false => exact filter_eq_self.mpr fun char member => decide_eq_true (unmarked char member)

theorem filter_unmarked (unmarked : ∀ char ∈ chars, char ≠ mark) :
    chars.filter (· ≠ mark) = chars :=
  filter_eq_self.mpr fun char member => decide_eq_true (unmarked char member)

theorem rendering_filter (grouped : Bool) (oere : ℤ) :
    (rendering grouped oere).filter (· ≠ '.') = rendering false oere := by
  have comma : (',' :: oereDigits oere.natAbs).filter (· ≠ '.') = ',' :: oereDigits oere.natAbs :=
    filter_unmarked (forall_mem_cons.mpr
      ⟨by decide, unmarked_digits (oere_digits oere.natAbs) (Or.inl rfl)⟩)
  unfold rendering
  rw [filter_append, filter_append, filter_unmarked (sign_unmarked _ (by decide)),
    whole_filter, comma]
  rfl

theorem map_unmarked {change : Char → Char} (kept : ∀ char ∈ chars, change char = char) :
    chars.map change = chars := by
  rw [map_congr_left kept, map_id']

/-- With either branch the parser is left with the digits around a point. -/
theorem danish_numeral_rendering (grouped : Bool) (oere : ℤ) :
    danishNumeral (rendering grouped oere) = signText (decide (oere < 0)) ++
      numeral (digits (oere.natAbs / 100)) (oereDigits oere.natAbs) 0 := by
  have comma : ',' ∈ rendering grouped oere := by simp [rendering]
  have filtered : danishNumeral (rendering grouped oere) =
      ((rendering grouped oere).filter (· ≠ '.')).map
        fun char => if char = ',' then '.' else char := by
    unfold danishNumeral
    by_cases dotted : '.' ∈ rendering grouped oere
    · rw [if_pos ⟨dotted, comma⟩]
    · rw [if_neg fun both => dotted both.1, if_pos comma, filter_unmarked]
      intro char member isDot
      rw [isDot] at member
      exact dotted member
  have kept (chars : List Char) (unmarked : ∀ char ∈ chars, char ≠ ',') :
      chars.map (fun char => if char = ',' then '.' else char) = chars :=
    map_unmarked fun char member => if_neg (unmarked char member)
  rw [filtered, rendering_filter]
  unfold rendering numeral
  rw [map_append, map_append, map_cons, if_pos rfl,
    kept _ (sign_unmarked _ (by decide)), kept _ (unmarked_digits (oere_digits _) (Or.inr rfl))]
  rw [if_neg Bool.false_ne_true, kept _ (unmarked_digits (digits_of_coefficient _) (Or.inr rfl))]
  simp [fractionText, exponentText, oereDigits]

theorem numeral_value (oere : ℕ) :
    Nat.ofDigitChars 10 (digits (oere / 100) ++ oereDigits oere) 0 = oere := by
  have tens := Nat.mod_lt (oere / 10) (by decide : 0 < 10)
  have ones := Nat.mod_lt oere (by decide : 0 < 10)
  rw [Nat.ofDigitChars_append, value_of_digits, oereDigits,
    Nat.ofDigitChars_cons_digitChar_of_lt_ten tens, Nat.ofDigitChars_cons_digitChar_of_lt_ten ones,
    Nat.ofDigitChars_nil]
  omega

theorem rendering_solid (grouped : Bool) (oere : ℤ) :
    ∀ char ∈ rendering grouped oere, isSpace char = false := by
  have marks : isSpace '.' = false ∧ isSpace ',' = false := by decide +kernel
  intro char member
  by_cases isDot : char = '.'
  · rw [isDot, marks.1]
  · have inPlain : char ∈ rendering false oere := by
      rw [← rendering_filter grouped]
      exact mem_filter.mpr ⟨member, decide_eq_true isDot⟩
    rcases mem_append.mp inPlain with inSign | inNumber
    · exact (sign_text_plain _ (fun _ absent => absurd absent not_mem_nil) char
        (mem_append_left [] inSign)).1
    rcases mem_append.mp inNumber with inWhole | inFraction
    · exact (digit_plain (digits_of_coefficient _ char inWhole)).1
    · rcases mem_cons.mp inFraction with isComma | inDigits
      · rw [isComma, marks.2]
      · exact (digit_plain (oere_digits _ char inDigits)).1

/-- What the parser gives for a rendering of any size. -/
theorem parse_rendering {text : String} {oere : ℤ} (isRendering : IsRendering text oere) :
    parseDanishAmount (some text) =
      if Exact oere.natAbs (-2) then .ok (.finite (oere < 0) oere.natAbs (-2))
      else .error .invalidOperation := by
  obtain ⟨grouped, before, after, left, right, rfl⟩ := isRendering
  have nonempty : rendering grouped oere ≠ [] := by simp [rendering]
  have stripped := strip_padded left (rendering_solid grouped oere) right nonempty
  have notEmpty : String.ofList (rendering grouped oere) ≠ "" := by
    intro isEmpty
    have lists := congrArg String.toList isEmpty
    rw [String.toList_ofList] at lists
    exact nonempty lists
  have wholeNonempty : digits (oere.natAbs / 100) ≠ [] := Nat.toDigits_ne_nil
  rw [parseDanishAmount, stripCell, stripped, ok_bind, if_neg notEmpty, String.toList_ofList,
    decimalText, danish_numeral_rendering, of_text_numeral _ 0 (digits_of_coefficient _)
      wholeNonempty (oere_digits _), numeral_value]
  have exponent : (0 : ℤ) - (oereDigits oere.natAbs).length = -2 := rfl
  rw [exponent]
  by_cases exact : Exact oere.natAbs (-2)
  · rw [if_pos exact, if_pos exact]
  · rw [if_neg exact, if_neg exact]

theorem exact_iff_held (oere : ℤ) : Exact oere.natAbs (-2) ↔ Held oere := by
  unfold Exact Held
  by_cases zero : oere.natAbs = 0
  · rw [zero]
    decide +kernel
  · rw [if_neg zero]
    omega

theorem oere_value (oere : ℤ) :
    (Decimal.finite (oere < 0) oere.natAbs (-2)).finiteValue = some ((oere : ℚ) / 100) := by
  have signed : (if decide (oere < 0) = true then -(oere.natAbs : ℚ) else oere.natAbs) = oere := by
    have absolute : (oere.natAbs : ℚ) = |(oere : ℚ)| := by
      rw [Nat.cast_natAbs, Int.cast_abs]
    by_cases negative : oere < 0
    · have below : (oere : ℚ) < 0 := by exact_mod_cast negative
      rw [if_pos (decide_eq_true negative), absolute, abs_of_neg below, neg_neg]
    · have above : (0 : ℚ) ≤ oere := by exact_mod_cast not_lt.mp negative
      rw [if_neg (by simpa using negative), absolute, abs_of_nonneg above]
  rw [Decimal.finiteValue, signed]
  norm_num
  ring

/-- An amount that a decimal can hold is read back exactly from each of its renderings, and
what is read from a rendering of another amount is another value. -/
theorem danish_amounts_read_back {text : String} {oere : ℤ} (isRendering : IsRendering text oere)
    (held : Held oere) :
    ∃ amount, parseDanishAmount (some text) = .ok amount ∧
      amount.finiteValue = some ((oere : ℚ) / 100) ∧
      ∀ otherText other otherAmount, IsRendering otherText other → other ≠ oere →
        parseDanishAmount (some otherText) = .ok otherAmount →
          otherAmount.finiteValue ≠ amount.finiteValue := by
  refine ⟨_, (parse_rendering isRendering).trans (if_pos ((exact_iff_held oere).mpr held)),
    oere_value oere, ?_⟩
  intro otherText other otherAmount otherRendering differ parsed
  rw [parse_rendering otherRendering] at parsed
  split at parsed
  · cases parsed
    rw [oere_value, oere_value]
    intro same
    apply differ
    have equal := Option.some.inj same
    field_simp at equal
    exact_mod_cast equal
  · cases parsed

theorem large_amount_reads_back : ∃ amount,
    parseDanishAmount (some "\t-1.234.567,05 ") = .ok amount ∧
      amount.finiteValue = some (((-123456705 : ℤ) : ℚ) / 100) := by
  have isRendering : IsRendering "\t-1.234.567,05 " (-123456705) :=
    ⟨true, ['\t'], [' '], List.forall_mem_singleton.mpr (by decide +kernel),
      List.forall_mem_singleton.mpr (by decide +kernel), by decide +kernel⟩
  have ⟨amount, parsed, value, _⟩ := danish_amounts_read_back isRendering (by unfold Held; decide +kernel)
  exact ⟨amount, parsed, value⟩

/-- More digits than a decimal can have. -/
theorem endless_amount_unread : ¬ ∀ (text : String) (oere : ℤ), IsRendering text oere →
    ∃ amount, parseDanishAmount (some text) = .ok amount ∧
      amount.finiteValue = some ((oere : ℚ) / 100) := by
  intro readsBack
  obtain ⟨size, large⟩ : ∃ size : ℕ, 1000000000000000002 ≤ size := ⟨_, le_refl _⟩
  have isRendering : IsRendering (String.ofList (rendering false (10 ^ size : ℕ))) (10 ^ size : ℕ) :=
    ⟨false, [], [], by simp, by simp, by simp⟩
  have unheld : ¬ Held (10 ^ size : ℕ) := by
    unfold Held
    rw [Int.natAbs_natCast, length_digits_le_iff (by decide), Nat.pow_lt_pow_iff_right (by decide)]
    omega
  obtain ⟨amount, parsed, _⟩ := readsBack _ _ isRendering
  rw [parse_rendering isRendering, if_neg ((exact_iff_held _).not.mpr unheld)] at parsed
  cases parsed

end FinanceTracker.Transaction.DanishAmounts
