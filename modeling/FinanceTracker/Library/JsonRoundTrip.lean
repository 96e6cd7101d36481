import FinanceTracker.Library.JsonText

/-!
# JSON texts that are read back

What `json.dumps` writes of a value without floats, `json.loads` reads as the same
value with its keys sorted.
-/

namespace FinanceTracker.Library.JsonRoundTrip

open IntText Json JsonText List KeyedRows SortedBy

mutual

/-- No float, and the keys of every object are distinct. -/
def Plain : JsonValue → Prop
  | .float _ => False
  | .arr items => PlainItems items
  | .obj entries => (entries.map Prod.fst).Nodup ∧ PlainEntries entries
  | _ => True

def PlainItems : List JsonValue → Prop
  | [] => True
  | item :: items => Plain item ∧ PlainItems items

def PlainEntries : JsonObject → Prop
  | [] => True
  | (_, value) :: entries => Plain value ∧ PlainEntries entries

end

theorem plain_items_iff {items : List JsonValue} : PlainItems items ↔ ∀ item ∈ items, Plain item := by
  induction items with
  | nil => simp [PlainItems]
  | cons item items ih => simp [PlainItems, ih]

theorem plain_entries_iff {entries : JsonObject} :
    PlainEntries entries ↔ ∀ entry ∈ entries, Plain entry.2 := by
  induction entries with
  | nil => simp [PlainEntries]
  | cons entry entries ih => simp [PlainEntries, ih]

theorem plain_hereditary : IsHereditary Plain List.Nodup where
  items _ := plain_items_iff
  entries _ := and_congr_right fun _ => plain_entries_iff
  anyOrder order := order.nodup_iff.mp

theorem hex_digit_char : ∀ digit < 16, hexDigit (Nat.digitChar digit) = some digit := by decide

theorem read_hex4 {unit : ℕ} (bounded : unit < 0x10000) (rest : List Char) :
    readHex4 (hex4 unit ++ rest) = some (unit, rest) := by
  have first := hex_digit_char (unit / 0x1000 % 16) (Nat.mod_lt _ (by decide))
  have second := hex_digit_char (unit / 0x100 % 16) (Nat.mod_lt _ (by decide))
  have third := hex_digit_char (unit / 0x10 % 16) (Nat.mod_lt _ (by decide))
  have fourth := hex_digit_char (unit % 16) (Nat.mod_lt _ (by decide))
  have value : (((unit / 0x1000 % 16) * 16 + unit / 0x100 % 16) * 16 + unit / 0x10 % 16) * 16 +
      unit % 16 = unit := by omega
  simp only [hex4, cons_append, nil_append, readHex4, first, second, third, fourth]
  simp [value]

theorem read_escaped_unit {unit : ℕ} (bounded : unit < 0xd800) (rest : List Char) :
    readChar (escapedUnit unit ++ rest) = some (Char.ofNat unit, rest) := by
  have notHigh : isHighSurrogate unit = false := by
    simp [isHighSurrogate]
    omega
  have notLow : isLowSurrogate unit = false := by
    simp [isLowSurrogate]
    omega
  have read := read_hex4 (by omega : unit < 0x10000) rest
  simp [escapedUnit, readChar, read, readUnit, notHigh, notLow]

theorem read_escaped (char : Char) (rest : List Char) :
    readChar (escaped char ++ rest) = some (char, rest) := by
  unfold escaped
  split
  · next quote => simp [readChar, escapedChar, quote]
  split
  · next backslash => simp [readChar, escapedChar, backslash]
  split
  · next newline => simp [readChar, escapedChar, newline]
  split
  · next returns => simp [readChar, escapedChar, returns]
  split
  · next tab => simp [readChar, escapedChar, tab]
  split
  · next backspace => simp [readChar, escapedChar, backspace]
  split
  · next feed => simp [readChar, escapedChar, feed]
  split
  · next control =>
    rw [read_escaped_unit (by omega), Char.ofNat_toNat]
  · next notQuote notBackslash _ _ _ _ _ printed =>
    unfold readChar
    split <;> simp_all

theorem escaped_head (char : Char) : ∃ head tail, escaped char = head :: tail ∧ head ≠ '"' := by
  unfold escaped
  repeat' split
  all_goals first
    | exact ⟨_, _, rfl, by decide⟩
    | exact ⟨char, [], rfl, by assumption⟩

variable {fuel value : ℕ} {rest text chars : List Char}

theorem read_content_step {head : Char} {tail : List Char} (notQuote : head ≠ '"') :
    readContent (fuel + 1) (head :: tail) = (readChar (head :: tail)).bind fun read =>
      (readContent fuel read.2).bind fun more => some (read.1 :: more.1, more.2) := by
  rw [readContent]
  · rfl
  · rintro rest same
    exact notQuote (List.cons.inj same).1

theorem read_content (content rest : List Char) (enough : content.length ≤ fuel) :
    readContent fuel (content.flatMap escaped ++ '"' :: rest) = some (content, rest) := by
  induction content generalizing fuel with
  | nil => cases fuel <;> simp [readContent]
  | cons char content ih =>
    obtain ⟨fuel, rfl⟩ : ∃ less, fuel = less + 1 := Nat.exists_eq_succ_of_ne_zero (by
      simp only [length_cons] at enough
      omega)
    obtain ⟨_, _, text, notQuote⟩ := escaped_head char
    have read := read_escaped char (content.flatMap escaped ++ '"' :: rest)
    rw [flatMap_cons, append_assoc, text, cons_append, read_content_step notQuote]
    rw [text, cons_append] at read
    rw [read]
    simp only [length_cons] at enough
    simp [ih (by omega : content.length ≤ fuel)]

theorem length_le_escaped (content : List Char) :
    content.length ≤ (content.flatMap escaped).length := by
  induction content with
  | nil => simp
  | cons char =>
    obtain ⟨_, _, text, _⟩ := escaped_head char
    simp only [flatMap_cons, length_append, length_cons, text]
    omega

theorem read_string (text : String) (rest : List Char) :
    readString (text.toList.flatMap escaped ++ '"' :: rest) = some (text, rest) := by
  have enough : text.toList.length ≤ (text.toList.flatMap escaped ++ '"' :: rest).length := by
    have escapes := length_le_escaped text.toList
    simp only [length_append]
    omega
  unfold readString
  rw [read_content text.toList rest enough]
  simp

/-- What stands behind a value in a text that was written. -/
def Follows (rest : List Char) : Prop :=
  ∀ char ∈ rest.head?, char = ',' ∨ char = ']' ∨ char = '}' ∨ char = '\n'

theorem follows_no_digit (follows : Follows rest) :
    rest.takeWhile isAsciiDigit = [] ∧ rest.dropWhile isAsciiDigit = rest := by
  cases rest with
  | nil => simp
  | cons char =>
    have noDigit : isAsciiDigit char = false := by
      rcases follows char rfl with rfl | rfl | rfl | rfl <;> decide
    simp [noDigit]

theorem span_integer_digits (value : ℕ) (follows : Follows rest) :
    spanInteger (Nat.toDigits 10 value ++ rest) = (Nat.toDigits 10 value, rest) := by
  obtain ⟨noTake, noDrop⟩ := follows_no_digit follows
  cases Nat.eq_zero_or_pos value with
  | inl zero =>
    rw [zero, Nat.toDigits_zero]
    rfl
  | inr positive =>
    obtain ⟨_, _, digits, notZero⟩ := digits_head positive
    have ascii := digits_ascii value
    have taken : (Nat.toDigits 10 value ++ rest).takeWhile isAsciiDigit = Nat.toDigits 10 value := by
      rw [takeWhile_append_of_pos ascii, noTake, append_nil]
    have dropped : (Nat.toDigits 10 value ++ rest).dropWhile isAsciiDigit = rest := by
      rw [dropWhile_append_of_pos ascii, noDrop]
    rw [digits, cons_append] at taken dropped ⊢
    unfold spanInteger
    split
    · next same => exact absurd (List.cons.inj same).1 notZero
    · rw [taken, dropped]

theorem span_fraction_none (follows : Follows rest) : spanFraction rest = ([], rest) := by
  unfold spanFraction
  split
  · rcases follows '.' rfl with same | same | same | same <;> exact absurd same (by decide)
  · rfl

theorem span_exponent_none (follows : Follows rest) : spanExponent rest = ([], rest) := by
  cases rest with
  | nil => rfl
  | cons char =>
    rcases follows char rfl with rfl | rfl | rfl | rfl <;> simp [spanExponent]

theorem read_magnitude (negative : Bool) (follows : Follows rest)
    (short : (Nat.toDigits 10 value).length ≤ maxIntDigits) :
    readMagnitude negative (Nat.toDigits 10 value ++ rest) =
      some (.int (if negative then -(value : ℤ) else value), rest) := by
  have present : Nat.toDigits 10 value ≠ [] := Nat.toDigits_ne_nil
  unfold readMagnitude
  simp only [span_integer_digits value follows, span_fraction_none follows,
    span_exponent_none follows, present, numeral_digits, Nat.not_lt.mpr short]
  simp

/-- The first character of a number that no other kind of value begins with. -/
def Numeric (char : Char) : Prop := isAsciiDigit char = true ∨ char = '-'

theorem read_value_numeric {head : Char} (numeric : Numeric head) (fuel : ℕ) (tail : List Char) :
    readValue (fuel + 1) (head :: tail) = readNumber (head :: tail) := by
  have other : ∀ char, isAsciiDigit char = false → char ≠ '-' → head ≠ char := by
    rintro char noDigit noSign rfl
    rcases numeric with digit | sign
    · exact absurd (digit.symm.trans noDigit) (by decide)
    · exact noSign sign
  rw [readValue]
  · rintro rest same
    exact other 'n' (by decide) (by decide) (List.cons.inj same).1
  · rintro rest same
    exact other 't' (by decide) (by decide) (List.cons.inj same).1
  · rintro rest same
    exact other 'f' (by decide) (by decide) (List.cons.inj same).1
  · rintro rest same
    exact other '"' (by decide) (by decide) (List.cons.inj same).1
  · rintro rest same
    exact other '[' (by decide) (by decide) (List.cons.inj same).1
  · rintro rest same
    exact other '\x7b' (by decide) (by decide) (List.cons.inj same).1

theorem read_number_digits (follows : Follows rest)
    (short : (Nat.toDigits 10 value).length ≤ maxIntDigits) :
    readNumber (Nat.toDigits 10 value ++ rest) = some (.int value, rest) := by
  have read := read_magnitude false follows short
  have ascii := digits_ascii value
  cases text : Nat.toDigits 10 value with
  | nil => exact absurd text Nat.toDigits_ne_nil
  | cons head =>
    rw [text] at read ascii
    have digit := ascii head mem_cons_self
    have other : ∀ char, isAsciiDigit char = false → head ≠ char := by
      rintro char noDigit rfl
      exact absurd (digit.symm.trans noDigit) (by decide)
    rw [cons_append] at read ⊢
    rw [readNumber, read]
    · rfl
    · rintro rest same
      exact other 'N' (by decide) (List.cons.inj same).1
    · rintro rest same
      exact other 'I' (by decide) (List.cons.inj same).1
    · rintro rest same
      exact other '-' (by decide) (List.cons.inj same).1
    · rintro rest same
      exact other '-' (by decide) (List.cons.inj same).1

theorem read_number_negative (follows : Follows rest)
    (short : (Nat.toDigits 10 value).length ≤ maxIntDigits) :
    readNumber ('-' :: (Nat.toDigits 10 value ++ rest)) = some (.int (-(value : ℤ)), rest) := by
  have read := read_magnitude true follows short
  have ascii := digits_ascii value
  cases text : Nat.toDigits 10 value with
  | nil => exact absurd text Nat.toDigits_ne_nil
  | cons head =>
    rw [text] at read ascii
    have digit := ascii head mem_cons_self
    rw [cons_append] at read ⊢
    rw [readNumber, read]
    · rfl
    · rintro rest same
      rw [(List.cons.inj same).1] at digit
      exact absurd digit (by decide)

theorem int_text_head {value : ℤ} (written : writeInt value = some text) :
    ∃ head tail, text = head :: tail ∧ Numeric head := by
  rw [(write_int_eq written).2]
  split
  · exact ⟨'-', _, rfl, Or.inr rfl⟩
  · cases digits : Nat.toDigits 10 value.natAbs with
    | nil => exact absurd digits Nat.toDigits_ne_nil
    | cons head tail =>
      exact ⟨head, tail, rfl, Or.inl (digits_ascii value.natAbs head (by simp [digits]))⟩

theorem read_int {value : ℤ} (written : writeInt value = some text) (follows : Follows rest)
    (fuel : ℕ) :
    readValue (fuel + 1) (text ++ rest) = some (.int value, rest) := by
  obtain ⟨_, _, same, numeric⟩ := int_text_head written
  obtain ⟨short, digits⟩ := write_int_eq written
  rw [same, cons_append, read_value_numeric numeric, ← cons_append, ← same, digits]
  split
  · next negative =>
    have magnitude : -(value.natAbs : ℤ) = value := by omega
    rw [cons_append, read_number_negative follows short, magnitude]
  · next nonneg =>
    have magnitude : (value.natAbs : ℤ) = value := by omega
    rw [read_number_digits follows short, magnitude]

/-- What the reader does behind an item of a list. -/
def afterItem (fuel : ℕ) (before : List JsonValue) (chars : List Char) :
    Option (List JsonValue × List Char) :=
  match skipBlanks chars with
  | ']' :: after => some (before, after)
  | ',' :: after => readItems fuel (skipBlanks after) before
  | _ => none

def afterEntry (fuel : ℕ) (before : JsonObject) (chars : List Char) :
    Option (JsonObject × List Char) :=
  match skipBlanks chars with
  | '}' :: after => some (before, after)
  | ',' :: after => readEntries fuel (skipBlanks after) before
  | _ => none

theorem read_items_step {before : List JsonValue} {item : JsonValue}
    (read : readValue fuel chars = some (item, rest)) :
    readItems (fuel + 1) chars before = afterItem fuel (before ++ [item]) rest := by
  rw [readItems, read]
  rfl

theorem read_entries_step {afterKey : List Char} {before : JsonObject} {key : String}
    {value : JsonValue} (readKey : readString chars = some (key, ':' :: afterKey))
    (read : readValue fuel (skipBlanks afterKey) = some (value, rest)) :
    readEntries (fuel + 1) ('"' :: chars) before =
      afterEntry fuel (setEntry before key value) rest := by
  have colon : skipBlanks (':' :: afterKey) = ':' :: afterKey := rfl
  rw [readEntries, readKey]
  simp only [colon, read]
  rfl

theorem set_entry_fresh {entries : JsonObject} {key : String} (value : JsonValue)
    (fresh : key ∉ entries.map Prod.fst) : setEntry entries key value = entries ++ [(key, value)] := by
  unfold setEntry
  rw [if_neg]
  intro taken
  obtain ⟨entry, member, same⟩ := any_eq_true.mp taken
  exact fresh (mem_map.mpr ⟨entry, member, of_decide_eq_true same⟩)

/-- A written value begins with a character that is not skipped and ends no list. -/
def Starts (text : List Char) : Prop :=
  ∃ head tail, text = head :: tail ∧ isBlank head = false ∧ head ≠ ']'

theorem skip_starts (starts : Starts text) (rest : List Char) :
    skipBlanks (text ++ rest) = text ++ rest := by
  obtain ⟨_, _, rfl, notBlank, _⟩ := starts
  simp [skipBlanks, notBlank]

theorem starts_length (starts : Starts text) : 0 < text.length := by
  obtain ⟨_, _, rfl, _⟩ := starts
  simp

theorem written_starts {value : JsonValue} (plain : Plain value)
    (written : writeValue value = some text) : Starts text := by
  cases value with
  | null => exact ⟨'n', _, (Option.some.inj written).symm, rfl, by decide⟩
  | bool flag =>
    cases flag with
    | true => exact ⟨'t', _, (Option.some.inj written).symm, rfl, by decide⟩
    | false => exact ⟨'f', _, (Option.some.inj written).symm, rfl, by decide⟩
  | int =>
    obtain ⟨head, tail, rfl, digit | rfl⟩ := int_text_head written
    · refine ⟨head, tail, rfl, ?_, ?_⟩
      · cases blank : isBlank head with
        | false => rfl
        | true =>
          simp only [isBlank, Bool.or_eq_true, decide_eq_true_eq] at blank
          rcases blank with ((rfl | rfl) | rfl) | rfl <;> exact absurd digit (by decide)
      · rintro rfl
        exact absurd digit (by decide)
    · exact ⟨'-', tail, rfl, rfl, by decide⟩
  | float => exact absurd plain id
  | str => exact ⟨'"', _, (Option.some.inj written).symm, rfl, by decide⟩
  | arr items =>
    cases items with
    | nil => exact ⟨'[', _, (Option.some.inj written).symm, rfl, by decide⟩
    | cons =>
      simp only [writeValue, Option.bind_eq_bind, Option.bind_eq_some_iff] at written
      obtain ⟨_, _, _, _, same⟩ := written
      exact ⟨'[', _, (Option.some.inj same).symm, rfl, by decide⟩
  | obj entries =>
    cases entries with
    | nil => exact ⟨'\x7b', _, (Option.some.inj written).symm, rfl, by decide⟩
    | cons =>
      simp only [writeValue, Option.bind_eq_bind, Option.bind_eq_some_iff] at written
      obtain ⟨_, _, _, _, same⟩ := written
      exact ⟨'\x7b', _, (Option.some.inj same).symm, rfl, by decide⟩

theorem write_items_follows {items : List JsonValue} (written : writeItems items = some text)
    (rest : List Char) :
    Follows (text ++ rest) ∧ 0 < text.length := by
  cases items with
  | nil =>
    rw [writeItems, Option.some.injEq] at written
    subst written
    exact ⟨by simp [Follows], by simp⟩
  | cons =>
    simp only [writeItems, Option.bind_eq_bind, Option.bind_eq_some_iff] at written
    obtain ⟨_, _, _, _, same⟩ := written
    rw [← Option.some.inj same]
    exact ⟨by simp [Follows], by simp⟩

theorem write_entries_follows {entries : JsonObject} (written : writeEntries entries = some text)
    (rest : List Char) :
    Follows (text ++ rest) ∧ 0 < text.length := by
  cases entries with
  | nil =>
    rw [writeEntries, Option.some.injEq] at written
    subst written
    exact ⟨by simp [Follows], by simp⟩
  | cons =>
    simp only [writeEntries, Option.bind_eq_bind, Option.bind_eq_some_iff] at written
    obtain ⟨_, _, _, _, same⟩ := written
    rw [← Option.some.inj same]
    exact ⟨by simp [Follows], by simp⟩

theorem read_quoted (fuel : ℕ) (text : String) (rest : List Char) :
    readValue (fuel + 1) (writeString text ++ rest) = some (.str text, rest) := by
  have shape : writeString text ++ rest = '"' :: (text.toList.flatMap escaped ++ '"' :: rest) := by
    simp [writeString]
  rw [shape, readValue, read_string]
  rfl

/-- The reader finds a list behind its bracket. -/
theorem read_array_step (starts : Starts chars) (rest : List Char) :
    readValue (fuel + 1) ('[' :: (chars ++ rest)) =
      (readItems fuel (chars ++ rest) []).map fun read => (.arr read.1, read.2) := by
  obtain ⟨head, tail, rfl, notBlank, notEnd⟩ := starts
  have skipped : skipBlanks (head :: tail ++ rest) = head :: (tail ++ rest) := by
    simp [skipBlanks, notBlank]
  rw [readValue, skipped]
  split
  · next same => exact absurd (List.cons.inj same).1 notEnd
  · rfl

theorem read_object_step (chars : List Char) :
    readValue (fuel + 1) ('\x7b' :: '"' :: chars) =
      (readEntries fuel ('"' :: chars) []).map fun read => (.obj read.1, read.2) := by
  have skipped : skipBlanks ('"' :: chars) = '"' :: chars := rfl
  rw [readValue, skipped]
  rfl

mutual

theorem read_written : ∀ (value : JsonValue) {text : List Char} (rest : List Char) (fuel : ℕ),
    Plain value → writeValue value = some text → Follows rest → text.length ≤ fuel →
      readValue fuel (text ++ rest) = some (value, rest)
  | value, text, rest, 0, plain, written, _, enough => by
    have positive := starts_length (written_starts plain written)
    omega
  | .null, text, rest, fuel + 1, _, written, _, _ => by
    rw [← Option.some.inj written]
    rfl
  | .bool true, text, rest, fuel + 1, _, written, _, _ => by
    rw [← Option.some.inj written]
    rfl
  | .bool false, text, rest, fuel + 1, _, written, _, _ => by
    rw [← Option.some.inj written]
    rfl
  | .int value, text, rest, fuel + 1, _, written, follows, _ => read_int written follows fuel
  | .float _, _, _, _, plain, _, _, _ => plain.elim
  | .str content, text, rest, fuel + 1, _, written, _, _ => by
    rw [← Option.some.inj written]
    exact read_quoted fuel content rest
  | .arr [], text, rest, fuel + 1, _, written, _, _ => by
    rw [← Option.some.inj written]
    rfl
  | .arr (item :: items), text, rest, fuel + 1, plain, written, _, enough => by
    simp only [writeValue, Option.bind_eq_bind, Option.bind_eq_some_iff] at written
    obtain ⟨_, writtenFirst, more, writtenMore, same⟩ := written
    rw [← Option.some.inj same] at enough ⊢
    simp only [length_cons, length_append] at enough
    have starts := written_starts plain.1 writtenFirst
    have firstLength := starts_length starts
    obtain ⟨follows, _⟩ := write_items_follows writtenMore rest
    obtain ⟨less, rfl⟩ : ∃ less, fuel = less + 1 := Nat.exists_eq_succ_of_ne_zero (by omega)
    have readFirst := read_written item (more ++ rest) less plain.1 writtenFirst follows
      (by omega)
    have readMore := read_items_written items rest less [item] plain.2 writtenMore
      (by omega)
    rw [cons_append, append_assoc, read_array_step starts, read_items_step readFirst,
      nil_append, readMore]
    rfl
  | .obj [], text, rest, fuel + 1, _, written, _, _ => by
    rw [← Option.some.inj written]
    rfl
  | .obj ((key, value) :: entries), text, rest, fuel + 1, plain, written, _, enough => by
    simp only [writeValue, Option.bind_eq_bind, Option.bind_eq_some_iff] at written
    obtain ⟨first, writtenFirst, more, writtenMore, same⟩ := written
    rw [← Option.some.inj same] at enough ⊢
    simp only [length_cons, length_append] at enough
    have starts := written_starts plain.2.1 writtenFirst
    obtain ⟨follows, _⟩ := write_entries_follows writtenMore rest
    obtain ⟨less, rfl⟩ : ∃ less, fuel = less + 1 := Nat.exists_eq_succ_of_ne_zero (by omega)
    have readFirst := read_written value (more ++ rest) less plain.2.1 writtenFirst
      follows (by omega)
    have distinct := nodup_cons.mp plain.1
    have readMore := read_entries_written entries rest less [(key, value)] distinct.2
      (by
        rintro other member inBefore
        rw [map_singleton, mem_singleton] at inBefore
        exact distinct.1 (inBefore ▸ member)) plain.2.2 writtenMore (by omega)
    have shape : '\x7b' :: (writeString key ++ ':' :: (first ++ more)) ++ rest =
        '\x7b' :: '"' :: (key.toList.flatMap escaped ++ '"' :: ':' :: (first ++ (more ++ rest))) := by
      simp [writeString]
    rw [shape, read_object_step, read_entries_step (read_string key _)
      (by rw [skip_starts starts]; exact readFirst), set_entry_fresh value (by simp),
      nil_append, readMore]
    rfl

theorem read_items_written : ∀ (items : List JsonValue) {text : List Char} (rest : List Char)
    (fuel : ℕ) (before : List JsonValue), PlainItems items → writeItems items = some text →
      text.length ≤ fuel → afterItem fuel before (text ++ rest) = some (before ++ items, rest)
  | [], text, rest, fuel, before, _, written, _ => by
    rw [← Option.some.inj written, append_nil]
    rfl
  | item :: items, text, rest, fuel, before, plain, written, enough => by
    simp only [writeItems, Option.bind_eq_bind, Option.bind_eq_some_iff] at written
    obtain ⟨first, writtenFirst, more, writtenMore, same⟩ := written
    rw [← Option.some.inj same] at enough ⊢
    simp only [length_cons, length_append] at enough
    have starts := written_starts plain.1 writtenFirst
    have firstLength := starts_length starts
    obtain ⟨follows, _⟩ := write_items_follows writtenMore rest
    obtain ⟨less, rfl⟩ : ∃ less, fuel = less + 1 := Nat.exists_eq_succ_of_ne_zero (by omega)
    have readFirst := read_written item (more ++ rest) less plain.1 writtenFirst follows
      (by omega)
    have readMore := read_items_written items rest less (before ++ [item]) plain.2
      writtenMore (by omega)
    have comma : skipBlanks (',' :: (first ++ (more ++ rest))) =
        ',' :: (first ++ (more ++ rest)) := rfl
    rw [cons_append, append_assoc, afterItem, comma]
    simp only
    rw [skip_starts starts, read_items_step readFirst, readMore, append_assoc, singleton_append]

theorem read_entries_written : ∀ (entries : JsonObject) {text : List Char} (rest : List Char)
    (fuel : ℕ) (before : JsonObject), (entries.map Prod.fst).Nodup →
      (∀ key ∈ entries.map Prod.fst, key ∉ before.map Prod.fst) → PlainEntries entries →
        writeEntries entries = some text → text.length ≤ fuel →
          afterEntry fuel before (text ++ rest) = some (before ++ entries, rest)
  | [], text, rest, fuel, before, _, _, _, written, _ => by
    rw [← Option.some.inj written, append_nil]
    rfl
  | (key, value) :: entries, text, rest, fuel, before, distinct, fresh, plain, written, enough => by
    simp only [writeEntries, Option.bind_eq_bind, Option.bind_eq_some_iff] at written
    obtain ⟨first, writtenFirst, more, writtenMore, same⟩ := written
    rw [← Option.some.inj same] at enough ⊢
    simp only [length_cons, length_append] at enough
    have starts := written_starts plain.1 writtenFirst
    have firstLength := starts_length starts
    obtain ⟨follows, _⟩ := write_entries_follows writtenMore rest
    obtain ⟨less, rfl⟩ : ∃ less, fuel = less + 1 := Nat.exists_eq_succ_of_ne_zero (by omega)
    have readFirst := read_written value (more ++ rest) less plain.1 writtenFirst follows
      (by omega)
    have keyFresh := fresh key mem_cons_self
    obtain ⟨keyDistinct, restDistinct⟩ := nodup_cons.mp distinct
    have freshMore : ∀ other ∈ entries.map Prod.fst,
        other ∉ (before ++ [(key, value)]).map Prod.fst := by
      intro other member
      rw [map_append, mem_append]
      rintro (inBefore | last)
      · exact fresh other (mem_cons_of_mem _ member) inBefore
      · rw [map_singleton, mem_singleton] at last
        exact keyDistinct (last ▸ member)
    have readMore := read_entries_written entries rest less (before ++ [(key, value)])
      restDistinct freshMore plain.2 writtenMore (by omega)
    have shape : ',' :: (writeString key ++ ':' :: (first ++ more)) ++ rest =
        ',' :: '"' :: (key.toList.flatMap escaped ++ '"' :: ':' :: (first ++ (more ++ rest))) := by
      simp [writeString]
    have comma : ∀ chars, skipBlanks (',' :: chars) = ',' :: chars := fun _ => rfl
    have quote : ∀ chars, skipBlanks ('"' :: chars) = '"' :: chars := fun _ => rfl
    rw [shape, afterEntry, comma]
    simp only
    rw [quote, read_entries_step (read_string key _)
      (by rw [skip_starts starts]; exact readFirst), set_entry_fresh value keyFresh, readMore,
      append_assoc, singleton_append]

end

theorem read_dumps {value : JsonValue} {text : List Char} (plain : Plain value)
    (written : dumps value = some text) : readText (text ++ ['\n']) = some (sortKeys value) := by
  have plainSorted := plain_hereditary.sort_keys value plain
  have starts := written_starts plainSorted written
  have read := read_written (sortKeys value) ['\n'] ((text ++ ['\n']).length + 1)
    plainSorted written (by simp [Follows]) (by simp; omega)
  unfold readText
  rw [skip_starts starts, read]
  rfl

theorem get_iff {entries : JsonObject} (distinct : (entries.map Prod.fst).Nodup) {key : String}
    {value : JsonValue} : get entries key = some value ↔ (key, value) ∈ entries := by
  unfold Json.get
  rw [Option.map_eq_some_iff]
  constructor
  · rintro ⟨entry, found, rfl⟩
    obtain ⟨member, rfl⟩ := lookup_mem found
    exact member
  · intro member
    exact ⟨(key, value), (lookup_iff distinct).mpr ⟨member, rfl⟩, rfl⟩

theorem get_sorted {entries : JsonObject} (distinct : (entries.map Prod.fst).Nodup) (key : String) :
    get (sortedBy Prod.fst (sortEntries entries)) key = (get entries key).map sortKeys := by
  have distinctSorted : ((sortedBy Prod.fst (sortEntries entries)).map Prod.fst).Nodup := by
    apply sorted_keys_nodup
    rw [sort_entries_keys]
    exact distinct
  apply Option.ext
  intro _
  rw [get_iff distinctSorted, mem_sorted_iff, sort_entries_map, mem_map, Option.map_eq_some_iff]
  constructor
  · rintro ⟨entry, member, same⟩
    obtain ⟨rfl, rfl⟩ := Prod.mk.inj same
    exact ⟨entry.2, (get_iff distinct).mpr member, rfl⟩
  · rintro ⟨stored, found, rfl⟩
    exact ⟨(key, stored), (get_iff distinct).mp found, rfl⟩

/-- The order of the keys leaves no trace in the text. -/
theorem dumps_eq_of_perm {entries others : JsonObject} (distinct : (entries.map Prod.fst).Nodup)
    (same : entries.Perm others) : dumps (.obj entries) = dumps (.obj others) := by
  unfold dumps
  rw [sortKeys, sortKeys, sort_entries_map, sort_entries_map]
  rw [sorted_eq_of_perm _ (same.map _)]
  rw [map_map]
  exact distinct

end FinanceTracker.Library.JsonRoundTrip
