import FinanceTracker.Library.IntText
import FinanceTracker.Library.SortedBy
import Mathlib.Data.String.Basic

/-!
# JSON texts

Python's `json.dumps` with `sort_keys=True` and `separators=(",", ":")`, with and
without `ensure_ascii`, which changes nothing where every string is ASCII.
-/

namespace FinanceTracker.Library.JsonText

open IntText Json SortedBy List

mutual

def sortKeys : JsonValue → JsonValue
  | .arr items => .arr (sortItems items)
  | .obj entries => .obj (sortedBy Prod.fst (sortEntries entries))
  | value => value

def sortItems : List JsonValue → List JsonValue
  | [] => []
  | item :: items => sortKeys item :: sortItems items

def sortEntries : JsonObject → JsonObject
  | [] => []
  | (key, value) :: entries => (key, sortKeys value) :: sortEntries entries

end

theorem sort_items_map (items : List JsonValue) : sortItems items = items.map sortKeys := by
  induction items with
  | nil => rfl
  | cons item items ih => rw [sortItems, ih, map_cons]

theorem sort_entries_map (entries : JsonObject) :
    sortEntries entries = entries.map fun entry => (entry.1, sortKeys entry.2) := by
  induction entries with
  | nil => rfl
  | cons entry entries ih => rw [sortEntries, ih, map_cons]

theorem sort_entries_keys (entries : JsonObject) :
    (sortEntries entries).map Prod.fst = entries.map Prod.fst := by
  rw [sort_entries_map, map_map]
  rfl

def hex4 (unit : ℕ) : List Char :=
  [Nat.digitChar (unit / 0x1000 % 16), Nat.digitChar (unit / 0x100 % 16),
    Nat.digitChar (unit / 0x10 % 16), Nat.digitChar (unit % 16)]

def escapedUnit (unit : ℕ) : List Char := '\\' :: 'u' :: hex4 unit

def escaped (char : Char) : List Char :=
  if char = '"' then ['\\', '"']
  else if char = '\\' then ['\\', '\\']
  else if char = '\n' then ['\\', 'n']
  else if char = '\r' then ['\\', 'r']
  else if char = '\t' then ['\\', 't']
  else if char = Char.ofNat 8 then ['\\', 'b']
  else if char = Char.ofNat 12 then ['\\', 'f']
  else if char.toNat < 0x20 then escapedUnit char.toNat
  else [char]

def writeString (text : String) : List Char :=
  '"' :: (text.toList.flatMap escaped ++ ['"'])

/-- An integer, which Python does not write beyond its limit of digits. -/
def writeInt (value : ℤ) : Option (List Char) :=
  let digits := Nat.toDigits 10 value.natAbs
  if maxIntDigits < digits.length then none
  else some (if value < 0 then '-' :: digits else digits)

mutual

/-- A float is written as its literal; none where Python raises. -/
def writeValue : JsonValue → Option (List Char)
  | .null => some ['n', 'u', 'l', 'l']
  | .bool true => some ['t', 'r', 'u', 'e']
  | .bool false => some ['f', 'a', 'l', 's', 'e']
  | .int value => writeInt value
  | .float literal => some literal.toList
  | .str text => some (writeString text)
  | .arr [] => some ['[', ']']
  | .arr (item :: items) => do
    let first ← writeValue item
    let rest ← writeItems items
    some ('[' :: (first ++ rest))
  | .obj [] => some ['{', '}']
  | .obj ((key, value) :: entries) => do
    let first ← writeValue value
    let rest ← writeEntries entries
    some ('{' :: (writeString key ++ ':' :: (first ++ rest)))

def writeItems : List JsonValue → Option (List Char)
  | [] => some [']']
  | item :: items => do
    let first ← writeValue item
    let rest ← writeItems items
    some (',' :: (first ++ rest))

def writeEntries : JsonObject → Option (List Char)
  | [] => some ['}']
  | (key, value) :: entries => do
    let first ← writeValue value
    let rest ← writeEntries entries
    some (',' :: (writeString key ++ ':' :: (first ++ rest)))

end

/-- `json.dumps(value, ensure_ascii=False, sort_keys=True, separators=(",", ":"))`. -/
def dumps (value : JsonValue) : Option (List Char) := writeValue (sortKeys value)

/-- A character beyond `~` as one escape or, outside the basic plane, as two. -/
def asciiEscaped (char : Char) : List Char :=
  if char.toNat < 0x7f then [char]
  else if char.toNat < 0x10000 then escapedUnit char.toNat
  else escapedUnit (0xd800 + (char.toNat - 0x10000) / 0x400) ++
    escapedUnit (0xdc00 + (char.toNat - 0x10000) % 0x400)

/-- `json.dumps` with `ensure_ascii`; only strings hold characters beyond `~`. -/
def dumpsAscii (value : JsonValue) : Option (List Char) :=
  (dumps value).map fun text => text.flatMap asciiEscaped

theorem write_int_eq {value : ℤ} {text : List Char} (written : writeInt value = some text) :
    (Nat.toDigits 10 value.natAbs).length ≤ maxIntDigits ∧
      text = if value < 0 then '-' :: Nat.toDigits 10 value.natAbs
        else Nat.toDigits 10 value.natAbs := by
  unfold writeInt at written
  simp only at written
  split at written
  · contradiction
  · next short => exact ⟨Nat.not_lt.mp short, (Option.some.inj written).symm⟩

theorem write_int_some_iff {value : ℤ} :
    (writeInt value).isSome = true ↔ value.natAbs < 10 ^ maxIntDigits := by
  have digits : (Nat.toDigits 10 value.natAbs).length ≤ maxIntDigits ↔
      value.natAbs < 10 ^ maxIntDigits :=
    Nat.length_toDigits_le_iff (by decide) (by decide)
  rw [← digits]
  unfold writeInt
  dsimp only
  split
  · next long => exact iff_of_false (by simp) (Nat.not_le.mpr long)
  · next short => exact iff_of_true rfl (Nat.not_lt.mp short)

/-- A number of items that is not larger than one that Python writes. -/
theorem short_of_le {count bound : ℕ} (le : count ≤ bound)
    (short : (writeInt bound).isSome = true) : (writeInt count).isSome = true := by
  rw [write_int_some_iff, Int.natAbs_natCast] at short ⊢
  exact lt_of_le_of_lt le short

mutual

/-- Python writes every integer of the value. -/
def ShortInts : JsonValue → Prop
  | .int value => (writeInt value).isSome = true
  | .arr items => ShortItems items
  | .obj entries => ShortEntries entries
  | _ => True

def ShortItems : List JsonValue → Prop
  | [] => True
  | item :: items => ShortInts item ∧ ShortItems items

def ShortEntries : JsonObject → Prop
  | [] => True
  | (_, value) :: entries => ShortInts value ∧ ShortEntries entries

end

theorem short_items_iff {items : List JsonValue} :
    ShortItems items ↔ ∀ item ∈ items, ShortInts item := by
  induction items with
  | nil => simp [ShortItems]
  | cons item items ih => simp [ShortItems, ih]

theorem short_entries_iff {entries : JsonObject} :
    ShortEntries entries ↔ ∀ entry ∈ entries, ShortInts entry.2 := by
  induction entries with
  | nil => simp [ShortEntries]
  | cons entry entries ih => rw [ShortEntries, ih, forall_mem_cons]

/-- Holds through the items, the entries and the keys in any order. -/
structure IsHereditary (Holds : JsonValue → Prop) (Keys : List String → Prop) : Prop where
  items : ∀ items, Holds (.arr items) ↔ ∀ item ∈ items, Holds item
  entries : ∀ entries, Holds (.obj entries) ↔
    Keys (entries.map Prod.fst) ∧ ∀ entry ∈ entries, Holds entry.2
  anyOrder : ∀ {keys later : List String}, keys.Perm later → Keys keys → Keys later

section SortKeys

variable {Holds : JsonValue → Prop} {Keys : List String → Prop}

mutual

theorem IsHereditary.sort_keys (kept : IsHereditary Holds Keys) :
    ∀ value : JsonValue, Holds value → Holds (sortKeys value)
  | .null, holds => holds
  | .bool _, holds => holds
  | .int _, holds => holds
  | .float _, holds => holds
  | .str _, holds => holds
  | .arr items, holds => by
    rw [sortKeys, kept.items]
    exact kept.sort_items items ((kept.items items).mp holds)
  | .obj entries, holds => by
    obtain ⟨keys, values⟩ := (kept.entries entries).mp holds
    rw [sortKeys, kept.entries]
    refine ⟨kept.anyOrder ((sorted_perm _ _).map _).symm (sort_entries_keys entries ▸ keys), ?_⟩
    intro entry member
    exact kept.sort_entries entries values entry ((mem_sorted_iff _).mp member)

theorem IsHereditary.sort_items (kept : IsHereditary Holds Keys) :
    ∀ items : List JsonValue, (∀ item ∈ items, Holds item) → ∀ item ∈ sortItems items, Holds item
  | [], holds => holds
  | first :: items, holds => by
    obtain ⟨here, rest⟩ := forall_mem_cons.mp holds
    exact forall_mem_cons.mpr ⟨kept.sort_keys first here, kept.sort_items items rest⟩

theorem IsHereditary.sort_entries (kept : IsHereditary Holds Keys) :
    ∀ entries : JsonObject, (∀ entry ∈ entries, Holds entry.2) →
      ∀ entry ∈ sortEntries entries, Holds entry.2
  | [], holds => holds
  | (_, value) :: entries, holds => by
    obtain ⟨here, rest⟩ := forall_mem_cons.mp holds
    exact forall_mem_cons.mpr ⟨kept.sort_keys value here, kept.sort_entries entries rest⟩

end

end SortKeys

theorem short_hereditary : IsHereditary ShortInts fun _ => True where
  items _ := short_items_iff
  entries _ := short_entries_iff.trans (true_and _).symm.to_iff
  anyOrder _ := id

mutual

theorem write_value_some : ∀ value : JsonValue, ShortInts value → ∃ text, writeValue value = some text
  | .null, _ => ⟨_, rfl⟩
  | .bool true, _ => ⟨_, rfl⟩
  | .bool false, _ => ⟨_, rfl⟩
  | .int _, short => Option.isSome_iff_exists.mp short
  | .float _, _ => ⟨_, rfl⟩
  | .str _, _ => ⟨_, rfl⟩
  | .arr [], _ => ⟨_, rfl⟩
  | .arr (item :: items), short => by
    obtain ⟨_, writtenFirst⟩ := write_value_some item short.1
    obtain ⟨_, writtenRest⟩ := write_items_some items short.2
    exact ⟨_, by rw [writeValue, writtenFirst, writtenRest]; rfl⟩
  | .obj [], _ => ⟨_, rfl⟩
  | .obj ((_, value) :: entries), short => by
    obtain ⟨_, writtenFirst⟩ := write_value_some value short.1
    obtain ⟨_, writtenRest⟩ := write_entries_some entries short.2
    exact ⟨_, by rw [writeValue, writtenFirst, writtenRest]; rfl⟩

theorem write_items_some : ∀ items : List JsonValue, ShortItems items →
    ∃ text, writeItems items = some text
  | [], _ => ⟨_, rfl⟩
  | item :: items, short => by
    obtain ⟨_, writtenFirst⟩ := write_value_some item short.1
    obtain ⟨_, writtenRest⟩ := write_items_some items short.2
    exact ⟨_, by rw [writeItems, writtenFirst, writtenRest]; rfl⟩

theorem write_entries_some : ∀ entries : JsonObject, ShortEntries entries →
    ∃ text, writeEntries entries = some text
  | [], _ => ⟨_, rfl⟩
  | (_, value) :: entries, short => by
    obtain ⟨_, writtenFirst⟩ := write_value_some value short.1
    obtain ⟨_, writtenRest⟩ := write_entries_some entries short.2
    exact ⟨_, by rw [writeEntries, writtenFirst, writtenRest]; rfl⟩

end

theorem dumps_some {value : JsonValue} (short : ShortInts value) : ∃ text, dumps value = some text :=
  write_value_some (sortKeys value) (short_hereditary.sort_keys value short)

def IsAscii (char : Char) : Prop := char.toNat < 0x7f

instance (char : Char) : Decidable (IsAscii char) :=
  inferInstanceAs (Decidable (char.toNat < 0x7f))

theorem ascii_of_all {chars : List Char}
    (all : chars.all (fun char => decide (IsAscii char)) = true) :
    ∀ char ∈ chars, IsAscii char := by
  simpa only [all_eq_true, decide_eq_true_eq] using all

mutual

def AsciiValue : JsonValue → Prop
  | .float literal => ∀ char ∈ literal.toList, IsAscii char
  | .str text => ∀ char ∈ text.toList, IsAscii char
  | .arr items => AsciiItems items
  | .obj entries => AsciiEntries entries
  | _ => True

def AsciiItems : List JsonValue → Prop
  | [] => True
  | item :: items => AsciiValue item ∧ AsciiItems items

def AsciiEntries : JsonObject → Prop
  | [] => True
  | (key, value) :: entries =>
    (∀ char ∈ key.toList, IsAscii char) ∧ AsciiValue value ∧ AsciiEntries entries

end

theorem ascii_items_iff {items : List JsonValue} :
    AsciiItems items ↔ ∀ item ∈ items, AsciiValue item := by
  induction items with
  | nil => simp [AsciiItems]
  | cons item items ih => simp [AsciiItems, ih]

theorem ascii_entries_iff {entries : JsonObject} : AsciiEntries entries ↔
    ∀ entry ∈ entries, (∀ char ∈ entry.1.toList, IsAscii char) ∧ AsciiValue entry.2 := by
  induction entries with
  | nil => simp [AsciiEntries]
  | cons entry entries ih =>
    rw [AsciiEntries, ih, forall_mem_cons, and_assoc]

theorem hex_digits_ascii : ∀ digit < 16, IsAscii (Nat.digitChar digit) := by
  unfold IsAscii
  decide

theorem escaped_ascii {char : Char} (ascii : IsAscii char) : ∀ other ∈ escaped char, IsAscii other := by
  have units : ∀ other ∈ escapedUnit char.toNat, IsAscii other := by
    intro _ member
    simp only [escapedUnit, hex4, mem_cons, not_mem_nil, or_false] at member
    rcases member with rfl | rfl | rfl | rfl | rfl | rfl
    · exact (by decide : '\\'.toNat < 0x7f)
    · exact (by decide : 'u'.toNat < 0x7f)
    all_goals exact hex_digits_ascii _ (Nat.mod_lt _ (by decide))
  have marks : ∀ mark ∈ ['\\', '"', 'n', 'r', 't', 'b', 'f'], IsAscii mark :=
    ascii_of_all (by decide)
  unfold escaped
  repeat' split
  all_goals first
    | exact units
    | (intro other member
       rcases mem_cons.mp member with rfl | last
       · exact marks _ (by simp)
       · rw [mem_singleton.mp last]
         exact marks _ (by simp))
    | (intro other member
       rw [mem_singleton.mp member]
       exact ascii)

theorem write_string_ascii {text : String} (ascii : ∀ char ∈ text.toList, IsAscii char) :
    ∀ char ∈ writeString text, IsAscii char := by
  intro char member
  simp only [writeString, mem_cons, mem_append, mem_flatMap, not_mem_nil, or_false] at member
  rcases member with rfl | ⟨original, inText, inEscape⟩ | rfl
  · exact (by decide : '"'.toNat < 0x7f)
  · exact escaped_ascii (ascii original inText) char inEscape
  · exact (by decide : '"'.toNat < 0x7f)

theorem write_int_ascii {value : ℤ} {text : List Char} (written : writeInt value = some text) :
    ∀ char ∈ text, IsAscii char := by
  have digits : ∀ char ∈ Nat.toDigits 10 value.natAbs, IsAscii char := by
    intro char member
    have digit := digits_ascii value.natAbs char member
    simp only [isAsciiDigit, Bool.and_eq_true, decide_eq_true_eq] at digit
    exact Nat.lt_of_le_of_lt digit.2 (by decide)
  rw [(write_int_eq written).2]
  split
  · intro char member
    rcases mem_cons.mp member with rfl | digit
    · exact (by decide : '-'.toNat < 0x7f)
    · exact digits char digit
  · exact digits

theorem ascii_cons {first : Char} {chars : List Char} (here : IsAscii first)
    (ascii : ∀ char ∈ chars, IsAscii char) : ∀ char ∈ first :: chars, IsAscii char :=
  forall_mem_cons.mpr ⟨here, ascii⟩

theorem ascii_append {front back : List Char} (ascii : ∀ char ∈ front, IsAscii char)
    (asciiBack : ∀ char ∈ back, IsAscii char) : ∀ char ∈ front ++ back, IsAscii char :=
  forall_mem_append.mpr ⟨ascii, asciiBack⟩

mutual

theorem write_value_ascii : ∀ (value : JsonValue) {text : List Char}, AsciiValue value →
    writeValue value = some text → ∀ char ∈ text, IsAscii char
  | .null, text, _, written => by
    rw [← Option.some.inj written]
    exact ascii_of_all (by decide)
  | .bool true, text, _, written => by
    rw [← Option.some.inj written]
    exact ascii_of_all (by decide)
  | .bool false, text, _, written => by
    rw [← Option.some.inj written]
    exact ascii_of_all (by decide)
  | .int _, text, _, written => write_int_ascii written
  | .float literal, text, ascii, written => by
    rw [← Option.some.inj written]
    exact ascii
  | .str content, text, ascii, written => by
    rw [← Option.some.inj written]
    exact write_string_ascii ascii
  | .arr [], text, _, written => by
    rw [← Option.some.inj written]
    exact ascii_of_all (by decide)
  | .arr (item :: items), text, ascii, written => by
    simp only [writeValue, Option.bind_eq_bind, Option.bind_eq_some_iff] at written
    obtain ⟨_, writtenFirst, _, writtenMore, same⟩ := written
    rw [← Option.some.inj same]
    exact ascii_cons (by decide) (ascii_append (write_value_ascii item ascii.1 writtenFirst)
      (write_items_ascii items ascii.2 writtenMore))
  | .obj [], text, _, written => by
    rw [← Option.some.inj written]
    exact ascii_of_all (by decide)
  | .obj ((key, value) :: entries), text, ascii, written => by
    simp only [writeValue, Option.bind_eq_bind, Option.bind_eq_some_iff] at written
    obtain ⟨_, writtenFirst, _, writtenMore, same⟩ := written
    rw [← Option.some.inj same]
    exact ascii_cons (by decide) (ascii_append (write_string_ascii ascii.1)
      (ascii_cons (by decide) (ascii_append (write_value_ascii value ascii.2.1 writtenFirst)
        (write_entries_ascii entries ascii.2.2 writtenMore))))

theorem write_items_ascii : ∀ (items : List JsonValue) {text : List Char}, AsciiItems items →
    writeItems items = some text → ∀ char ∈ text, IsAscii char
  | [], text, _, written => by
    rw [← Option.some.inj written]
    exact ascii_of_all (by decide)
  | item :: items, text, ascii, written => by
    simp only [writeItems, Option.bind_eq_bind, Option.bind_eq_some_iff] at written
    obtain ⟨_, writtenFirst, _, writtenMore, same⟩ := written
    rw [← Option.some.inj same]
    exact ascii_cons (by decide) (ascii_append (write_value_ascii item ascii.1 writtenFirst)
      (write_items_ascii items ascii.2 writtenMore))

theorem write_entries_ascii : ∀ (entries : JsonObject) {text : List Char}, AsciiEntries entries →
    writeEntries entries = some text → ∀ char ∈ text, IsAscii char
  | [], text, _, written => by
    rw [← Option.some.inj written]
    exact ascii_of_all (by decide)
  | (key, value) :: entries, text, ascii, written => by
    simp only [writeEntries, Option.bind_eq_bind, Option.bind_eq_some_iff] at written
    obtain ⟨_, writtenFirst, _, writtenMore, same⟩ := written
    rw [← Option.some.inj same]
    exact ascii_cons (by decide) (ascii_append (write_string_ascii ascii.1)
      (ascii_cons (by decide) (ascii_append (write_value_ascii value ascii.2.1 writtenFirst)
        (write_entries_ascii entries ascii.2.2 writtenMore))))

end

theorem ascii_hereditary :
    IsHereditary AsciiValue fun keys => ∀ key ∈ keys, ∀ char ∈ key.toList, IsAscii char where
  items _ := ascii_items_iff
  entries _ := by rw [AsciiValue, ascii_entries_iff, forall_mem_map, ← forall₂_and]
  anyOrder order keys key member := keys key (order.mem_iff.mpr member)

/-- `ensure_ascii` changes nothing where there is nothing to escape. -/
theorem dumps_ascii {value : JsonValue} (ascii : AsciiValue value) : dumpsAscii value = dumps value := by
  unfold dumpsAscii
  cases written : dumps value with
  | none => rfl
  | some text =>
    have chars := write_value_ascii (sortKeys value) (ascii_hereditary.sort_keys value ascii) written
    have kept : ∀ front : List Char, (∀ char ∈ front, IsAscii char) →
        front.flatMap asciiEscaped = front := by
      intro front asciiFront
      induction front with
      | nil => rfl
      | cons char front ih =>
        obtain ⟨here, rest⟩ := forall_mem_cons.mp asciiFront
        have single : asciiEscaped char = [char] := if_pos here
        rw [flatMap_cons, single, ih rest, singleton_append]
    rw [Option.map_some, kept text chars]

end FinanceTracker.Library.JsonText
