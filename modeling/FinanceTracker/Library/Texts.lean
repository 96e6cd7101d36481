import Mathlib.Data.List.DropRight

/-!
# Texts

The character classes of Python's strings and what `strip` leaves of a text. The
tables are those of Unicode 14, which Python 3.11 uses: the whitespace, the zero of
each run of ten decimal digits, and the other characters that `isdigit` accepts.
-/

namespace FinanceTracker.Library.Texts

open List

def inRanges (ranges : List (Nat × Nat)) (char : Char) : Bool :=
  ranges.any fun range => range.1 ≤ char.toNat && char.toNat ≤ range.2

def isSpace (char : Char) : Bool :=
  inRanges [(0x9, 0xd), (0x1c, 0x20), (0x85, 0x85), (0xa0, 0xa0), (0x1680, 0x1680),
    (0x2000, 0x200a), (0x2028, 0x2029), (0x202f, 0x202f), (0x205f, 0x205f), (0x3000, 0x3000)] char

def decimalZeros : List Nat :=
  [0x30, 0x660, 0x6f0, 0x7c0, 0x966, 0x9e6, 0xa66, 0xae6, 0xb66, 0xbe6, 0xc66, 0xce6, 0xd66,
    0xde6, 0xe50, 0xed0, 0xf20, 0x1040, 0x1090, 0x17e0, 0x1810, 0x1946, 0x19d0, 0x1a80, 0x1a90,
    0x1b50, 0x1bb0, 0x1c40, 0x1c50, 0xa620, 0xa8d0, 0xa900, 0xa9d0, 0xa9f0, 0xaa50, 0xabf0,
    0xff10, 0x104a0, 0x10d30, 0x11066, 0x110f0, 0x11136, 0x111d0, 0x112f0, 0x11450, 0x114d0,
    0x11650, 0x116c0, 0x11730, 0x118e0, 0x11950, 0x11c50, 0x11d50, 0x11da0, 0x16a60, 0x16ac0,
    0x16b50, 0x1d7ce, 0x1d7d8, 0x1d7e2, 0x1d7ec, 0x1d7f6, 0x1e140, 0x1e2f0, 0x1e950, 0x1fbf0]

def decimalDigit (char : Char) : Option Nat :=
  (decimalZeros.find? fun first => first ≤ char.toNat && char.toNat ≤ first + 9).map
    (char.toNat - ·)

def isDigit (char : Char) : Bool :=
  (decimalDigit char).isSome ||
    inRanges [(0xb2, 0xb3), (0xb9, 0xb9), (0x1369, 0x1371), (0x19da, 0x19da), (0x2070, 0x2070),
      (0x2074, 0x2079), (0x2080, 0x2089), (0x2460, 0x2468), (0x2474, 0x247c), (0x2488, 0x2490),
      (0x24ea, 0x24ea), (0x24f5, 0x24fd), (0x24ff, 0x24ff), (0x2776, 0x277e), (0x2780, 0x2788),
      (0x278a, 0x2792), (0x10a40, 0x10a43), (0x10e60, 0x10e68), (0x11052, 0x1105a),
      (0x1f100, 0x1f10a)] char

def strip (text : String) : String :=
  String.ofList ((text.toList.dropWhile isSpace).rdropWhile isSpace)

theorem drop_of_stripped (chars : List Char) (test : Char → Bool) :
    ((chars.dropWhile test).rdropWhile test).dropWhile test =
      (chars.dropWhile test).rdropWhile test := by
  rw [dropWhile_eq_self_iff]
  intro nonempty
  have before := rdropWhile_prefix test (chars.dropWhile test)
  rw [before.getElem nonempty]
  exact dropWhile_get_zero_not test chars _

theorem strip_idempotent (text : String) : strip (strip text) = strip text := by
  unfold strip
  rw [String.toList_ofList, drop_of_stripped, rdropWhile_idempotent]

theorem strip_empty : strip "" = "" := rfl

theorem strip_padded {before chars after : List Char} (left : ∀ char ∈ before, isSpace char = true)
    (plain : ∀ char ∈ chars, isSpace char = false) (right : ∀ char ∈ after, isSpace char = true)
    (nonempty : chars ≠ []) :
    strip (String.ofList (before ++ (chars ++ after))) = String.ofList chars := by
  have front : (chars ++ after).dropWhile isSpace = chars ++ after := by
    cases chars with
    | nil => exact absurd rfl nonempty
    | cons char chars => simp [plain char mem_cons_self]
  have back : (after.reverse ++ chars.reverse).dropWhile isSpace = chars.reverse := by
    rw [dropWhile_append_of_pos fun char member => right char (mem_reverse.mp member),
      dropWhile_eq_self_iff]
    intro inside
    rw [plain _ (mem_reverse.mp (getElem_mem inside))]
    decide
  unfold strip
  rw [String.toList_ofList, dropWhile_append_of_pos left, front, List.rdropWhile,
    reverse_append, back, reverse_reverse]

theorem strip_plain {chars : List Char} (plain : ∀ char ∈ chars, isSpace char = false) :
    (strip (String.ofList chars)).toList = chars := by
  by_cases empty : chars = []
  · subst empty
    rfl
  · have padded := @strip_padded [] chars [] (by simp) plain (by simp) empty
    rw [nil_append, append_nil] at padded
    rw [padded, String.toList_ofList]

/-- Digits with single underscores between them. -/
def digitGroups (digit : Char → Option Nat) : List Char → Option (List Nat)
  | [] => none
  | [char] => (digit char).map fun value => [value]
  | char :: '_' :: rest => do some ((← digit char) :: (← digitGroups digit rest))
  | char :: rest => do some ((← digit char) :: (← digitGroups digit rest))

/-- `sys.get_int_max_str_digits()`. -/
def maxStrDigits : Nat := 4300

def magnitude (digit : Char → Option Nat) (chars : List Char) : Option Nat :=
  (digitGroups digit chars).bind fun digits =>
    if maxStrDigits < digits.length then none
    else some (digits.foldl (fun value next => value * 10 + next) 0)

/-- The integer that a text denotes, with the spaces around it left out. -/
def readInteger (space : Char → Bool) (digit : Char → Option Nat) (chars : List Char) :
    Option Int :=
  match (chars.dropWhile space).rdropWhile space with
  | '-' :: rest => (magnitude digit rest).map fun value => -(value : Int)
  | '+' :: rest => (magnitude digit rest).map Int.ofNat
  | rest => (magnitude digit rest).map Int.ofNat

def isByteSpace (char : Char) : Bool := inRanges [(0x9, 0xd), (0x20, 0x20)] char

/-- The spaces that `int` skips: of ASCII only those of C. -/
def isIntSpace (char : Char) : Bool :=
  isByteSpace char || (0x7f ≤ char.toNat && isSpace char)

/-- `int(text)`; none where it raises. -/
def intOfText (text : String) : Option Int := readInteger isIntSpace decimalDigit text.toList

def byteDigit (char : Char) : Option Nat :=
  if inRanges [(0x30, 0x39)] char then some (char.toNat - 0x30) else none

/-- `int(octets)`; none where it raises. -/
def intOfBytes (octets : List UInt8) : Option Int :=
  readInteger isByteSpace byteDigit (octets.map fun octet => Char.ofNat octet.toNat)

end FinanceTracker.Library.Texts
