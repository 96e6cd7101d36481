import Mathlib.Data.List.Basic

/-!
# Decoding octets

The strict codecs `utf-8`, `utf-8-sig` and `windows-1252`. Each gives none where it
raises `UnicodeDecodeError`.
-/

namespace FinanceTracker.Library.Decoding

def decodeUtf8 (content : ByteArray) : Option String := String.fromUTF8? content

def byteOrderMark : Char := '\ufeff'

def dropMark (text : String) : String :=
  match text.toList with
  | [] => ""
  | char :: rest => if char = byteOrderMark then String.ofList rest else text

def decodeUtf8Sig (content : ByteArray) : Option String := (decodeUtf8 content).map dropMark

/-- The characters of the octets from 0x80 to 0x9f; five have none. -/
def windows1252Specials : List (Option Char) :=
  [some '€', none, some '‚', some 'ƒ', some '„', some '…', some '†', some '‡', some 'ˆ', some '‰',
    some 'Š', some '‹', some 'Œ', none, some 'Ž', none, none, some '‘', some '’', some '“',
    some '”', some '•', some '–', some '—', some '˜', some '™', some 'š', some '›', some 'œ',
    none, some 'ž', some 'Ÿ']

def windows1252Char (octet : UInt8) : Option Char :=
  if 0x80 ≤ octet ∧ octet ≤ 0x9f then
    (windows1252Specials[octet.toNat - 0x80]?).join
  else some (Char.ofNat octet.toNat)

def decodeWindows1252 (content : ByteArray) : Option String :=
  (content.toList.mapM windows1252Char).map String.ofList

theorem decode_utf8_text (text : String) : decodeUtf8 text.toUTF8 = some text := by
  have valid : text.toUTF8.IsValidUTF8 := text.isValidUTF8
  unfold decodeUtf8 String.fromUTF8?
  rw [dif_pos valid]
  rfl

theorem decode_utf8_sig_text {text : String} (unmarked : text.toList.head? ≠ some byteOrderMark) :
    decodeUtf8Sig text.toUTF8 = some text := by
  unfold decodeUtf8Sig
  rw [decode_utf8_text, Option.map_some, dropMark]
  congr 1
  cases chars : text.toList with
  | nil =>
    have empty := congrArg String.ofList chars
    rw [String.ofList_toList] at empty
    exact empty.symm
  | cons =>
    rw [chars, List.head?_cons] at unmarked
    exact if_neg fun same => unmarked (congrArg some same)

end FinanceTracker.Library.Decoding
