import FinanceTracker.Library.Calendar

/-!
# Dates as texts

The calendar format of ISO 8601, `YYYY-MM-DD`: what `isoformat` writes and a reader
of just that format, which gives every date back; and `date.fromisoformat` of Python
3.11, which also reads the basic and the week formats.
-/

namespace FinanceTracker.Library.DateText

open Calendar

def twoDigits (number : Nat) : List Char :=
  [Nat.digitChar (number / 10), Nat.digitChar (number % 10)]

def isoformat (date : Date) : String :=
  String.ofList (twoDigits (date.year.toNat / 100) ++ (twoDigits (date.year.toNat % 100) ++
    '-' :: (twoDigits date.month.toNat ++ '-' :: twoDigits date.day.toNat)))

def readTwoDigits : List Char → Option (Nat × List Char)
  | tens :: ones :: rest =>
    if tens.isDigit && ones.isDigit then some (Nat.ofDigitChars 10 [tens, ones] 0, rest) else none
  | _ => none

def readDash : List Char → Option (List Char)
  | '-' :: rest => some rest
  | _ => none

def readCalendarDate (text : String) : Option Date := do
  let (century, rest) ← readTwoDigits text.toList
  let (year, rest) ← readTwoDigits rest
  let rest ← readDash rest
  let (month, rest) ← readTwoDigits rest
  let rest ← readDash rest
  let (day, rest) ← readTwoDigits rest
  if rest = [] then Date.ofFields (100 * century + year : Nat) month day else none

theorem read_two_digits {number : Nat} (short : number < 100) (rest : List Char) :
    readTwoDigits (twoDigits number ++ rest) = some (number, rest) := by
  have tens : number / 10 < 10 := by omega
  have ones : number % 10 < 10 := by omega
  have value : Nat.ofDigitChars 10 (twoDigits number) 0 = number := by
    unfold twoDigits
    rw [Nat.ofDigitChars_cons_digitChar_of_lt_ten tens,
      Nat.ofDigitChars_cons_digitChar_of_lt_ten ones, Nat.ofDigitChars_nil]
    omega
  change (if _ then some (Nat.ofDigitChars 10 (twoDigits number) 0, rest) else none) = _
  rw [if_pos (by simp [tens, ones]), value]

theorem read_isoformat (date : Date) : readCalendarDate (isoformat date) = some date := by
  obtain ⟨lowYear, highYear, _, _, _, _⟩ := date.valid
  have length : daysInMonth date.year date.month ≤ 31 := by
    unfold daysInMonth
    split_ifs <;> omega
  unfold minYear at lowYear
  unfold maxYear at highYear
  have century := @read_two_digits (date.year.toNat / 100) (by omega)
  have year := @read_two_digits (date.year.toNat % 100) (by omega)
  have month := @read_two_digits date.month.toNat (by omega)
  have day := @read_two_digits date.day.toNat (by omega) []
  rw [List.append_nil] at day
  unfold readCalendarDate isoformat
  rw [String.toList_ofList, century]
  simp only [Option.bind_eq_bind, Option.bind_some, year, readDash, month, day, if_true]
  rw [of_fields_eq_some]
  omega

/-- The ASCII digits in front, as many as asked for. -/
def readDigits : Nat → List Char → Option (Nat × List Char)
  | 0, chars => some (0, chars)
  | count + 1, char :: chars =>
    if char.isDigit then do
      let (value, rest) ← readDigits count chars
      some ((char.toNat - '0'.toNat) * 10 ^ count + value, rest)
    else none
  | _ + 1, [] => none

/-- A dash where the text separates its parts. -/
def readSeparator (separated : Bool) (chars : List Char) : Option (List Char) :=
  if separated then readDash chars else some chars

def firstWeekday (year : Int) : Int := (daysBeforeYear year + 1 + 6) % 7

def weeksInYear (year : Int) : Int :=
  if firstWeekday year = 3 ∨ (firstWeekday year = 2 ∧ isLeap year) then 53 else 52

def firstMonday (year : Int) : Int :=
  if 3 < firstWeekday year then 7 - firstWeekday year else -firstWeekday year

def daysInYear (year : Int) : Int := if isLeap year then 366 else 365

def monthOfDay (year day : Int) : Int :=
  ((List.range 12).filter fun before : Nat => daysBeforeMonth year ((before : Int) + 1) < day).length

def dateOfDay (year day : Int) : Option Date :=
  let month := monthOfDay year day
  Date.ofFields year month (day - daysBeforeMonth year month)

def dateNearYear (year day : Int) : Option Date :=
  if day < 1 then dateOfDay (year - 1) (day + daysInYear (year - 1))
  else if daysInYear year < day then dateOfDay (year + 1) (day - daysInYear year)
  else dateOfDay year day

/-- `iso_to_ymd`. -/
def dateOfWeek (year week day : Int) : Option Date :=
  if minYear ≤ year ∧ year ≤ maxYear ∧ 1 ≤ week ∧ week ≤ weeksInYear year ∧ 1 ≤ day ∧ day ≤ 7 then
    dateNearYear year (firstMonday year + (week - 1) * 7 + day)
  else none

/-- `parse_isoformat_date`: it stops after the day and does not look at what follows. -/
def readIsoDate (chars : List Char) : Option Date := do
  let (year, rest) ← readDigits 4 chars
  let separated := rest.head? = some '-'
  let rest := if separated then rest.tail else rest
  if rest.head? = some 'W' then do
    let (week, rest) ← readDigits 2 rest.tail
    if rest = [] then dateOfWeek year week 1
    else do
      let rest ← readSeparator separated rest
      let (day, _) ← readDigits 1 rest
      dateOfWeek year week day
  else do
    let (month, rest) ← readDigits 2 rest
    let rest ← readSeparator separated rest
    let (day, _) ← readDigits 2 rest
    Date.ofFields year month day

/-- `date.fromisoformat(text)`; none where it raises. -/
def fromIsoformat (text : String) : Option Date :=
  if text.utf8ByteSize = 7 ∨ text.utf8ByteSize = 8 ∨ text.utf8ByteSize = 10 then
    readIsoDate text.toList
  else none

end FinanceTracker.Library.DateText
