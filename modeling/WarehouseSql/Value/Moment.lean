import WarehouseSql.Text.Blank
import WarehouseSql.Value.Basic

/-!
Moments without a time zone: read from their ISO form or from seconds since 1970, and written for a statement.
-/

namespace WarehouseSql

/-- A day of the Gregorian calendar and a time on it. -/
structure Moment where
  year : Int
  month : Nat
  day : Nat
  hour : Nat
  minute : Nat
  second : Nat
deriving DecidableEq

namespace Moment

/-! ### writing -/

/-- A number with at least as many digits as told. -/
def padded (width n : Nat) : String :=
  let digits := Decimal.digits n
  String.ofList (List.replicate (width - digits.length) '0' ++ digits)

/-- A year with at least four digits, signed outside of the years 0 to 9999. -/
def yearText (year : Int) : String :=
  if 0 ≤ year ∧ year ≤ 9999 then padded 4 year.toNat
  else (if year < 0 then "-" else "+") ++ padded 4 year.natAbs

/-- Day and time, separated by a space. -/
def text (m : Moment) : String :=
  yearText m.year ++ "-" ++ padded 2 m.month ++ "-" ++ padded 2 m.day ++ " " ++ padded 2 m.hour ++ ":"
    ++ padded 2 m.minute ++ ":" ++ padded 2 m.second

/-! ### reading -/

/-- Whether a year has a 29th of February. -/
def isLeapYear (year : Int) : Bool := year % 4 == 0 && (year % 100 != 0 || year % 400 == 0)

def daysInMonth (year : Int) (month : Nat) : Nat :=
  if month = 2 then if isLeapYear year then 29 else 28
  else if [4, 6, 9, 11].contains month then 30
  else 31

def firstYear : Int := -262143

def lastYear : Int := 262142

/-- The moment with these parts, if there is one; a minute may have a leap second. -/
def mk? (year : Int) (month day hour minute second : Nat) : Option Moment :=
  if firstYear ≤ year ∧ year ≤ lastYear ∧ 1 ≤ month ∧ month ≤ 12 ∧ 1 ≤ day ∧ day ≤ daysInMonth year month
      ∧ hour < 24 ∧ minute < 60 ∧ second ≤ 60 then
    some ⟨year, month, day, hour, minute, second⟩
  else none

/-- The number that the digits in front denote, at most `most` of them, and what follows; there has to be a digit. -/
def cutNumber? (most : Nat) (cs : List Char) : Option (Nat × List Char) :=
  let ds := (cs.take most).takeWhile Char.isDigit
  if ds.isEmpty then none else some (Decimal.ofDigits ds, cs.drop ds.length)

/-- A year, which blanks may precede: four digits at most, or a sign and any number of digits. -/
def cutYear? (cs : List Char) : Option (Int × List Char) :=
  match Text.trimStartChars cs with
  | '-' :: cs => (cutNumber? cs.length cs).map fun (n, rest) => (-(n : Int), rest)
  | '+' :: cs => (cutNumber? cs.length cs).map fun (n, rest) => ((n : Int), rest)
  | cs => (cutNumber? 4 cs).map fun (n, rest) => ((n : Int), rest)

/-- A number of at most two digits, which blanks may precede. -/
def cutPair? (cs : List Char) : Option (Nat × List Char) := cutNumber? 2 (Text.trimStartChars cs)

/-- What follows a mark, which blanks may precede. -/
def afterMark? (mark : Char) (cs : List Char) : Option (List Char) :=
  match Text.trimStartChars cs with
  | c :: cs => if c = mark then some cs else none
  | [] => none

/-- What follows a fraction of a second; a moment does not keep it. -/
def afterFraction? : List Char → Option (List Char)
  | '.' :: cs => if (cs.takeWhile Char.isDigit).isEmpty then none else some (cs.dropWhile Char.isDigit)
  | cs => some cs

/-- Year, month and day with dashes between them, and what follows. -/
def cutDate? (cs : List Char) : Option ((Int × Nat × Nat) × List Char) := do
  let (year, cs) ← cutYear? cs
  let (month, cs) ← cutPair? (← afterMark? '-' cs)
  let (day, cs) ← cutPair? (← afterMark? '-' cs)
  some ((year, month, day), cs)

/-- Hour, minute and second with colons between them, and what follows. -/
def cutTime? (cs : List Char) : Option ((Nat × Nat × Nat) × List Char) := do
  let (hour, cs) ← cutPair? cs
  let (minute, cs) ← cutPair? (← afterMark? ':' cs)
  let (second, cs) ← cutPair? (← afterMark? ':' cs)
  some ((hour, minute, second), ← afterFraction? cs)

/-- The start of a day in its ISO form; blanks may stand around its parts. -/
def ofDate? (text : String) : Option Moment := do
  let ((year, month, day), rest) ← cutDate? text.toList
  if rest.all Text.isBlank then mk? year month day 0 0 0 else none

/-- Day and time in their ISO form; blanks may stand around their parts. -/
def ofDateTime? (text : String) : Option Moment := do
  let ((year, month, day), cs) ← cutDate? text.toList
  let ((hour, minute, second), rest) ← cutTime? (← afterMark? 'T' cs)
  if rest.all Text.isBlank then mk? year month day hour minute second else none

/-- The day that lies some days after the first of March of the year 0; years begin in March, so that the day that
some years lack is the last of its year. -/
def dayOfCount (days : Int) : Int × Nat × Nat :=
  let era := days.fdiv 146097
  let dayOfEra := (days.fmod 146097).toNat
  let yearOfEra := (dayOfEra - dayOfEra / 1460 + dayOfEra / 36524 - dayOfEra / 146096) / 365
  let dayOfYear := dayOfEra - (365 * yearOfEra + yearOfEra / 4 - yearOfEra / 100)
  let shifted := (5 * dayOfYear + 2) / 153
  let day := dayOfYear - (153 * shifted + 2) / 5 + 1
  let month := if shifted < 10 then shifted + 3 else shifted - 9
  let year := era * 400 + yearOfEra + (if month ≤ 2 then 1 else 0)
  (year, month, day)

/-- The moment some seconds after the start of 1970, in universal time, if its year has moments. -/
def ofUnixSeconds? (seconds : Int) : Option Moment :=
  let (year, month, day) := dayOfCount (seconds.fdiv 86400 + 719468)
  let time := (seconds.fmod 86400).toNat
  mk? year month day (time / 3600) (time / 60 % 60) (time % 60)

end Moment

end WarehouseSql
