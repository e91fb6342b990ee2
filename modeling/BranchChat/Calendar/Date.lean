/-!
# Dates

Days of the proleptic Gregorian calendar, with a year zero. A date carries the proof that it is in
the calendar, so its neighbours are found by asking for the day after, the month after or the year
after, whichever of them exists.

## Main definitions

- `Date`: a day
- `Date.of?`: the day of a year, month and number
- `Date.next?`, `Date.previous?`: the neighbouring days
- `Date.text`: year, month and day
- `dayText`: the same text for a number of days since 1970-01-01
-/

namespace BranchChat.Calendar

/-- Every fourth year, except three in each four hundred. -/
def isLeapYear (year : Int) : Bool :=
  year % 4 == 0 && (year % 100 != 0 || year % 400 == 0)

/-- The number of days of a month. -/
def daysIn (year : Int) (month : Nat) : Nat :=
  if month = 2 then if isLeapYear year then 29 else 28
  else if month = 4 ∨ month = 6 ∨ month = 9 ∨ month = 11 then 30
  else 31

/-- The first year that can be represented. -/
def firstYear : Int := -262143

/-- The last year that can be represented. -/
def lastYear : Int := 262142

/-- A day of the calendar. -/
structure Date where
  year : Int
  month : Nat
  day : Nat
  inCalendar : (firstYear ≤ year ∧ year ≤ lastYear) ∧ (1 ≤ month ∧ month ≤ 12) ∧
    1 ≤ day ∧ day ≤ daysIn year month
deriving DecidableEq

namespace Date

/-- The day with these numbers, if the calendar has it. -/
def of? (year : Int) (month day : Nat) : Option Date :=
  if h : (firstYear ≤ year ∧ year ≤ lastYear) ∧ (1 ≤ month ∧ month ≤ 12) ∧
      1 ≤ day ∧ day ≤ daysIn year month then
    some ⟨year, month, day, h⟩
  else none

/-- The day after. -/
def next? (d : Date) : Option Date :=
  of? d.year d.month (d.day + 1) <|> of? d.year (d.month + 1) 1 <|> of? (d.year + 1) 1 1

/-- The day before. -/
def previous? (d : Date) : Option Date :=
  of? d.year d.month (d.day - 1) <|> of? d.year (d.month - 1) (daysIn d.year (d.month - 1)) <|>
    of? (d.year - 1) 12 31

end Date

/-- A number in decimal digits, with zeros in front up to a width. -/
def padded (width n : Nat) : String :=
  let digits := toString n
  String.ofList (List.replicate (width - digits.length) '0') ++ digits

/-- A year has four digits; outside 0 to 9999 it has a sign, too. -/
def yearText (year : Int) : String :=
  if 0 ≤ year ∧ year ≤ 9999 then padded 4 year.toNat
  else (if year < 0 then "-" else "+") ++ padded 4 year.natAbs

/-- Year, month and day. -/
def dateText (year : Int) (month day : Nat) : String :=
  yearText year ++ "-" ++ padded 2 month ++ "-" ++ padded 2 day

/-- Year, month and day of a date. -/
def Date.text (d : Date) : String :=
  dateText d.year d.month d.day

/-- The year, month and day that lie a number of days after 1970-01-01. Days are counted from the
first of March of a year divisible by 400, so that leap days come last in their years. -/
def civilDay (days : Int) : Int × Nat × Nat :=
  let shifted := days + 719468
  let era := shifted.fdiv 146097
  let dayOfEra := (shifted.fmod 146097).toNat
  let yearOfEra := (dayOfEra - dayOfEra / 1460 + dayOfEra / 36524 - dayOfEra / 146096) / 365
  let dayOfYear := dayOfEra - (365 * yearOfEra + yearOfEra / 4 - yearOfEra / 100)
  let fromMarch := (5 * dayOfYear + 2) / 153
  let day := dayOfYear - (153 * fromMarch + 2) / 5 + 1
  let month := if fromMarch < 10 then fromMarch + 3 else fromMarch - 9
  let year := era * 400 + yearOfEra
  (if month ≤ 2 then year + 1 else year, month, day)

/-- The text of the day that lies a number of days after 1970-01-01. -/
def dayText (days : Int) : String :=
  let (year, month, day) := civilDay days
  dateText year month day

end BranchChat.Calendar
