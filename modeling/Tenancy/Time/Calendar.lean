/-!
# The calendar

Days are counted from 1970-01-01 and named by the proleptic Gregorian calendar, with a year zero and
negative years before it. Years are counted here from 1 March, so that the leap day is the last day
of its year; a day is then found by taking off whole cycles of 400, 100, 4 and 1 years.
-/

namespace Tenancy

/-- A day by its name: the year, the month from 1 to 12 and the day of the month. -/
structure CivilDate where
  year : Int
  month : Nat
  day : Nat
  deriving DecidableEq, Repr, Inhabited

namespace CivilDate

/-- Every fourth year has a leap day, but of the full centuries only every fourth. -/
def isLeapYear (year : Int) : Bool :=
  year % 4 == 0 && (year % 100 != 0 || year % 400 == 0)

def daysInMonth (year : Int) (month : Nat) : Nat :=
  if month == 2 then (if isLeapYear year then 29 else 28)
  else if month == 4 || month == 6 || month == 9 || month == 11 then 30
  else 31

def exists? (date : CivilDate) : Bool :=
  1 ≤ date.month && date.month ≤ 12 && 1 ≤ date.day &&
    date.day ≤ daysInMonth date.year date.month

/-- Days from 1 March of the year zero to 1 January 1970. -/
def epochShift : Int := 719468

/-- The days before a month of the year that begins with March; March has the number 0. -/
def daysBeforeMonth (month : Nat) : Nat :=
  (153 * month + 2) / 5

/-- The number of days from 1970-01-01 to a date. -/
def toDayNumber (date : CivilDate) : Int :=
  let year := if date.month ≤ 2 then date.year - 1 else date.year
  let month := if date.month ≤ 2 then date.month + 9 else date.month - 3
  let yearOfCycle := (year % 400).toNat
  let day := yearOfCycle * 365 + yearOfCycle / 4 - yearOfCycle / 100 +
    (daysBeforeMonth month + date.day - 1)
  year / 400 * 146097 + day - epochShift

/-- The date that lies a number of days after 1970-01-01. -/
def ofDayNumber (number : Int) : CivilDate :=
  let shifted := number + epochShift
  let dayOfCycle := (shifted % 146097).toNat
  let century := min (dayOfCycle / 36524) 3
  let dayOfCentury := dayOfCycle - century * 36524
  let quad := dayOfCentury / 1461
  let dayOfQuad := dayOfCentury - quad * 1461
  let yearOfQuad := min (dayOfQuad / 365) 3
  let dayOfYear := dayOfQuad - yearOfQuad * 365
  let month := (5 * dayOfYear + 2) / 153
  let year := shifted / 146097 * 400 + (century * 100 + quad * 4 + yearOfQuad : Nat)
  { year := if month < 10 then year else year + 1
    month := if month < 10 then month + 3 else month - 9
    day := dayOfYear - daysBeforeMonth month + 1 }

end CivilDate

end Tenancy
