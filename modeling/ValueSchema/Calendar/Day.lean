/-!
Calendar dates and day numbers in the proleptic Gregorian calendar.

Day 0 is 1 January 1970. Years are counted from March inside cycles of 400 years, so the leap day is the last of its year
and both directions are closed formulas.
-/

namespace ValueSchema

/-- a year, month and day of the month -/
structure CalendarDate where
  year : Int
  month : Nat
  day : Nat
  deriving DecidableEq

namespace CalendarDate

def isLeapYear (year : Int) : Bool := year % 4 == 0 && (year % 100 != 0 || year % 400 == 0)

def daysInMonth (year : Int) (month : Nat) : Nat :=
  if month = 2 then (if isLeapYear year then 29 else 28)
  else if month = 4 ∨ month = 6 ∨ month = 9 ∨ month = 11 then 30
  else 31

/-- first and last year that dates can have -/
def firstYear : Int := -262143

def lastYear : Int := 262142

/-- a day that exists, in a year that dates can have -/
def isValid (d : CalendarDate) : Bool :=
  firstYear ≤ d.year && d.year ≤ lastYear && 1 ≤ d.month && d.month ≤ 12 && 1 ≤ d.day && d.day ≤ daysInMonth d.year d.month

/-- days since 1 January 1970 -/
def dayNumber (d : CalendarDate) : Int :=
  let y : Int := if d.month ≤ 2 then d.year - 1 else d.year
  let cycle := y / 400
  let yearOfCycle := y - cycle * 400
  let monthFromMarch : Int := if d.month ≤ 2 then (d.month : Int) + 9 else (d.month : Int) - 3
  let dayOfYear := (153 * monthFromMarch + 2) / 5 + d.day - 1
  let dayOfCycle := yearOfCycle * 365 + yearOfCycle / 4 - yearOfCycle / 100 + dayOfYear
  cycle * 146097 + dayOfCycle - 719468

/-- the date of a day number -/
def ofDayNumber (n : Int) : CalendarDate :=
  let z := n + 719468
  let cycle := z / 146097
  let dayOfCycle := z - cycle * 146097
  let yearOfCycle := (dayOfCycle - dayOfCycle / 1460 + dayOfCycle / 36524 - dayOfCycle / 146096) / 365
  let dayOfYear := dayOfCycle - (365 * yearOfCycle + yearOfCycle / 4 - yearOfCycle / 100)
  let monthFromMarch := (5 * dayOfYear + 2) / 153
  let day := dayOfYear - (153 * monthFromMarch + 2) / 5 + 1
  let month := if monthFromMarch < 10 then monthFromMarch + 3 else monthFromMarch - 9
  let year := yearOfCycle + cycle * 400
  ⟨if month ≤ 2 then year + 1 else year, month.toNat, day.toNat⟩

/-- day of the week, Monday being 0; day 0 was a Thursday -/
def weekday (n : Int) : Nat := ((n + 3) % 7).toNat

/-- day numbers of the first and last day that dates can have -/
def firstDay : Int := -96465292

def lastDay : Int := 95026236

theorem dayNumber_first : dayNumber ⟨firstYear, 1, 1⟩ = firstDay := by decide

theorem dayNumber_last : dayNumber ⟨lastYear, 12, 31⟩ = lastDay := by decide

end CalendarDate

end ValueSchema
