/-! # The proleptic Gregorian calendar

`dayNumber year month day` counts days from 1970-01-01, for any integer year and for years
before 1 counted astronomically.  The year is taken to begin in March, so that the leap day is
its last; a day number past the end of its month runs on into the next one. -/

namespace TelemetryExport
namespace Calendar

/-- Months counted from March, and the year in which that March stands. -/
def marchYear (year : Int) (month : Nat) : Int × Nat :=
  if month ≤ 2 then (year - 1, month + 9) else (year, month - 3)

/-- Days from the beginning of a year that begins in March to that of its month. -/
def daysBeforeMonth (monthFromMarch : Nat) : Nat := (153 * monthFromMarch + 2) / 5

def daysBeforeYear (year : Int) : Int :=
  365 * year + year / 4 - year / 100 + year / 400

/-- `dayNumber` of the first day counted by `daysBeforeYear`, 0000-03-01. -/
def firstDay : Int := -719468

def dayNumber (year : Int) (month day : Nat) : Int :=
  let (y, m) := marchYear year month
  firstDay + daysBeforeYear y + daysBeforeMonth m + (day - 1 : Int)

def isLeap (year : Int) : Bool := year % 4 == 0 && (year % 100 != 0 || year % 400 == 0)

def daysInMonth (year : Int) (month : Nat) : Nat :=
  if month = 2 then (if isLeap year then 29 else 28)
  else if month = 4 ∨ month = 6 ∨ month = 9 ∨ month = 11 then 30
  else 31

def secondsPerDay : Int := 86400

end Calendar
end TelemetryExport
