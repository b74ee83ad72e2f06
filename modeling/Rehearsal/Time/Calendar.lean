/-!
The calendar as a count of seconds. Zero is the beginning of 1970 in universal time; days that a
month does not have are counted into the months that follow.
-/

set_option autoImplicit false

namespace Rehearsal.Calendar

/-- Days before a year, counted from the year 1. -/
def daysBeforeYear (year : Int) : Int :=
  let years := year - 1
  365 * years + years / 4 - years / 100 + years / 400

def isLeapYear (year : Int) : Bool := daysBeforeYear (year + 1) - daysBeforeYear year == 366

def daysBeforeMonth (year : Int) (month : Nat) : Int :=
  let before := ([0, 31, 59, 90, 120, 151, 181, 212, 243, 273, 304, 334] : List Int)
  let days := before.getD (month - 1) 0
  if isLeapYear year && 2 < month then days + 1 else days

/-- Days from the beginning of 1970. -/
def dayNumber (year : Int) (month day : Nat) : Int :=
  daysBeforeYear year + daysBeforeMonth year month + day - 1 - daysBeforeYear 1970

def secondsOfDay : Int := 86400

def second (year : Int) (month day hour minute sec : Nat) : Int :=
  dayNumber year month day * secondsOfDay + hour * 3600 + minute * 60 + sec

/-- The year that a second lies in. The average length of a year gives it, or the next one. -/
def yearOf (second : Int) : Int :=
  let day := second / secondsOfDay
  let near := 1970 + day * 400 / 146097
  if dayNumber (near + 1) 1 1 <= day then near + 1
  else if day < dayNumber near 1 1 then near - 1
  else near

end Rehearsal.Calendar
