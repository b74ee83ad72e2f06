import Rehearsal.Number.Decimal

/-!
Dates and times, as settings files may hold them. The program only shows them, in two ways: as
plain text, and by their parts where a message shows a whole list or object.
-/

set_option autoImplicit false

namespace Rehearsal

structure Date where
  year : Nat
  month : Nat
  day : Nat
  deriving DecidableEq

structure TimeOfDay where
  hour : Nat
  minute : Nat
  second : Nat
  microsecond : Nat
  deriving DecidableEq

/-- A day, a time of day, or both, then perhaps with minutes ahead of universal time. -/
inductive Moment where
  | day (date : Date)
  | clock (time : TimeOfDay)
  | instant (date : Date) (time : TimeOfDay) (ahead : Option Int)
  deriving DecidableEq

def isLeap (year : Nat) : Bool := year % 4 == 0 && (year % 100 != 0 || year % 400 == 0)

def daysIn (year month : Nat) : Nat :=
  if month == 2 then if isLeap year then 29 else 28
  else if month == 4 || month == 6 || month == 9 || month == 11 then 30
  else 31

def Date.valid (date : Date) : Bool :=
  1 <= date.year && 1 <= date.month && date.month <= 12 && 1 <= date.day
    && date.day <= daysIn date.year date.month

def padded (width value : Nat) : String :=
  String.ofList (Number.padLeft width (Number.digits value))

def Date.text (date : Date) : String :=
  s!"{padded 4 date.year}-{padded 2 date.month}-{padded 2 date.day}"

def TimeOfDay.text (time : TimeOfDay) : String :=
  let fraction := if time.microsecond == 0 then "" else "." ++ padded 6 time.microsecond
  s!"{padded 2 time.hour}:{padded 2 time.minute}:{padded 2 time.second}" ++ fraction

def offsetText (ahead : Int) : String :=
  let size := ahead.natAbs
  (if ahead < 0 then "-" else "+") ++ padded 2 (size / 60) ++ ":" ++ padded 2 (size % 60)

def Moment.text : Moment -> String
  | .day date => date.text
  | .clock time => time.text
  | .instant date time ahead => date.text ++ " " ++ time.text ++ (ahead.map offsetText).getD ""

def commaSeparated (parts : List String) : String := ", ".intercalate parts

/-- The parts of a time; seconds and their fraction are left out when they are zero. -/
def TimeOfDay.parts (time : TimeOfDay) : List String :=
  let fine :=
    if time.microsecond != 0 then [toString time.second, toString time.microsecond]
    else if time.second != 0 then [toString time.second]
    else []
  toString time.hour :: toString time.minute :: fine

def Date.parts (date : Date) : List String :=
  [toString date.year, toString date.month, toString date.day]

/-- An offset is shown as whole days and the seconds after them. -/
def zoneParts (ahead : Int) : String :=
  if ahead == 0 then "datetime.timezone.utc"
  else
    let days := if ahead < 0 then "days=-1, " else ""
    let seconds := if ahead < 0 then (ahead + 1440) * 60 else ahead * 60
    s!"datetime.timezone(datetime.timedelta({days}seconds={seconds}))"

def Moment.byParts : Moment -> String
  | .day date => s!"datetime.date({commaSeparated date.parts})"
  | .clock time => s!"datetime.time({commaSeparated time.parts})"
  | .instant date time ahead =>
    let zone := (ahead.map fun minutes => "tzinfo=" ++ zoneParts minutes).toList
    s!"datetime.datetime({commaSeparated (date.parts ++ time.parts ++ zone)})"

end Rehearsal
