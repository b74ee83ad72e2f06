import Rehearsal.Number.Numeral
import Rehearsal.Text.Blank
import Rehearsal.Time.Calendar

/-!
The dates that cookies expire at. They are written in two ways: strictly, as servers should, or
loosely, with parts left out and any of several marks between the others.
-/

set_option autoImplicit false

namespace Rehearsal.Http.Cookie

/-- A header that cannot be read at all; no cookie of the reply is kept then. -/
structure Unreadable where

def monthNames : List String :=
  ["jan", "feb", "mar", "apr", "may", "jun", "jul", "aug", "sep", "oct", "nov", "dec"]

def dayNames : List String := ["sun", "mon", "tue", "wed", "thu", "fri", "sat"]

def lowerWord (word : List Char) : String := String.ofList (word.map Char.toLower)

/-- Months count from one. -/
def namedMonth? (word : List Char) : Option Nat :=
  (monthNames.idxOf? (lowerWord word)).map (· + 1)

structure Clock where
  hour : Nat
  minute : Nat
  second : Nat

/-- A leap second may be given twice. -/
def instant? (year : Int) (month day : Nat) (clock : Clock) : Option Int :=
  if 1970 <= year && 1 <= month && month <= 12 && 1 <= day && day <= 31 && clock.hour <= 24
      && clock.minute <= 59 && clock.second <= 61 then
    some (Calendar.second year month day clock.hour clock.minute clock.second)
  else none

/-! ## Strict dates -/

/-- The parts of a text between single marks, if it has as many as there are sizes. -/
def fits (sizes : List Nat) (parts : List (List Char)) : Bool := parts.map List.length == sizes

def isCapitalized (initials : List Char) : List Char -> Bool
  | c :: rest => initials.contains c && rest.all Char.isLower
  | [] => false

/-- The words of a strict date: the name of the day, the day, the month, the year, the clock. -/
def strictParts? (text : List Char) : Option (List (List Char)) :=
  match text.splitOn ' ' with
  | [name, day, month, year, clock, ['G', 'M', 'T']] =>
    let times := clock.splitOn ':'
    let numbers := day :: year :: times
    if fits [4, 2, 3, 4] [name, day, month, year] && fits [2, 2, 2] times
        && name.getLast? == some ',' && isCapitalized "SMTWF".toList name.dropLast
        && isCapitalized "JFMASOND".toList month && numbers.all (·.all Char.isDigit) then
      some (month :: numbers)
    else none
  | _ => none

/-- A strict date names one of the twelve months. -/
def readStrict (parts : List (List Char)) : Except Unreadable (Option Int) :=
  match parts with
  | month :: numbers =>
    match namedMonth? month, numbers.map Number.digitsValue with
    | some month, [day, year, hour, minute, second] =>
      .ok (instant? year month day { hour, minute, second })
    | _, _ => .error {}
  | [] => .error {}

/-! ## Loose dates -/

def isWordChar (c : Char) : Bool := c.isAlphanum || c == '_'

def dropBlanks (text : List Char) : List Char := text.dropWhile Text.isAsciiBlank

/-- Up to `most` digits, of which there must be at least `least`. -/
def takeNumber? (least most : Nat) (text : List Char) : Option (Nat × List Char) :=
  let digits := (text.takeWhile Char.isDigit).take most
  if digits.length < least then none
  else some (Number.digitsValue digits, text.drop digits.length)

def takeWord? (text : List Char) : Option (List Char × List Char) :=
  let word := text.takeWhile isWordChar
  if word.isEmpty then none else some (word, text.drop word.length)

/-- Blanks, or one of the marks. -/
def dropMark? (marks text : List Char) : Option (List Char) :=
  match text with
  | c :: rest =>
    if Text.isAsciiBlank c then some (dropBlanks rest)
    else if marks.contains c then some rest
    else none
  | [] => none

def takeClock? (text : List Char) : Option (Clock × List Char) := do
  let (hour, rest) ← takeNumber? 1 2 (← dropMark? [':'] text)
  let (minute, rest) ← takeNumber? 2 2
    (← if rest.head? == some ':' then some (rest.drop 1) else none)
  match rest with
  | ':' :: tail =>
    match takeNumber? 2 2 tail with
    | some (second, rest) => return ({ hour, minute, second }, rest)
    | none => return ({ hour, minute, second := 0 }, rest)
  | _ => return ({ hour, minute, second := 0 }, rest)

/-- Halves of the day are no zones. -/
def isHalfOfDay (text : List Char) : Bool :=
  ["am", "pm"].contains (lowerWord (text.take 2)) && !(text.drop 2).head?.any isWordChar

def takeZone? (text : List Char) : Option (List Char × List Char) :=
  let sign := text.take (if text.head? == some '+' || text.head? == some '-' then 1 else 0)
  let digits := ((text.drop sign.length).takeWhile Char.isDigit).take 4
  let letters := text.takeWhile Char.isAlpha
  if 2 <= digits.length then some (sign ++ digits, text.drop (sign.length + digits.length))
  else if letters.isEmpty || isHalfOfDay text then none
  else some (letters, text.drop letters.length)

/-- A remark in parentheses may end a date. -/
def isRemark (text : List Char) : Bool :=
  match text with
  | [] => true
  | '(' :: rest =>
    let word := rest.takeWhile isWordChar
    !word.isEmpty && match rest.drop word.length with
      | ')' :: tail => (dropBlanks tail).isEmpty
      | _ => false
  | _ => false

structure LooseDate where
  day : Nat
  month : List Char
  year : List Char
  clock : Clock
  zone : List Char

def looseDate? (text : List Char) : Option LooseDate := do
  let marks := ['-', '/']
  let (day, rest) ← takeNumber? 1 2 text
  let (month, rest) ← takeWord? (← dropMark? marks rest)
  let rest ← dropMark? marks rest
  let (year, rest) := (rest.takeWhile Char.isDigit, rest.dropWhile Char.isDigit)
  if year.isEmpty then none
  let (clock, rest) := (takeClock? rest).getD ({ hour := 0, minute := 0, second := 0 }, rest)
  let rest := dropBlanks rest
  let (zone, rest) := (takeZone? rest).getD ("UTC".toList, rest)
  if isRemark (dropBlanks rest) then return { day, month, year, clock, zone } else none

/-- Seconds that a zone is ahead; only universal time is known by name. -/
def zoneAhead? (zone : List Char) : Option Int :=
  if ["GMT", "UTC", "UT", "Z"].contains (String.ofList (zone.map Char.toUpper)) then some 0
  else if zone.any Char.isAlpha then none
  else
    let digits := zone.filter Char.isDigit
    let hours := if digits.length == 3 then digits.take 1 else digits.take 2
    let size : Int :=
      3600 * Number.digitsValue hours + 60 * Number.digitsValue (digits.drop hours.length)
    some (if zone.head? == some '-' then -size else size)

/-- The year that a short number means: the one with its last two digits that is near today. -/
def fullYear (today : Int) (year : Nat) : Int :=
  if 1000 <= year then year
  else
    let thisYear := Calendar.yearOf today
    let short := thisYear % 100
    let full : Int := year + thisYear - short
    let distance := short - year
    if 50 < distance then full + 100 else if distance < -50 then full - 100 else full

def month? (word : List Char) : Option Nat :=
  (namedMonth? word).or ((Number.readInt (String.ofList word)).toOption.bind fun number =>
    if 1 <= number && number <= 12 then some number.toNat else none)

def LooseDate.instant? (today : Int) (date : LooseDate) : Option Int := do
  let year := Number.digitsValue date.year
  if 9999 < year then none
  let month ← month? date.month
  let instant ← Cookie.instant? (fullYear today year) month date.day date.clock
  return instant - (← zoneAhead? date.zone)

/-- A name of a weekday says nothing that the date does not. -/
def dropWeekday (text : List Char) : List Char :=
  if dayNames.contains (lowerWord (text.take 3)) then
    let rest := (text.drop 3).dropWhile Char.isAlpha
    dropBlanks (if rest.head? == some ',' then rest.drop 1 else rest)
  else text

/-- The second that a date stands for, if it stands for one. -/
def readDate (today : Int) (text : String) : Except Unreadable (Option Int) :=
  match strictParts? text.toList with
  | some parts => readStrict parts
  | none =>
    match looseDate? (dropWeekday (text.toList.dropWhile Text.isBlank)) with
    | none => .ok none
    | some date =>
      if Number.mostDigits < date.year.length then .error {} else .ok (date.instant? today)

end Rehearsal.Http.Cookie
