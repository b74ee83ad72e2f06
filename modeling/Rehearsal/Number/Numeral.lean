import Rehearsal.Number.Binary
import Rehearsal.Text.Blank
import Rehearsal.Text.Digit

/-!
Numbers read from text. Settings and indices are read generously: digits of all scripts, blanks
around them, single underscores between digits. The fields of a record are read strictly, in
ASCII. Both share one grammar of a decimal number.
-/

set_option autoImplicit false

namespace Rehearsal.Number

open Rehearsal.Text

def takeSign : List Char -> Bool × List Char
  | '-' :: rest => (true, rest)
  | '+' :: rest => (false, rest)
  | text => (false, text)

def takeDigits (text : List Char) : List Char × List Char :=
  (text.takeWhile Char.isDigit, text.dropWhile Char.isDigit)

def digitsValue (text : List Char) : Nat :=
  text.foldl (fun value c => 10 * value + (c.toNat - '0'.toNat)) 0

/-- Drops underscores, each of which must stand between two digits. -/
def joinDigits? : (afterDigit : Bool) -> List Char -> Option (List Char)
  | _, [] => some []
  | afterDigit, '_' :: rest =>
    if afterDigit && (rest.head?.any Char.isDigit) then joinDigits? false rest else none
  | _, c :: rest => (joinDigits? c.isDigit rest).map (c :: ·)

/-- A decimal number: digits that stand for `digits * 10 ^ power`. -/
structure Decimal where
  negative : Bool
  digits : Nat
  power : Int

/-- The double nearest to a decimal number. Powers that no digits can outweigh are cut off
before any arithmetic. -/
def Decimal.toFloat (value : Decimal) : Float :=
  let count : Int := (Nat.toDigits 10 value.digits).length
  let size :=
    if value.digits == 0 || count + value.power < -400 then 0.0
    else if 400 < count + value.power then 1.0 / 0.0
    else Float.ofScientific value.digits (decide (value.power < 0)) value.power.natAbs
  if value.negative then -size else size

/-- The power after a mantissa, if one is written; nothing may follow it. -/
def readPower? : List Char -> Option Int
  | [] => some 0
  | mark :: rest =>
    if mark == 'e' || mark == 'E' then
      let (negative, rest) := takeSign rest
      let (power, rest) := takeDigits rest
      if power.isEmpty || !rest.isEmpty then none
      else some (if negative then -(digitsValue power : Int) else digitsValue power)
    else none

/-- Digits with a point among them or at either end, then a power. -/
def readDecimal? (negative : Bool) (text : List Char) : Option Decimal :=
  let (whole, rest) := takeDigits text
  let (part, rest) := match rest with
    | '.' :: rest => takeDigits rest
    | rest => ([], rest)
  if whole.isEmpty && part.isEmpty then none
  else (readPower? rest).map fun power =>
    { negative, digits := digitsValue (whole ++ part), power := power - part.length }

/-- A decimal number, an infinity or not-a-number, in any case of letters. -/
def readUnblank? (text : List Char) : Option Float :=
  let (negative, rest) := takeSign text
  let word := String.ofList (rest.map Char.toLower)
  if word == "inf" || word == "infinity" then some (if negative then -1.0 / 0.0 else 1.0 / 0.0)
  else if word == "nan" then some (0.0 / 0.0)
  else (readDecimal? negative rest).map Decimal.toFloat

/-- A character of a numeral in ASCII: digits of all scripts become digits, blanks a space. -/
def plainChar (c : Char) : Char :=
  if c.toNat < 0x80 then c
  else if isBlank c then ' '
  else match digitValue? c with
    | some value => Char.ofNat ('0'.toNat + value)
    | none => '?'

def plainNumeral (text : String) : List Char :=
  trimChars isAsciiBlank (text.toList.map plainChar)

inductive IntFlaw where
  | malformed
  | oversized (digits : Nat)
  deriving DecidableEq

/-- The longest numeral that an integer is read from, and that it is written with. -/
def mostDigits : Nat := 4300

def ofDigits (negative : Bool) (digits : List Char) : Int :=
  if negative then -(digitsValue digits : Int) else digitsValue digits

/-- An integer, generously read. Digits are counted before anything behind them is looked at. -/
def readInt (text : String) : Except IntFlaw Int :=
  let (negative, rest) := takeSign (plainNumeral text)
  let (numeral, rest) := rest.span fun c => c.isDigit || c == '_'
  match joinDigits? false numeral with
  | none => .error .malformed
  | some digits =>
    if mostDigits < digits.length then .error (.oversized digits.length)
    else if digits.isEmpty || !rest.isEmpty then .error .malformed
    else .ok (ofDigits negative digits)

/-- A double, generously read. -/
def readFloat? (text : String) : Option Float :=
  (joinDigits? false (plainNumeral text)).bind readUnblank?

/-! ## Strict reading -/

/-- Drops single underscores between other characters, if there are any to drop. -/
def dropUnderscores? (text : List Char) : Option (List Char) :=
  let double := (text.zip (text.drop 1)).contains ('_', '_')
  if text.head? == some '_' || text.getLast? == some '_' || double || !text.contains '_' then none
  else some (text.filter (· != '_'))

/-- Digits without a zero before them, and a minus sign if one is written. The sign counts as one
of the digits that there may be. -/
def readBareInt (text : List Char) : Except IntFlaw Int :=
  let (negative, unsigned) := match text with
    | '-' :: rest => (true, rest)
    | text => (false, text)
  let (digits, rest) := takeDigits unsigned
  let count := digits.length + negative.toNat
  if digits.head? == some '0' then
    if digits.length == 1 && rest.isEmpty then .ok 0 else .error .malformed
  else if mostDigits < count then .error (.oversized count)
  else if digits.isEmpty || !rest.isEmpty then .error .malformed
  else .ok (ofDigits negative digits)

/-- What is left without zeros before a number; underscores may stand among them. One zero stays
before a point, and at the end. -/
def dropLeadingZeros? : (before : Char) -> List Char -> Option (List Char)
  | before, [] => some [before]
  | before, c :: rest =>
    if c == '0' || (c == '_' && before != '_') then dropLeadingZeros? c rest
    else if c == '-' || c.isDigit then some (c :: rest)
    else if c == '.' then some (before :: c :: rest)
    else none

def dropZerosBefore? : List Char -> Option (List Char)
  | '0' :: rest => dropLeadingZeros? '0' rest
  | c :: rest => if c == '-' || c.isDigit then some (c :: rest) else none
  | [] => none

/-- Drops a point that only zeros follow. -/
def dropPointZeros (text : List Char) : List Char :=
  let zeros := (text.dropWhile (· != '.')).drop 1
  if !zeros.isEmpty && zeros.all (· == '0') then text.takeWhile (· != '.') else text

/-- A sign of addition may stand before a number that has no other sign. -/
def dropPlus? : List Char -> Option (List Char)
  | '+' :: '-' :: _ => none
  | '+' :: rest => some rest
  | text => some text

/-- Brings a numeral with blanks, zeros or underscores into its bare form. -/
def bareNumeral? (text : List Char) : Option (List Char) := do
  let unsigned ← dropPlus? (trimChars isSpace text)
  let bare := dropPointZeros (← dropZerosBefore? unsigned)
  return (dropUnderscores? bare).getD bare

/-- An integer, strictly read: in bare form, or in one that can be brought into it. -/
def readStrictInt (text : String) : Except IntFlaw Int :=
  match readBareInt text.toList with
  | .error .malformed =>
    match bareNumeral? text.toList with
    | some bare => readBareInt bare
    | none => .error .malformed
  | result => result

/-- A double, strictly read. Either blanks around it are dropped, or underscores within it. -/
def readStrictFloat? (text : String) : Option Float :=
  (readUnblank? (trimChars isSpace text.toList)).or
    ((dropUnderscores? text.toList).bind readUnblank?)

end Rehearsal.Number
