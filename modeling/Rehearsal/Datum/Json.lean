import Rehearsal.Datum.Basic
import Rehearsal.Fault
import Rehearsal.Number.Numeral

/-!
JSON texts. The reader also takes the three names `NaN`, `Infinity` and `-Infinity`; of equal
keys the last value wins and the first place. The writer leaves all characters but controls,
quotes and backslashes as they are.
-/

set_option autoImplicit false

namespace Rehearsal.Json

open Number

/-- What was wrong, and how much of the text was left there. -/
inductive Flaw where
  | malformed (text : String) (left : Nat)
  | oversized (digits : Nat)

abbrev Reading (A : Type) := Except Flaw (A × List Char)

def flaw {A : Type} (text : String) (left : List Char) : Except Flaw A :=
  .error (.malformed text left.length)

def isJsonBlank (c : Char) : Bool := c == ' ' || c == '\t' || c == '\n' || c == '\r'

def skip (text : List Char) : List Char := text.dropWhile isJsonBlank

def hexValue? (c : Char) : Option Nat :=
  if c.isDigit then some (c.toNat - '0'.toNat)
  else if 'a' <= c && c <= 'f' then some (c.toNat - 'a'.toNat + 10)
  else if 'A' <= c && c <= 'F' then some (c.toNat - 'A'.toNat + 10)
  else none

def hexNumber? (text : List Char) : Option Nat :=
  text.foldl (fun value c => value.bind fun v => (hexValue? c).map (16 * v + ·)) (some 0)

def simpleEscape? : Char -> Option Char
  | '"' => some '"'
  | '\\' => some '\\'
  | '/' => some '/'
  | 'b' => some '\x08'
  | 'f' => some '\x0c'
  | 'n' => some '\n'
  | 'r' => some '\r'
  | 't' => some '\t'
  | _ => none

def isHighHalf (code : Nat) : Bool := 0xd800 <= code && code < 0xdc00

def isLowHalf (code : Nat) : Bool := 0xdc00 <= code && code < 0xe000

/-- The character of an escape; half of a pair that stands alone is not a character. -/
def escapedChar (code : Nat) : Char :=
  if isHighHalf code || isLowHalf code then '\ufffd' else Char.ofNat code

def pairChar (high low : Nat) : Char :=
  Char.ofNat (0x10000 + (high - 0xd800) * 0x400 + (low - 0xdc00))

/-- The low half of a pair, if the text goes on with one. -/
def lowHalf? : List Char -> Option (Nat × List Char)
  | '\\' :: 'u' :: a :: b :: c :: d :: rest =>
    (hexNumber? [a, b, c, d]).bind fun code =>
      if isLowHalf code then some (code, rest) else none
  | _ => none

/-- Reads up to the closing quote. `opened` is the text from the opening quote on. -/
def readText (opened : List Char) : Nat -> List Char -> List Char -> Reading String
  | 0, _, _ => flaw "Unterminated string starting at" opened
  | _ + 1, _, [] => flaw "Unterminated string starting at" opened
  | _ + 1, read, '"' :: rest => .ok (String.ofList read.reverse, rest)
  | fuel + 1, read, '\\' :: rest =>
    match rest with
    | [] => flaw "Unterminated string starting at" opened
    | 'u' :: tail =>
      let code? := if (tail.take 5).length == 5 then hexNumber? (tail.take 4) else none
      match code? with
      | none => flaw "Invalid \\uXXXX escape" rest
      | some code =>
        let after := tail.drop 4
        match if isHighHalf code then lowHalf? after else none with
        | some (low, after) => readText opened fuel (pairChar code low :: read) after
        | none => readText opened fuel (escapedChar code :: read) after
    | c :: tail =>
      match simpleEscape? c with
      | some escaped => readText opened fuel (escaped :: read) tail
      | none => flaw "Invalid \\escape" ('\\' :: rest)
  | fuel + 1, read, c :: rest =>
    if c.toNat < 0x20 then flaw "Invalid control character at" (c :: rest)
    else readText opened fuel (c :: read) rest

/-- The fraction of a number, or nothing if no digit follows the point. -/
def takeFraction : List Char -> List Char × List Char
  | '.' :: rest =>
    let (part, after) := takeDigits rest
    if part.isEmpty then ([], '.' :: rest) else (part, after)
  | text => ([], text)

/-- The power of a number, or nothing if no digit follows the mark. -/
def takePower (text : List Char) : Option Int × List Char :=
  match text with
  | mark :: rest =>
    if mark == 'e' || mark == 'E' then
      let (negative, unsigned) := takeSign rest
      let (power, after) := takeDigits unsigned
      if power.isEmpty then (none, text)
      else (some (if negative then -(digitsValue power : Int) else digitsValue power), after)
    else (none, text)
  | [] => (none, text)

/-- A number is whole unless it has a fraction or a power. -/
def readNumber (start : List Char) : Reading Datum :=
  let (negative, text) := match start with
    | '-' :: rest => (true, rest)
    | text => (false, text)
  let (whole, rest) := match text with
    | '0' :: rest => (['0'], rest)
    | text => takeDigits text
  if whole.isEmpty then flaw "Expecting value" start
  else
    let (part, rest) := takeFraction rest
    let (power, rest) := takePower rest
    if part.isEmpty && power.isNone then
      if mostDigits < whole.length then .error (.oversized whole.length)
      else
        let value : Int := digitsValue whole
        .ok (.int (if negative then -value else value), rest)
    else
      let decimal : Decimal :=
        { negative, digits := digitsValue (whole ++ part), power := power.getD 0 - part.length }
      .ok (.real decimal.toFloat, rest)

/-- The words of the format, longest match not needed as none begins another. -/
def words : List (String × Datum) :=
  [("null", .null), ("true", .bool true), ("false", .bool false), ("NaN", .real (0.0 / 0.0)),
   ("Infinity", .real (1.0 / 0.0)), ("-Infinity", .real (-1.0 / 0.0))]

def readWord? (text : List Char) : Option (Datum × List Char) :=
  words.findSome? fun (word, value) =>
    if word.toList.isPrefixOf text then some (value, text.drop word.length) else none

mutual

def readValue : Nat -> List Char -> Reading Datum
  | 0, text => flaw "Expecting value" text
  | fuel + 1, text =>
    match text with
    | '"' :: rest =>
      (readText text (rest.length + 1) [] rest).map fun (value, rest) => (.text value, rest)
    | '[' :: rest =>
      match skip rest with
      | ']' :: rest => .ok (.list [], rest)
      | rest => readItems fuel [] rest
    | '{' :: rest =>
      match skip rest with
      | '}' :: rest => .ok (.object [], rest)
      | rest => readFields fuel [] rest
    | text =>
      match readWord? text with
      | some found => .ok found
      | none => readNumber text

/-- Items up to the closing bracket; those read so far stand in reverse. -/
def readItems : Nat -> List Datum -> List Char -> Reading Datum
  | 0, _, text => flaw "Expecting value" text
  | fuel + 1, read, text =>
    match readValue fuel text with
    | .error found => .error found
    | .ok (item, rest) =>
      match skip rest with
      | ']' :: rest => .ok (.list (item :: read).reverse, rest)
      | ',' :: rest => readItems fuel (item :: read) (skip rest)
      | rest => flaw "Expecting ',' delimiter" rest

def readFields : Nat -> List (String × Datum) -> List Char -> Reading Datum
  | 0, _, text => flaw "Expecting value" text
  | fuel + 1, read, text =>
    match text with
    | '"' :: rest =>
      match readText text (rest.length + 1) [] rest with
      | .error found => .error found
      | .ok (key, rest) =>
        match skip rest with
        | ':' :: rest =>
          match readValue fuel (skip rest) with
          | .error found => .error found
          | .ok (value, rest) =>
            match skip rest with
            | '}' :: rest => .ok (.object (Table.ofList ((key, value) :: read).reverse), rest)
            | ',' :: rest => readFields fuel ((key, value) :: read) (skip rest)
            | rest => flaw "Expecting ',' delimiter" rest
        | rest => flaw "Expecting ':' delimiter" rest
    | rest => flaw "Expecting property name enclosed in double quotes" rest

end

/-- The line and the column of a place, both counted from one. -/
def placeOf (before : List Char) : Nat × Nat :=
  (1 + before.count '\n', 1 + (before.reverse.takeWhile (· != '\n')).length)

def Flaw.fault (text : List Char) : Flaw -> Fault
  | .oversized digits => Fault.oversizedNumeral digits
  | .malformed message left =>
    let index := text.length - left
    let (line, column) := placeOf (text.take index)
    ⟨.badJson, s!"{message}: line {line} column {column} (char {index})"⟩

def read (text : String) : Except Fault Datum :=
  let chars := text.toList
  let reading : Except Flaw Datum :=
    match chars with
    | '\ufeff' :: _ => flaw "Unexpected UTF-8 BOM (decode using utf-8-sig)" chars
    | _ =>
      match readValue (2 * chars.length + 2) (skip chars) with
      | .error found => .error found
      | .ok (value, rest) =>
        match skip rest with
        | [] => .ok value
        | rest => flaw "Extra data" rest
  reading.mapError (·.fault chars)

def escape (c : Char) : List Char :=
  if c == '"' then ['\\', '"']
  else if c == '\\' then ['\\', '\\']
  else if c == '\n' then ['\\', 'n']
  else if c == '\r' then ['\\', 'r']
  else if c == '\t' then ['\\', 't']
  else if c == '\x08' then ['\\', 'b']
  else if c == '\x0c' then ['\\', 'f']
  else if c.toNat < 0x20 then '\\' :: 'u' :: Text.hexDigits 4 c.toNat
  else [c]

def writeText (text : String) : String :=
  String.ofList ('"' :: text.toList.flatMap escape ++ ['"'])

def writeReal (value : Float) : String :=
  if value.isNaN then "NaN"
  else if value.isInf then if value < 0.0 then "-Infinity" else "Infinity"
  else shortest value

mutual

def write : Datum -> String
  | .null => "null"
  | .bool value => if value then "true" else "false"
  | .int value => toString value
  | .real value => writeReal value
  | .text value => writeText value
  | .moment value => writeText value.text
  | .list items => "[" ++ commaSeparated (writeItems items) ++ "]"
  | .object fields => "\x7b" ++ commaSeparated (writeFields fields) ++ "\x7d"

def writeItems : List Datum -> List String
  | [] => []
  | item :: rest => write item :: writeItems rest

def writeFields : List (String × Datum) -> List String
  | [] => []
  | (key, value) :: rest => (writeText key ++ ": " ++ write value) :: writeFields rest

end

end Rehearsal.Json
