import Rehearsal.Datum.Moment
import Rehearsal.Number.Numeral
import Rehearsal.Number.Shortest
import Rehearsal.Table
import Rehearsal.Text.Quoted

/-!
Documents as their readers deliver them: catalogs, settings, records and datasets before they
are given a type. Objects keep the order of their keys.
-/

set_option autoImplicit false

namespace Rehearsal

inductive Datum where
  | null
  | bool (value : Bool)
  | int (value : Int)
  | real (value : Float)
  | text (value : String)
  | moment (value : Moment)
  | list (items : List Datum)
  | object (fields : List (String × Datum))

namespace Datum

instance : Inhabited Datum := ⟨.null⟩

/-- Null, false, zero and everything empty count as no. -/
def truthy : Datum -> Bool
  | .null => false
  | .bool value => value
  | .int value => value != 0
  | .real value => !(value == 0.0)
  | .text value => !value.isEmpty
  | .moment _ => true
  | .list items => !items.isEmpty
  | .object fields => !fields.isEmpty

def text? : Datum -> Option String
  | .text value => some value
  | _ => none

def object? : Datum -> Option (Table Datum)
  | .object fields => some fields
  | _ => none

def list? : Datum -> Option (List Datum)
  | .list items => some items
  | _ => none

def ofOption : Option String -> Datum
  | none => .null
  | some value => .text value

def boolText (value : Bool) : String := if value then "True" else "False"

mutual

/-- A value inside a list or an object: texts stand in quotes. -/
def inner : Datum -> String
  | .null => "None"
  | .bool value => boolText value
  | .int value => toString value
  | .real value => Number.shortest value
  | .text value => Text.quoted value
  | .moment value => value.byParts
  | .list items => "[" ++ commaSeparated (innerItems items) ++ "]"
  | .object fields => "\x7b" ++ commaSeparated (innerFields fields) ++ "\x7d"

def innerItems : List Datum -> List String
  | [] => []
  | item :: rest => inner item :: innerItems rest

def innerFields : List (String × Datum) -> List String
  | [] => []
  | (key, value) :: rest => (Text.quoted key ++ ": " ++ inner value) :: innerFields rest

end

/-- A value as a message shows it: a text stands for itself. -/
def display : Datum -> String
  | .text value => value
  | .moment value => value.text
  | value => inner value

/-- Integers that are not too long to be written. -/
def isWritableInt (value : Int) : Bool :=
  value.natAbs < Nat.pow 2 64 || value.natAbs < Nat.pow 10 Number.mostDigits

mutual

def isWritable : Datum -> Bool
  | .int value => isWritableInt value
  | .list items => areWritable items
  | .object fields => areWritableFields fields
  | _ => true

def areWritable : List Datum -> Bool
  | [] => true
  | item :: rest => isWritable item && areWritable rest

def areWritableFields : List (String × Datum) -> Bool
  | [] => true
  | (_, value) :: rest => isWritable value && areWritableFields rest

end

end Datum

end Rehearsal
