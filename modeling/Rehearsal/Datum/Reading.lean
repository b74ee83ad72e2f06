import Rehearsal.Datum.Basic
import Rehearsal.Fault
import Rehearsal.Number.Numeral

/-!
What a loosely typed value means where a number, a list or an object is wanted. Texts are read
as numbers, a list of pairs makes an object, and an object or a text lists its keys or its
characters.
-/

set_option autoImplicit false

namespace Rehearsal.Datum

def wrongType {A : Type} (message : String) : Except Fault A := .error ⟨.wrongType, message⟩

def checkWritable (value : Datum) : Except Fault Unit :=
  if value.isWritable then .ok () else .error Fault.oversizedInt

/-- The text of a value, unless an integer in it is too long to be written. -/
def written (value : Datum) : Except Fault String := do
  value.checkWritable
  return value.display

/-- A whole number; fractions are cut off. -/
def toInt : Datum -> Except Fault Int
  | .int value => .ok value
  | .bool value => .ok (if value then 1 else 0)
  | .real value =>
    match Number.truncate? value with
    | some whole => .ok whole
    | none =>
      if value.isNaN then .error ⟨.badValue, "cannot convert float NaN to integer"⟩
      else .error ⟨.overflow, "cannot convert float infinity to integer"⟩
  | .text value =>
    match Number.readInt value with
    | .ok whole => .ok whole
    | .error .malformed =>
      let shown := String.ofList ((Text.quoted value).toList.take 200)
      .error ⟨.badValue, s!"invalid literal for int() with base 10: {shown}"⟩
    | .error (.oversized digits) => .error (Fault.oversizedNumeral digits)
  | _ => wrongType "a number was wanted"

def toReal : Datum -> Except Fault Float
  | .int value =>
    match Number.ofInt? value with
    | some number => .ok number
    | none => .error ⟨.overflow, "int too large to convert to float"⟩
  | .bool value => .ok (if value then 1.0 else 0.0)
  | .real value => .ok value
  | .text value =>
    match Number.readFloat? value with
    | some number => .ok number
    | none => .error ⟨.badValue, s!"could not convert string to float: {Text.quoted value}"⟩
  | _ => wrongType "a number was wanted"

def characters (value : String) : List Datum := value.toList.map fun c => .text (String.singleton c)

/-- The items of a list, the keys of an object, the characters of a text. -/
def items : Datum -> Except Fault (List Datum)
  | .list items => .ok items
  | .object fields => .ok (fields.map fun entry => .text entry.1)
  | .text value => .ok (characters value)
  | _ => wrongType "a list was wanted"

/-- A value that can be a key; lists and objects cannot. -/
def toKey : Datum -> Except Fault String
  | .list _ | .object _ => wrongType "a list or an object cannot be a key"
  | value => value.written

def toPair (position : Nat) (entry : Datum) : Except Fault (String × Datum) := do
  match ← entry.items with
  | [key, value] => return (← key.toKey, value)
  | items =>
    let length := items.length
    .error ⟨.badValue, s!"dictionary update sequence element #{position} has length {length}; " ++
      "2 is required"⟩

def toPairs : (position : Nat) -> List Datum -> Except Fault (List (String × Datum))
  | _, [] => .ok []
  | position, entry :: rest => do
    let pair ← toPair position entry
    return pair :: (← toPairs (position + 1) rest)

/-- An object, or a list of pairs. -/
def toFields : Datum -> Except Fault (Table Datum)
  | .object fields => .ok fields
  | value => do return Table.ofList (← toPairs 0 (← value.items))

/-- The fields of what has to be an object; nothing else has members. -/
def members : Datum -> Except Fault (Table Datum)
  | .object fields => .ok fields
  | _ => .error ⟨.noMember, "an object was wanted"⟩

/-- The fields of an object that may be missing or empty in any way. -/
def membersOrNone (value : Option Datum) : Except Fault (Table Datum) :=
  match value with
  | some value => if value.truthy then value.members else .ok []
  | none => .ok []

/-- The items of a list that may be missing or empty in any way. -/
def itemsOrNone (value : Option Datum) : Except Fault (List Datum) :=
  match value with
  | some value => if value.truthy then value.items else .ok []
  | none => .ok []

end Rehearsal.Datum
