import Rehearsal.Datum.Basic
import Rehearsal.Failure.Violation
import Rehearsal.Number.Numeral

/-!
Forms: what an object must look like to be read as a value. A form names the spellings of its
fields and reads them all, so that it can report every broken rule at once, in the order of the
fields; keys that no field uses come last.
-/

set_option autoImplicit false

namespace Rehearsal

abbrev Checked (A : Type) := Except (List Violation) A

structure Form (A : Type) where
  /-- For each field the keys it may be given under, the preferred one first. -/
  fields : List (List String)
  read : Table Datum -> Checked A

namespace Form

variable {A B : Type}

def constant (value : A) : Form A := { fields := [], read := fun _ => .ok value }

/-- Reads both parts and joins what is wrong with them. -/
def apply (left : Form (A -> B)) (right : Unit -> Form A) : Form B :=
  let right := right ()
  { fields := left.fields ++ right.fields
    read := fun table =>
      match left.read table, right.read table with
      | .ok f, .ok value => .ok (f value)
      | .error first, .ok _ => .error first
      | .ok _, .error second => .error second
      | .error first, .error second => .error (first ++ second) }

def map (f : A -> B) (form : Form A) : Form B :=
  { fields := form.fields, read := fun table => (form.read table).map f }

instance : Functor Form := { map := fun f form => Form.map f form }

instance : Applicative Form where
  pure := constant
  seq := apply

/-- How a field reads the value that stands under one of its keys. -/
abbrev Reader (A : Type) := String -> Datum -> Checked A

/-- The first of several keys that an object has. -/
def present? (table : Table Datum) (keys : List String) : Option (String × Datum) :=
  keys.findSome? fun key => (table.get? key).map fun value => (key, value)

def required (keys : List String) (reader : Reader A) : Form A :=
  { fields := [keys]
    read := fun table =>
      match present? table keys with
      | some (key, value) => reader key value
      | none => .error [Violation.at (keys.headD "") .present] }

/-- A field that may be left out. -/
def defaulted (keys : List String) (fallback : A) (reader : Reader A) : Form A :=
  { fields := [keys]
    read := fun table =>
      match present? table keys with
      | some (key, value) => reader key value
      | none => .ok fallback }

/-- A key that no field uses breaks a rule of its own, and so does a second spelling. -/
def strays (fields : List (List String)) (table : Table Datum) : List Violation :=
  let used := fields.filterMap fun keys => (present? table keys).map (·.1)
  (table.keys.filter fun key => !used.contains key).map fun key => Violation.at key .known

def run (form : Form A) (table : Table Datum) : Checked A :=
  match form.read table, strays form.fields table with
  | .ok value, [] => .ok value
  | .ok _, strays => .error strays
  | .error broken, strays => .error (broken ++ strays)

/-! ## Readers of single values -/

def text : Reader String := fun key value =>
  match value with
  | .text value => .ok value
  | _ => .error [Violation.at key .isText]

/-- Null stands for nothing. -/
def optional (reader : Reader A) : Reader (Option A) := fun key value =>
  match value with
  | .null => .ok none
  | value => (reader key value).map some

/-- Whole doubles are taken as integers within 63 bits. -/
def intOfReal (value : Float) : Except Rule Int :=
  match Number.integral? value with
  | some whole => if whole.natAbs < Nat.pow 2 63 then .ok whole else .error .fitsInt
  | none => .error (if value.isFinite then .isWhole else .isFinite)

def readInt : Datum -> Except Rule Int
  | .int value => .ok value
  | .bool value => .ok (if value then 1 else 0)
  | .real value => intOfReal value
  | .text value =>
    match Number.readStrictInt value with
    | .ok value => .ok value
    | .error .malformed => .error .readsAsInt
    | .error (.oversized _) => .error .fitsInt
  | _ => .error .isInt

def readReal : Datum -> Except Rule Float
  | .real value => .ok value
  | .int value =>
    match Number.ofInt? value with
    | some value => .ok value
    | none => .error .isNumber
  | .bool value => .ok (if value then 1.0 else 0.0)
  | .text value =>
    match Number.readStrictFloat? value with
    | some value => .ok value
    | none => .error .readsAsNumber
  | _ => .error .isNumber

def intFrom (least : Nat) : Reader Nat := fun key value =>
  match readInt value with
  | .error rule => .error [Violation.at key rule]
  | .ok value =>
    if value < least then .error [Violation.at key .atLeastBound] else .ok value.toNat

/-- A number above zero; not-a-number is above nothing. -/
def positive : Reader Float := fun key value =>
  match readReal value with
  | .error rule => .error [Violation.at key rule]
  | .ok value => if 0.0 < value then .ok value else .error [Violation.at key .aboveBound]

def word (parse : String -> Option A) : Reader A := fun key value =>
  match value.text?.bind parse with
  | some value => .ok value
  | none => .error [Violation.at key .coherent]

def joinFields : Table (Checked A) -> Checked (Table A)
  | [] => .ok []
  | (key, value) :: rest =>
    match value, joinFields rest with
    | .ok value, .ok rest => .ok ((key, value) :: rest)
    | .error first, .ok _ => .error first
    | .ok _, .error second => .error second
    | .error first, .error second => .error (first ++ second)

def texts : Reader (Table String) := fun key value =>
  match value with
  | .object fields =>
    match joinFields (fields.map fun (name, value) => (name, text name value)) with
    | .ok fields => .ok fields
    | .error broken => .error (broken.map (Violation.under [key]))
  | _ => .error [Violation.at key .isTable]

end Form

end Rehearsal
