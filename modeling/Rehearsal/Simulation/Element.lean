import Rehearsal.Datum.Reading

/-!
Elements of simulated pages, and effects that change what a simulated world shows. Both are read
from documents; what a document leaves out has a default.
-/

set_option autoImplicit false

namespace Rehearsal.Simulation

inductive Effect where
  /-- The current page has another address. -/
  | goTo (url : String)
  | set (selector : String) (index : Nat) (fields : Table Datum)
  | add (selector : String) (fields : Table Datum)
  | remove (selector : String)
  /-- The current page is closed, or is open and does not answer. -/
  | crash (closed : Bool)
  | script (script : String) (value : Datum)
  | deliver (messages : List Datum)

def fieldsOf (value : Datum) : Table Datum := value.object?.getD []

def listOf (value : Datum) : List Datum := value.list?.getD []

def textOf (value : Datum) : String := value.text?.getD ""

def natOf (value : Datum) : Nat := (value.toInt.toOption.getD 0).toNat

/-- An effect is an object with the effect's name as its only key. -/
def Effect.read? (value : Datum) : Option Effect :=
  match value with
  | .object [("url", address)] => some (.goTo (textOf address))
  | .object [("set", .list [selector, index, fields])] =>
    some (.set (textOf selector) (natOf index) (fieldsOf fields))
  | .object [("add", .list [selector, fields])] => some (.add (textOf selector) (fieldsOf fields))
  | .object [("remove", selector)] => some (.remove (textOf selector))
  | .object [("crash", way)] => some (.crash (textOf way == "closed"))
  | .object [("script", .list [name, value])] => some (.script (textOf name) value)
  | .object [("deliver", messages)] => some (.deliver (listOf messages))
  | _ => none

def readEffects (value : Datum) : List Effect := (listOf value).filterMap Effect.read?

structure Element where
  text : String
  value : String
  visible : Bool
  enabled : Bool
  attributes : Table Datum
  options : List (String × String)
  selected : Option Nat
  inForm : Bool
  /-- Whether the element keeps its value whatever is done to it. -/
  ignoresInput : Bool
  connected : Bool
  /-- Whether the browser gives no handle of the element. -/
  withoutHandle : Bool
  /-- The effects of each click; the last ones are those of all later clicks too. -/
  onClick : List (List Effect)
  onSubmit : List Effect
  clicks : Nat

namespace Element

def blank : Element :=
  { text := "", value := "", visible := true, enabled := true, attributes := [], options := []
    selected := none, inForm := true, ignoresInput := false, connected := true
    withoutHandle := false, onClick := [], onSubmit := [], clicks := 0 }

/-- A bare text is label and value at once. -/
def readOption (value : Datum) : String × String :=
  match value with
  | .list [label, value] => (label.display, value.display)
  | value => (value.display, value.display)

def readSelected (value : Datum) : Option Nat :=
  match value with
  | .null => none
  | value => some (natOf value)

def setField (element : Element) (field : String × Datum) : Element :=
  match field with
  | ("text", value) => { element with text := textOf value }
  | ("value", value) => { element with value := textOf value }
  | ("visible", value) => { element with visible := value.truthy }
  | ("enabled", value) => { element with enabled := value.truthy }
  | ("attributes", value) => { element with attributes := fieldsOf value }
  | ("options", value) => { element with options := (listOf value).map readOption }
  | ("selected", value) => { element with selected := readSelected value }
  | ("in_form", value) => { element with inForm := value.truthy }
  | ("ignore_input", value) => { element with ignoresInput := value.truthy }
  | ("connected", value) => { element with connected := value.truthy }
  | ("null_handle", value) => { element with withoutHandle := value.truthy }
  | ("on_click", value) => { element with onClick := (listOf value).map readEffects }
  | ("on_submit", value) => { element with onSubmit := readEffects value }
  | _ => element

def setFields (element : Element) (fields : Table Datum) : Element := fields.foldl setField element

def ofFields (fields : Table Datum) : Element := blank.setFields fields

/-- The effects of the next click, which is counted if any click has effects. -/
def click (element : Element) : List Effect × Element :=
  if element.onClick.isEmpty then ([], element)
  else
    let effects := (element.onClick[element.clicks]?).getD (element.onClick.getLastD [])
    (effects, { element with clicks := element.clicks + 1 })

def setValue (element : Element) (value : String) : Element :=
  if element.ignoresInput then element else { element with value }

def selection (element : Element) : List String :=
  match element.selected.bind (element.options[·]?) with
  | some (label, value) => [label, value]
  | none => []

end Element

end Rehearsal.Simulation
