import Rehearsal.Record.Wait

/-!
What actions and assertions share: their place in the script, the element they are about, what
they wait for, and how long they may take.
-/

set_option autoImplicit false

namespace Rehearsal

structure Header where
  index : Nat
  page : Option String
  element : Option String
  wait : Option Wait
  timeout : Option Float

/-- A name that is given and not empty. -/
def named (name : Option String) : Bool := name.any fun text => !text.isEmpty

namespace Header

def ofParts (index : Nat) (page element : Option String) (wait : Option Wait)
    (timeout : Option Float) : Header :=
  { index, page, element, wait, timeout }

def form : Form Header :=
  ofParts <$> Form.required ["index"] (Form.intFrom 1)
    <*> Form.defaulted ["page", "page_id"] none (Form.optional Form.text)
    <*> Form.defaulted ["element", "element_id"] none (Form.optional Form.text)
    <*> Form.defaulted ["wait"] none (Form.optional Wait.reader)
    <*> Form.defaulted ["timeout"] none (Form.optional Form.positive)

def hasTarget (header : Header) : Bool := named header.page && named header.element

/-- What does not fit together in a record whose fields are each in order. -/
def conflict? (header : Header) (name : String) (needsElement : Bool) : Option String :=
  if needsElement && !header.hasTarget then some s!"'{name}' requires both page and element"
  else if named header.element && !named header.page then some "element given without page"
  else match header.wait with
    | some wait =>
      if wait.condition.needsElement && !header.hasTarget then
        some s!"wait '{wait.condition.kind}' needs page and element"
      else none
    | none => none

def textField (key : String) (value : Option String) : Table Datum :=
  (value.map fun text => (key, Datum.text text)).toList

def realField (key : String) (value : Option Float) : Table Datum :=
  (value.map fun number => (key, Datum.real number)).toList

def payload (header : Header) : Table Datum :=
  ("index", .int header.index) :: textField "page" header.page
    ++ textField "element" header.element
    ++ (header.wait.map fun wait => ("wait", wait.payload)).toList
    ++ realField "timeout" header.timeout

/-- The seconds that a record allows: its wait's, else its own, else the default. -/
def effectiveTimeout (header : Header) (fallback : Float) : Float :=
  ((header.wait.bind Wait.timeout).or header.timeout).getD fallback

def pageName (header : Header) : String :=
  match header.page with
  | some page => if page.isEmpty then "N/A" else page
  | none => "N/A"

def elementPart (header : Header) : String :=
  match header.element with
  | some element => if element.isEmpty then "" else s!", element '{element}'"
  | none => ""

end Header

end Rehearsal
