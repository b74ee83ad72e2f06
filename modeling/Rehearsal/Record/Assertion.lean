import Rehearsal.Record.Header

/-!
Assertions: a property of the live page, an operator, and what to compare with.
-/

set_option autoImplicit false

namespace Rehearsal

inductive Operator where
  | equals
  | contains
  | isTrue
  | isFalse
  | greaterThan
  | lessThan
  deriving DecidableEq

namespace Operator

def all : List Operator := [.equals, .contains, .isTrue, .isFalse, .greaterThan, .lessThan]

def label : Operator -> String
  | .equals => "equals"
  | .contains => "contains"
  | .isTrue => "true"
  | .isFalse => "false"
  | .greaterThan => "greaterThan"
  | .lessThan => "lessThan"

def ofLabel? (label : String) : Option Operator := all.find? fun operator => operator.label == label

/-- Older spellings of the operators. -/
def oldLabels : Table String := [("greater_than", "greaterThan"), ("less_than", "lessThan")]

end Operator

inductive Aspect where
  | url
  | visible
  | enabled
  | text
  | attributeValue (name : String)
  | count
  deriving DecidableEq

def Aspect.name : Aspect -> String
  | .url => "url"
  | .visible => "visible"
  | .enabled => "enabled"
  | .text => "text"
  | .attributeValue _ => "attribute"
  | .count => "count"

def Aspect.ownFields : Aspect -> Table Datum
  | .attributeValue name => [("attribute_name", .text name)]
  | _ => []

structure Assertion where
  header : Header
  expected : Option String
  operator : Operator
  aspect : Aspect

namespace Assertion

def describe (assertion : Assertion) : String :=
  let header := assertion.header
  let subject :=
    s!"Assertion {header.index} '{assertion.aspect.name}' on page '{header.pageName}'"
  let expected := assertion.expected.getD "None"
  subject ++ header.elementPart
    ++ s!" with expected value '{expected}' and operator '{assertion.operator.label}'"

def payload (assertion : Assertion) : Table Datum :=
  assertion.header.payload ++ Header.textField "expected" assertion.expected
    ++ [("operator", .text assertion.operator.label),
        ("assertion_type", .text assertion.aspect.name)]
    ++ assertion.aspect.ownFields

end Assertion

end Rehearsal
