import Rehearsal.Failure
import Rehearsal.Number.Numeral
import Rehearsal.Record.Assertion
import Rehearsal.Text.Blank

/-!
Comparing what a page shows with what an assertion expects. Values are compared as texts, as
truth values or as numbers, each reading a value in its own way.
-/

set_option autoImplicit false

namespace Rehearsal.Comparison

/-- A value as text: nothing is empty, and truth values are in lower case. -/
def textOf : Datum -> String
  | .null => ""
  | .bool value => if value then "true" else "false"
  | value => value.display

def truthWords : Table Bool :=
  [("true", true), ("1", true), ("yes", true), ("on", true), ("false", false), ("0", false),
   ("no", false), ("off", false), ("", false)]

def truthOf (value : Datum) : Except Failure Bool :=
  match value with
  | .bool value => .ok value
  | value =>
    match truthWords.get? (Text.lowercase (Text.trim (textOf value))) with
    | some truth => .ok truth
    | none => .error (.notBoolean value.display)

def numberOf (role : String) (value : Datum) : Except Failure Float :=
  match Number.readFloat? (Text.trim (textOf value)) with
  | some number => .ok number
  | none => .error (.notNumeric role value.display)

/-- Whether the operator holds; a truth value equals a text that reads as the same truth. -/
def holds (actual expected : Datum) (operator : Operator) : Except Failure Bool := do
  match operator with
  | .equals =>
    match actual with
    | .bool truth => return truth == (← truthOf expected)
    | actual => return textOf actual == textOf expected
  | .contains => return Text.contains (textOf actual) (textOf expected)
  | .isTrue => truthOf actual
  | .isFalse => return !(← truthOf actual)
  | .greaterThan =>
    let left ← numberOf "Actual" actual
    let right ← numberOf "Expected" expected
    return decide (right < left)
  | .lessThan =>
    let left ← numberOf "Actual" actual
    let right ← numberOf "Expected" expected
    return decide (left < right)

def check (actual expected : Datum) (operator : Operator) : Except Failure Unit := do
  if ← holds actual expected operator then return ()
  else throw (.mismatch (textOf actual) expected (textOf expected) operator.label)

/-- Compares by the label of an operator, which may be unknown. -/
def checkLabelled (actual expected : Datum) (label : String) : Except Failure Unit :=
  match Operator.ofLabel? label with
  | some operator => check actual expected operator
  | none => .error (.unsupportedCondition label)

end Rehearsal.Comparison
