/-!
What a form finds wrong with an object: which field, and which of its rules was broken.
-/

set_option autoImplicit false

namespace Rehearsal

inductive Rule where
  | present
  | known
  | isText
  | isInt
  | readsAsInt
  | fitsInt
  | isWhole
  | isFinite
  | isNumber
  | readsAsNumber
  | aboveBound
  | atLeastBound
  | isTable
  | isObject
  | isWait
  | coherent
  deriving DecidableEq

def Rule.name : Rule -> String
  | .present => "missing"
  | .known => "extra_forbidden"
  | .isText => "string_type"
  | .isInt => "int_type"
  | .readsAsInt => "int_parsing"
  | .fitsInt => "int_parsing_size"
  | .isWhole => "int_from_float"
  | .isFinite => "finite_number"
  | .isNumber => "float_type"
  | .readsAsNumber => "float_parsing"
  | .aboveBound => "greater_than"
  | .atLeastBound => "greater_than_equal"
  | .isTable => "dict_type"
  | .isObject => "model_type"
  | .isWait => "model_attributes_type"
  | .coherent => "value_error"

/-- A broken rule at a place; a note is given where the fields do not fit together. -/
structure Violation where
  place : List String
  rule : Rule
  note : Option String
  deriving DecidableEq

def Violation.at (place : String) (rule : Rule) : Violation :=
  { place := [place], rule, note := none }

def Violation.under (place : List String) (violation : Violation) : Violation :=
  { violation with place := place ++ violation.place }

/-- The heading of a report on an object that should have been a `model`. -/
def violationsHeading (model : String) (violations : List Violation) : String :=
  let count := violations.length
  let noun := if count == 1 then "error" else "errors"
  s!"{count} validation {noun} for {model}"

end Rehearsal
