import Rehearsal.Scene

/-!
Outcomes: what a step that passed has to report, and where the script goes on.
-/

set_option autoImplicit false

namespace Rehearsal

structure StepOutcome where
  ok : Bool
  details : Table Datum
  /-- The index to go on with, if it is not the next one. -/
  nextIndex : Option Int
  resolved : Option Resolved
  warnings : List String
  error : Option String

namespace StepOutcome

def passed (details : Table Datum) : StepOutcome :=
  { ok := true, details, nextIndex := none, resolved := none, warnings := [], error := none }

def onElement (resolved : Resolved) (details : Table Datum) : StepOutcome :=
  let place :=
    [("selector", Datum.text resolved.selector), ("ordinal", .int resolved.candidate.ordinal)]
  { passed (details ++ place) with resolved := some resolved }

/-- The parts that are worth reporting; what is missing or empty is left out. -/
def report (outcome : StepOutcome) : Table Datum :=
  [("ok", .bool outcome.ok), ("details", .object outcome.details)]
    ++ (outcome.nextIndex.map fun index => ("next_index", Datum.int index)).toList
    ++ (if outcome.warnings.isEmpty then []
        else [("warnings", .list (outcome.warnings.map .text))])
    ++ (match outcome.error with
        | some error => if error.isEmpty then [] else [("error", .text error)]
        | none => [])

end StepOutcome

end Rehearsal
