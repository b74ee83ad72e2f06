import Rehearsal.Scenario.Performing

/-!
Judging assertions: the aspect of the page that an assertion names is looked up and compared.
-/

set_option autoImplicit false

namespace Rehearsal.Scenario

variable {W T : Type} [Scale T]

def seesElement (scenario : Scenario W T) (header : Header) (row : Option Row) :
    Activity (Scene W) Bool := do
  match ← (scenario.resolveFor header row).attempt with
  | .ok resolved => scenario.isVisible resolved.target
  | .error failure =>
    if failure.kind? == some .elementNotFound then return false else throw failure

/-- What the page shows of an aspect. An element that is not found is not visible; no other
aspect can do without its element. -/
def observe (scenario : Scenario W T) (assertion : Assertion) (row : Option Row) :
    Activity (Scene W) Datum := do
  let header := assertion.header
  match assertion.aspect with
  | .url => return .text (← scenario.currentUrl)
  | .count =>
    let count ← scenario.countMatches (header.page.getD "") (header.element.getD "") row
    return .int count
  | .visible => return .bool (← scenario.seesElement header row)
  | .enabled =>
    let resolved ← scenario.resolveFor header row
    return .bool (← scenario.isEnabled resolved.target)
  | .text =>
    let resolved ← scenario.resolveFor header row
    return .text (Text.trim (← scenario.ask resolved.target .innerText))
  | .attributeValue name =>
    let resolved ← scenario.resolveFor header row
    return .ofOption (← scenario.ask resolved.target (.attributeValue (scenario.fill row name)))

/-- Fails unless the page shows what the assertion expects. -/
def judge (scenario : Scenario W T) (assertion : Assertion) (row : Option Row) :
    Activity (Scene W) StepOutcome := do
  let actual ← scenario.observe assertion row
  let expected := Datum.ofOption (scenario.fill? row assertion.expected)
  Activity.ofExcept (Comparison.check actual expected assertion.operator)
  return .passed
    [("actual", actual), ("expected", expected),
     ("operator", .text assertion.operator.label)]

end Rehearsal.Scenario
