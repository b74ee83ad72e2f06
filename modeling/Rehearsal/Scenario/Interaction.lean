import Rehearsal.Scenario.Waiting

/-!
Interactions with elements. An element is brought into a state in which a user could reach it;
then it is changed; then the page has to show the change.
-/

set_option autoImplicit false

namespace Rehearsal

inductive Patience (T : Type) where
  | standard
  | seconds (given : Quantity T)

namespace Patience

variable {T : Type} [Scale T]

/-- Ten seconds unless something else is said, in thousandths. -/
def limit : Patience T -> Quantity T
  | .standard => .exact (Scale.thousandfold (Scale.hundredths 1000))
  | .seconds given => given.thousandfold

end Patience

namespace Scenario

variable {W T : Type} [Scale T]

/-- Waits until a target is attached, scrolls to it, waits until it is visible, and refuses it if
it is not enabled. -/
def prepare (scenario : Scenario W T) (target : Target) (limit : Quantity T) :
    Activity (Scene W) Unit := do
  scenario.act target (.waitFor .attached limit)
  scenario.act target (.scrollIntoView limit)
  scenario.act target (.waitFor .visible limit)
  if !(← scenario.isEnabled target) then throw .elementDisabled

/-- Does the second thing where the first fails, unless the session is lost. -/
def orElse (first second : Activity (Scene W) Unit) : Activity (Scene W) Unit := do
  match ← first.attempt with
  | .ok _ => return ()
  | .error failure => if failure.isSessionLost then throw failure else second

/-- Clicks, and by force if the browser does not think that the element can be clicked. -/
def click (scenario : Scenario W T) (target : Target) (double : Bool) (patience : Patience T) :
    Activity (Scene W) Unit := do
  let limit := patience.limit
  scenario.prepare target limit
  orElse (scenario.act target (.click double false limit))
    (scenario.act target (.click double true limit))

def hover (scenario : Scenario W T) (target : Target) (patience : Patience T) :
    Activity (Scene W) Unit := do
  let limit := patience.limit
  scenario.prepare target limit
  orElse (scenario.act target (.hover false limit)) (scenario.act target (.hover true limit))

/-- Polls until the page shows a change, four times a second or once. -/
def confirm (scenario : Scenario W T) (shown : String) (timeout : T)
    (test : Activity (Scene W) Bool) : Activity (Scene W) Unit :=
  let polling : Polling T :=
    { timeout, interval := Scale.earlier Polling.defaultInterval timeout
      awaited := s!"element to show {shown}", kind := .mutationNotConfirmed }
  polling.test scenario.clock scenario.fuel test

def holdsValue (scenario : Scenario W T) (target : Target) (value : String) :
    Activity (Scene W) Bool := do
  return (← scenario.ask target .inputValue) == value

/-- Empties a field and fills it; the field has to show the value. -/
def fillField (scenario : Scenario W T) (target : Target) (value : String) (patience : Patience T)
    (confirmTimeout : T) : Activity (Scene W) Unit := do
  let limit := patience.limit
  scenario.prepare target limit
  scenario.act target (.fill "" limit)
  scenario.act target (.fill value limit)
  scenario.confirm s!"value '{value}'" confirmTimeout (scenario.holdsValue target value)

def clearField (scenario : Scenario W T) (target : Target) (patience : Patience T)
    (confirmTimeout : T) : Activity (Scene W) Unit := do
  let limit := patience.limit
  scenario.prepare target limit
  scenario.act target (.clear limit)
  scenario.confirm "empty value" confirmTimeout (scenario.holdsValue target "")

def showsOption (scenario : Scenario W T) (target : Target) (label : String) :
    Activity (Scene W) Bool := do
  return ((← scenario.ask target .selection).map Text.trim).contains label

/-- Selects an option by its label, or else by its value; the list has to show it. -/
def selectOption (scenario : Scenario W T) (target : Target) (label : String)
    (patience : Patience T) (confirmTimeout : T) : Activity (Scene W) Unit := do
  let limit := patience.limit
  scenario.prepare target limit
  orElse (scenario.act target (.select .label label limit))
    (scenario.act target (.select .value label limit))
  scenario.confirm s!"option '{label}'" confirmTimeout (scenario.showsOption target label)

/-- Submits the form around a target; without a form the Enter key has to do. -/
def submit (scenario : Scenario W T) (target : Target) (patience : Patience T) :
    Activity (Scene W) Unit := do
  scenario.prepare target patience.limit
  if !(← scenario.call (.submitForm target)) then
    scenario.act target (.press "Enter" patience.limit)

/-- Fields for files are often hidden, so it is enough that they are attached. -/
def upload (scenario : Scenario W T) (target : Target) (path : String) (patience : Patience T) :
    Activity (Scene W) Unit := do
  scenario.act target (.waitFor .attached patience.limit)
  scenario.act target (.setFiles path patience.limit)

end Scenario

end Rehearsal
