import Rehearsal.Scenario.Lookup
import Rehearsal.Text.Search

/-!
Waiting for the condition that a record names before its step is taken. Every condition is
probed anew in each round, on the page as it then is.
-/

set_option autoImplicit false

namespace Rehearsal.Scenario

variable {W T : Type}

/-- The most matches of one candidate that a condition looks at. -/
def mostMatches : Nat := 10

/-- Whether a test holds somewhere; what follows is not asked any more. -/
def anyOf {A : Type} (test : A -> Activity (Scene W) Bool) : List A -> Activity (Scene W) Bool
  | [] => return false
  | item :: rest => do
    if ← test item then return true else anyOf test rest

def anyMatch (scenario : Scenario W T) (test : Target -> Activity (Scene W) Bool)
    (target : Target) : Activity (Scene W) Bool := do
  let count ← scenario.ask target .count
  anyOf (fun index => test (target.nth index)) (List.range (min count mostMatches))

def isVisible (scenario : Scenario W T) (target : Target) : Activity (Scene W) Bool :=
  scenario.ask target .isVisible

def isEnabled (scenario : Scenario W T) (target : Target) : Activity (Scene W) Bool :=
  scenario.ask target .isEnabled

def isClickable (scenario : Scenario W T) (target : Target) : Activity (Scene W) Bool := do
  if ← scenario.isVisible target then scenario.isEnabled target else return false

def showsText (scenario : Scenario W T) (text : String) (target : Target) :
    Activity (Scene W) Bool := do
  return Text.contains (← scenario.ask target .innerText) text

def anyLead (scenario : Scenario W T) (page element : String) (row : Option Row)
    (test : Target -> Activity (Scene W) Bool) : Activity (Scene W) Bool := do
  anyOf (fun lead => test lead.target) (← scenario.leads page element row)

/-- Whether the element behind a handle has left the page. Errors mean that it has, unless the
session itself is lost; without a handle there is nothing left to leave. -/
def isGone (scenario : Scenario W T) : Option Handle -> Activity (Scene W) Bool
  | none => return true
  | some handle => do
    match ← (scenario.call (.isDetached handle)).attempt with
    | .ok gone => return gone
    | .error failure => if failure.isSessionLost then throw (.sessionLost failure) else return true

def urlShows (scenario : Scenario W T) (part : String) : Activity (Scene W) Bool := do
  return Text.contains (← scenario.currentUrl) part

/-- Whether a script of the page answers with true itself. -/
def scriptHolds (scenario : Scenario W T) (script : String) : Activity (Scene W) Bool := do
  match ← scenario.call (.evaluate (← scenario.livePage) script) with
  | .bool true => return true
  | _ => return false

variable [Scale T]

/-- The test of a condition. Waiting for an element to leave starts with finding it. -/
def testOf (scenario : Scenario W T) (condition : WaitCondition) (page element : String)
    (row : Option Row) (timeout : T) : Activity (Scene W) (Activity (Scene W) Bool) := do
  match condition with
  | .visible => return scenario.anyLead page element row (scenario.anyMatch scenario.isVisible)
  | .clickable => return scenario.anyLead page element row (scenario.anyMatch scenario.isClickable)
  | .present => return scenario.anyLead page element row scenario.hasMatch
  | .invisible =>
    return do
      return !(← scenario.anyLead page element row (scenario.anyMatch scenario.isVisible))
  | .textPresent text =>
    let shows := scenario.showsText (scenario.fill row text)
    return scenario.anyLead page element row (scenario.anyMatch shows)
  | .stale =>
    let resolved ← scenario.resolve page element row timeout
    return scenario.isGone resolved.handle
  | .urlContains fragment => return scenario.urlShows (scenario.fill row fragment)
  | .custom script => return scenario.scriptHolds (scenario.fill row script)

/-- What messages call the thing that is waited for. -/
def subjectOf (element : Option String) : String :=
  if named element then element.getD "" else "page"

/-- Waits as a record asks for, if it does. -/
def await (scenario : Scenario W T) (header : Header) (row : Option Row) :
    Activity (Scene W) Unit := do
  match header.wait with
  | none => return ()
  | some wait =>
    let timeout := scenario.effectiveTimeout header
    let page := header.page.getD ""
    let element := header.element.getD ""
    let test ← scenario.testOf wait.condition page element row timeout
    let awaited := s!"wait '{wait.condition.kind}' on {subjectOf header.element}"
    (scenario.polling .waitTimeout timeout awaited).test scenario.clock scenario.fuel test

end Rehearsal.Scenario
