import Rehearsal.CommandLine.Arguments
import Rehearsal.Scenario.Replay

/-!
Runs from the command line: settings and catalog are loaded, a scenario is started, brought to
its start page, replayed and asserted, and closed whatever came of it. Errors in what was given
are errors of usage; a scenario that fails still has a verdict.
-/

set_option autoImplicit false

namespace Rehearsal

namespace Scenario

variable {W T : Type} [Scale T]

/-- A picture for the report of a failure; it is no matter if there is none. -/
def failureScreenshot (scenario : Scenario W T) : Activity (Scene W) Unit := do
  match ← Activity.look Scene.folders with
  | none => return ()
  | some folders =>
    if scenario.settings.screenshotsOnFailure then
      discard (scenario.captureScreenshot (some folders.failureShot)).attempt

/-- Goes to the start page, replays the test and checks its assertions. -/
def rehearse (scenario : Scenario W T) (test : String) (startPage : Option String)
    (policy : Option RowPolicy) : Activity (Scene W) Unit := do
  match startPage with
  | some page => scenario.navigateTo page
  | none => pure ()
  scenario.executeTest test policy
  discard (scenario.assertTest test true)

/-- The page to begin on: the one asked for, else the one that the test begins on. -/
def startPageOf (scenario : Scenario W T) (test : String) (asked : Option String) :
    Except Failure (Option String) :=
  if named asked then .ok asked
  else (scenario.catalog.test test).map fun test => test.startPage.filter fun page => !page.isEmpty

/-- Whether the test passes. The library's own failures are an answer; all others go through. -/
def verdict (scenario : Scenario W T) (test : String) (startPage : Option String)
    (policy : Option RowPolicy) : Activity (Scene W) Bool := do
  let startPage ← Activity.ofExcept (scenario.startPageOf test startPage)
  match ← (scenario.rehearse test startPage policy).attempt with
  | .ok _ => return true
  | .error failure =>
    if failure.kind?.isSome then
      scenario.failureScreenshot
      return false
    else throw failure

/-- One scenario from start to close. Where the start fails there is nothing to close. -/
def runToEnd (scenario : Scenario W T) (test : String) (startPage : Option String)
    (policy : Option RowPolicy) : Activity (Scene W) Bool := do
  scenario.start
  let result ← (scenario.verdict test startPage policy).attempt
  scenario.close
  Activity.ofExcept result

end Scenario

namespace CommandLine

structure Plan where
  arguments : Arguments
  test : String
  catalog : Catalog
  settings : Settings

/-- Failures that mean that something wrong was given. -/
def isGiven (failure : Failure) : Bool := failure.kind?.isSome || failure.isBadValue

/-- The catalog and the test have to be words. -/
def needWord (given : Given) : Except Failure String :=
  match given with
  | .word text => .ok text
  | .dashes => .error (.fault ⟨.wrongType, "a word was wanted"⟩)

/-- Errors in what was given come before the run. -/
def loadPlan (files : Files) (environment : Table String) (arguments : Arguments) (path : Path) :
    Except Failure Plan := do
  let config := (Arguments.filled? arguments.config).map Path.ofText
  let overlay := Arguments.filled? arguments.overlay
  let settings ← Settings.load files environment config overlay
  let catalog ← Catalog.load files path
  let test ← needWord arguments.test
  discard (catalog.test test)
  return { arguments, test, catalog, settings }

/-- Reads a command line and all that it names: a plan, or how it ends without a run. -/
def readPlan (files : Files) (environment : Table String) (words : List String) :
    Except Failure (Except Usage Plan) :=
  match Arguments.read words with
  | .error usage => .ok (.error usage)
  | .ok arguments => do
    let path := Path.ofText (← needWord arguments.catalog)
    if !(← Failure.lift (files.contains path)) then
      return .error (.wrong s!"Catalog file {path.text} does not exist")
    match loadPlan files environment arguments path with
    | .ok plan => return .ok plan
    | .error failure =>
      if isGiven failure then return .error (.wrong failure.message) else throw failure

namespace Plan

variable {W T : Type}

/-- The scenario of a plan, under the run's name or the one given for runs without a name. -/
def scenario (plan : Plan) (world : World W T) (otherwise : String) (fuel : Nat) : Scenario W T :=
  let run := (Arguments.filled? plan.arguments.run).getD otherwise
  Scenario.standard world plan.catalog plan.settings run fuel

/-- Runs the plan's test; the answer is whether it passed. -/
def run [Scale T] (plan : Plan) (scenario : Scenario W T) : Activity (Scene W) Bool :=
  let policy := RowPolicy.asked (Arguments.filled? plan.arguments.onRowFailure)
  scenario.runToEnd plan.test (Arguments.filled? plan.arguments.startPage) policy

end Plan

end CommandLine

end Rehearsal
