import Rehearsal.Interpreter

/-!
Replaying tests: a scenario is started, brought to a page, replayed once for every row of the
test's dataset, asserted, and closed.
-/

set_option autoImplicit false

namespace Rehearsal

/-- A policy that was asked for by a word. Without one the settings decide; any word but
`continue` means to stop at the first row that fails. -/
def RowPolicy.asked (word : Option String) : Option RowPolicy :=
  match word with
  | none | some "" => none
  | some "continue" => some .continue
  | some _ => some .abort

namespace Scenario

variable {W T : Type}

def changeFiles (_ : Scenario W T) (change : Files -> Except Fault Files) :
    Activity (Scene W) Unit := fun scene =>
  match change scene.files with
  | .ok files => (.ok (), { scene with files })
  | .error fault => (.failed (.fault fault), scene)

/-- Opens the event log, unless it is open or not wanted. -/
def openLog (scenario : Scenario W T) (folders : RunFolders) :
    Activity (Scene W) Unit := fun scene =>
  if !scenario.settings.eventLog || scene.log.isSome then (.ok (), scene)
  else
    match EventLog.start scenario.run folders scene.files with
    | .ok (log, files) => (.ok (), { scene with log := some log, files })
    | .error fault => (.failed (.fault fault), scene)

/-- Closes the log, the broker's clients, the client for requests and the session, in this
order; a failure of the broker keeps the rest open. -/
def close (scenario : Scenario W T) : Activity (Scene W) Unit := do
  Activity.change fun scene => { scene with log := none }
  if scenario.settings.brokerEnabled then scenario.closeBroker
  Activity.change fun scene => { scene with requestsClosed := true }
  scenario.closeSession

variable [Scale T]

/-- Makes the run's folders, opens the log, and starts the session if it is not running. -/
def start (scenario : Scenario W T) : Activity (Scene W) Unit := do
  let folders := RunFolders.under (scenario.settings.logRoot.child scenario.run)
  scenario.changeFiles folders.make
  Activity.change fun scene => { scene with folders := some folders }
  scenario.openLog folders
  if !(← Activity.look fun scene => scene.session.started) then scenario.startSession

/-- Goes to a page, with retries like any step. -/
def navigateTo (scenario : Scenario W T) (page : String) : Activity (Scene W) Unit := do
  match ← scenario.retry s!"Navigate to page '{page}'" (scenario.openPage page) with
  | .ok _ => return ()
  | .error failure => throw failure.toFailure

/-- Runs a script's actions for one row; a step that failed for good is the script's failure. -/
def runRow (scenario : Scenario W T) (script : Script) (row : Option Row) (number : Option Nat) :
    Activity (Scene W) (Except ScriptFailure Unit) := do
  match ← scenario.runScript script row number with
  | .failed step => return .error { test := script.test, row := number, stage := .actions, step }
  | _ => return .ok ()

/-- Restarts the session before a row and opens the start page, if the test asks for that. -/
def resetFor (scenario : Scenario W T) (test : Test) : Activity (Scene W) Unit := do
  if test.resetsSession then
    scenario.restartSession
    match test.startPage with
    | some page => if !page.isEmpty then discard (scenario.openPage page)
    | none => return ()

/-- Replays the rows in order and collects the failures that do not stop the rest. -/
def replayRows (scenario : Scenario W T) (test : Test) (policy : RowPolicy) :
    (number : Nat) -> List ScriptFailure -> List Row -> Activity (Scene W) (List ScriptFailure)
  | _, failures, [] => return failures
  | number, failures, row :: rest => do
    scenario.resetFor test
    match ← scenario.runRow test.script (some row) (some number) with
    | .ok _ => replayRows scenario test policy (number + 1) failures rest
    | .error failure =>
      if policy == .continue then
        replayRows scenario test policy (number + 1) (failures ++ [failure]) rest
      else throw failure.toFailure

/-- Runs a test's actions, once for every row of its dataset or once without one. -/
def executeTest (scenario : Scenario W T) (name : String) (asked : Option RowPolicy) :
    Activity (Scene W) Unit := do
  let test ← Activity.ofExcept (scenario.catalog.test name)
  match test.rows with
  | none =>
    match ← scenario.runRow test.script none none with
    | .ok _ => return ()
    | .error failure => throw failure.toFailure
  | some rows =>
    let policy := asked.getD scenario.settings.onRowFailure
    let failures ← scenario.replayRows test policy 1 [] rows
    if !failures.isEmpty then throw (DatasetFailure.toFailure { test := name, failures })

def assertRows (scenario : Scenario W T) (script : Script) :
    (number : Nat) -> List Row -> Activity (Scene W) (List StepOutcome)
  | _, [] => return []
  | number, row :: rest => do
    let outcomes ← scenario.runAssertions script (some row) (some number)
    return outcomes ++ (← assertRows scenario script (number + 1) rest)

/-- Checks a test's assertions, once for every row of its dataset; once without a row if it has
none or if rows are not wanted. -/
def assertTest (scenario : Scenario W T) (name : String) (perRow : Bool) :
    Activity (Scene W) (List StepOutcome) := do
  let test ← Activity.ofExcept (scenario.catalog.test name)
  match if perRow then test.rows.getD [] else [] with
  | [] => scenario.runAssertions test.script none none
  | rows => scenario.assertRows test.script 1 rows

/-- Takes a picture of the page, and writes it to a file if one is named. -/
def captureScreenshot (scenario : Scenario W T) (path : Option Path) :
    Activity (Scene W) ByteArray := do
  let bytes ← scenario.screenshot
  match path with
  | none => return bytes
  | some path =>
    scenario.changeFiles fun files => do (← files.makeFolder path.parent).write path bytes
    return bytes

end Scenario

end Rehearsal
