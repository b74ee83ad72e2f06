import Rehearsal.Scenario.Judging

/-!
The interpreter of scripts: a state machine over the actions of a script for one row, and after
that its assertions. Every step is retried on its own; a step that fails for good ends the run.
-/

set_option autoImplicit false

namespace Rehearsal

inductive RunState where
  /-- About to take the action at a position, counted from zero. -/
  | running (pointer : Nat)
  | succeeded
  | failed (cause : StepFailure)

/-- Where a run goes on after the action at `pointer` passed. A next index counts from one;
beyond the end the run has succeeded. -/
def RunState.next (pointer : Nat) (nextIndex : Option Int) (length : Nat) :
    Except Failure RunState :=
  let arrive := fun (pointer : Nat) =>
    if length <= pointer then RunState.succeeded else .running pointer
  match nextIndex with
  | none => .ok (arrive (pointer + 1))
  | some index =>
    if index < 1 then .error (.branchBelowOne index) else .ok (arrive (index - 1).toNat)

namespace Scenario

variable {W T : Type} [Scale T]

/-! ## Recovery -/

/-- Opens a page under the base address and waits until the browser shows it. -/
def openPage (scenario : Scenario W T) (page : String) : Activity (Scene W) StepOutcome := do
  let path ← Activity.ofExcept (scenario.catalog.pagePath page)
  let settings := scenario.settings
  let live ← scenario.livePage
  let limit := scenario.limitOf settings.navigationTimeout
  scenario.call (.visit live (settings.baseUrl ++ path) limit)
  let timeout : T := Scale.ofSeconds settings.navigationTimeout
  let polling := scenario.polling .waitTimeout timeout s!"page '{page}'"
  polling.test scenario.clock scenario.fuel (scenario.urlShows path)
  Activity.change fun scene => (scene.reloadPage page).enter page
  return .passed [("page", .text page), ("current_url", .text (← scenario.currentUrl))]

/-- Restarts a lost session and goes back to the page that the scenario was on. -/
def reopen (scenario : Scenario W T) : Activity (Scene W) Unit := do
  scenario.restartSession
  match ← Activity.look Scene.currentPage with
  | some page => discard (scenario.openPage page)
  | none => return ()

def noteAttempts (attempts : Nat) (scene : Scene W) : Scene W :=
  { scene with counts := { scene.counts with lastAttempts := attempts } }

def noteReinitialization (scene : Scene W) : Scene W :=
  { scene with counts :=
    { scene.counts with reinitializations := scene.counts.reinitializations + 1 } }

def retrier (scenario : Scenario W T) : Retrier (Scene W) T :=
  { clock := scenario.clock
    policy := { attempts := .whole scenario.settings.retryAttempts
                delay := .exact (Scale.ofSeconds scenario.settings.retryDelay) }
    reopen := some scenario.reopen
    noteAttempts, noteReinitialization }

def retry {A : Type} (scenario : Scenario W T) (description : String)
    (step : Activity (Scene W) A) : Activity (Scene W) (Except StepFailure A) :=
  scenario.retrier.run scenario.fuel description step

/-! ## Steps -/

/-- Waits, and forgets what is known of the record's page, before the step is taken. -/
def prepared {A : Type} (scenario : Scenario W T) (header : Header) (row : Option Row)
    (step : Activity (Scene W) A) : Activity (Scene W) A := do
  scenario.await header row
  if header.hasTarget then Activity.change (Scene.reloadPage (header.page.getD ""))
  step

def takeAction (scenario : Scenario W T) (action : Action) (row : Option Row) :
    Activity (Scene W) StepOutcome :=
  scenario.prepared action.header row (scenario.perform action row)

def takeAssertion (scenario : Scenario W T) (assertion : Assertion) (row : Option Row) :
    Activity (Scene W) StepOutcome :=
  scenario.prepared assertion.header row (scenario.judge assertion row)

/-! ## Events -/

def selectorDatum (resolved : Option Resolved) : Datum :=
  match resolved with
  | some resolved =>
    .object [("selector", .text resolved.selector),
             ("strategy", .text resolved.candidate.strategy.label)]
  | none => .null

def eventOf (test description : String) (record : Table Datum) (row : Option Nat) (attempts : Nat)
    (result : Except StepFailure StepOutcome) : Event :=
  let row := row.map fun number => (number : Int)
  match result with
  | .ok outcome =>
    { test, row, record, description, attempts, ok := true
      selector := selectorDatum outcome.resolved, result := .object outcome.details
      warnings := outcome.warnings, error := none, errorCode := none }
  | .error failure =>
    { test, row, record, description, attempts, ok := false, selector := .null, result := .null
      warnings := [], error := some failure.toFailure.message
      errorCode := some failure.cause.codeOrName }

/-- Adds an event to the log, if one is open. -/
def record (_ : Scenario W T) (event : Nat -> Event) : Activity (Scene W) Unit := fun scene =>
  match scene.log with
  | none => (.ok (), scene)
  | some log =>
    match log.add (event scene.counts.lastAttempts) scene.files with
    | (log, .ok files) => (.ok (), { scene with log := some log, files })
    | (log, .error fault) => (.failed (.fault fault), { scene with log := some log })

def takeStep (scenario : Scenario W T) (test description : String) (record : Table Datum)
    (row : Option Nat) (step : Activity (Scene W) StepOutcome) :
    Activity (Scene W) (Except StepFailure StepOutcome) := do
  let result ← scenario.retry description step
  scenario.record fun attempts => eventOf test description record row attempts result
  return result

/-! ## Runs -/

/-- Takes actions until the script is at its end or a step failed for good. -/
def runFrom (scenario : Scenario W T) (script : Script) (row : Option Row) (number : Option Nat) :
    (fuel : Nat) -> RunState -> Activity (Scene W) RunState
  | 0, .running _ => Activity.stall
  | fuel + 1, .running pointer => do
    match script.actions[pointer]? with
    | none => return .succeeded
    | some action =>
      let step := scenario.takeAction action row
      match ← scenario.takeStep script.test action.describe action.payload number step with
      | .error failure => return .failed failure
      | .ok outcome =>
        let state ← Activity.ofExcept
          (RunState.next pointer outcome.nextIndex script.actions.length)
        runFrom scenario script row number fuel state
  | _, state => return state

/-- Runs the actions of a script for a row; the row's number is for reports. -/
def runScript (scenario : Scenario W T) (script : Script) (row : Option Row)
    (number : Option Nat) : Activity (Scene W) RunState :=
  let state := if script.actions.isEmpty then RunState.succeeded else .running 0
  scenario.runFrom script row number scenario.fuel state

/-- Checks assertions in order; the first that fails ends it. -/
def checkAll (scenario : Scenario W T) (test : String) (row : Option Row) (number : Option Nat) :
    List Assertion -> Activity (Scene W) (List StepOutcome)
  | [] => return []
  | assertion :: rest => do
    let step := scenario.takeAssertion assertion row
    match ← scenario.takeStep test assertion.describe assertion.payload number step with
    | .error failure =>
      let stage := Stage.assertion assertion.header.index
      throw (ScriptFailure.toFailure { test, row := number, stage, step := failure })
    | .ok outcome => return outcome :: (← checkAll scenario test row number rest)

def runAssertions (scenario : Scenario W T) (script : Script) (row : Option Row)
    (number : Option Nat) : Activity (Scene W) (List StepOutcome) :=
  scenario.checkAll script.test row number script.assertions

end Scenario

end Rehearsal
