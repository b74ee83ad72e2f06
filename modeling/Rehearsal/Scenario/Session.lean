import Rehearsal.Scene

/-!
The browser session of a scenario: started, restarted and closed. A start makes a bounded number
of attempts, and each of them first closes the browser that the one before may have left.
-/

set_option autoImplicit false

namespace Rehearsal.Scenario

variable {W T : Type}

/-- The session's page, unless there is none or it was closed. -/
def livePage (scenario : Scenario W T) : Activity (Scene W) PageId := do
  match ← Activity.look fun scene => scene.session.page with
  | none => throw .noPage
  | some page =>
    if ← Activity.look fun scene => scenario.world.isClosed scene.world page then throw .noPage
    else return page

def currentUrl (scenario : Scenario W T) : Activity (Scene W) String := do
  let page ← scenario.livePage
  Activity.look fun scene => scenario.world.url scene.world page

/-- Lets go of the browser before it is asked to close; a failure of that is ignored. -/
def closeBrowser (scenario : Scenario W T) : Activity (Scene W) Unit := do
  let browser ← Activity.look fun scene => scene.session.browser
  Activity.change <| Scene.setSession fun session =>
    { session with browser := none, context := none, page := none }
  match browser with
  | none => return ()
  | some browser => discard (scenario.call (.closeBrowser browser)).attempt

def closeSession (scenario : Scenario W T) : Activity (Scene W) Unit := do
  scenario.closeBrowser
  if ← Activity.look fun scene => scene.session.driverRuns then
    discard (scenario.call .stopDriver).attempt
    Activity.change <| Scene.setSession fun session => { session with driverRuns := false }

variable [Scale T]

/-- A setting in seconds as a limit of a call. -/
def limitOf (_ : Scenario W T) (seconds : Float) : Quantity T :=
  .exact (Scale.thousandfold (Scale.ofSeconds seconds))

/-- One attempt at a session with a page. What was made before a failure stays held. -/
def launch (scenario : Scenario W T) : Activity (Scene W) Unit := do
  let settings := scenario.settings
  if !(← Activity.look fun scene => scene.session.driverRuns) then
    scenario.call .startDriver
    Activity.change <| Scene.setSession fun session => { session with driverRuns := true }
  let browser ← scenario.call (.launch settings.headless settings.browserArguments)
  Activity.change <| Scene.setSession fun session => { session with browser := some browser }
  let context ← scenario.call (.newContext browser)
  Activity.change <| Scene.setSession fun session => { session with context := some context }
  let page ← scenario.call (.newPage context)
  Activity.change <| Scene.setSession fun session => { session with page := some page }
  scenario.call (.setPatience page (scenario.limitOf settings.defaultTimeout))

def launchPause (scenario : Scenario W T) : Activity (Scene W) Unit :=
  Activity.change (scenario.clock.sleep (Scale.hundredths 200))

def launchAttempts (scenario : Scenario W T) (total : Nat) : Nat -> Activity (Scene W) Unit
  | 0 => return ()
  | left + 1 => do
    scenario.closeBrowser
    match ← scenario.launch.attempt with
    | .ok _ => return ()
    | .error failure =>
      if left == 0 then throw (.launchFailed total failure)
      else do
        scenario.launchPause
        launchAttempts scenario total left

def startSession (scenario : Scenario W T) : Activity (Scene W) Unit :=
  scenario.launchAttempts scenario.settings.launchAttempts scenario.settings.launchAttempts

/-- Starts anew, and tells those who listen if that went well. -/
def restartSession (scenario : Scenario W T) : Activity (Scene W) Unit := do
  Activity.change <| Scene.setSession fun session =>
    { session with restarts := session.restarts + 1 }
  scenario.startSession
  Activity.change fun scene => scenario.onRestart.foldl (fun scene listener => listener scene) scene

def screenshot (scenario : Scenario W T) : Activity (Scene W) ByteArray := do
  scenario.call (.screenshot (← scenario.livePage))

def sessionContext (_ : Scenario W T) : Activity (Scene W) ContextId := do
  match ← Activity.look fun scene => scene.session.context with
  | some context => return context
  | none => throw .noContext

def captureCookies (scenario : Scenario W T) : Activity (Scene W) (List Datum) := do
  scenario.call (.cookies (← scenario.sessionContext))

/-- Puts saved cookies in the place of the present ones and loads the page anew. -/
def restoreCookies (scenario : Scenario W T) (cookies : List Datum) : Activity (Scene W) Unit := do
  let context ← scenario.sessionContext
  scenario.call (.clearCookies context)
  if !cookies.isEmpty then scenario.call (.addCookies context cookies)
  scenario.call (.reload (← scenario.livePage))

end Rehearsal.Scenario
