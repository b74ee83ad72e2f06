import Rehearsal.Comparison
import Rehearsal.Scenario.Interaction
import Rehearsal.Scenario.Messaging
import Rehearsal.Scenario.Requesting
import Rehearsal.StepOutcome

/-!
Performing actions: each operation has its effect on the browser, the broker or a server.
-/

set_option autoImplicit false

namespace Rehearsal.Scenario

variable {W T : Type} [Scale T]

def resolveFor (scenario : Scenario W T) (header : Header) (row : Option Row) :
    Activity (Scene W) Resolved :=
  scenario.resolve (header.page.getD "") (header.element.getD "") row
    (scenario.effectiveTimeout header)

def valueFor (scenario : Scenario W T) (action : Action) (row : Option Row) : String :=
  scenario.fill row (action.value.getD "")

def patienceFor (scenario : Scenario W T) (header : Header) : Patience T :=
  .seconds (.exact (scenario.effectiveTimeout header))

def confirmTimeout (scenario : Scenario W T) : T :=
  Scale.ofSeconds scenario.settings.confirmTimeout

/-- Finds the element of an action, makes sure that the page still lives, and goes on with it. -/
def onElement (scenario : Scenario W T) (header : Header) (row : Option Row)
    (details : Table Datum) (interact : Target -> Patience T -> Activity (Scene W) Unit) :
    Activity (Scene W) StepOutcome := do
  let resolved ← scenario.resolveFor header row
  discard scenario.livePage
  interact resolved.target (scenario.patienceFor header)
  return StepOutcome.onElement resolved details

def uploadFile (scenario : Scenario W T) (action : Action) (row : Option Row) :
    Activity (Scene W) StepOutcome := do
  let path := Path.ofText (scenario.valueFor action row)
  let files ← Activity.look Scene.files
  if !(← liftFault (files.contains path)) then throw (.missingUpload path.text)
  scenario.onElement action.header row [("path", .text path.text)] fun target patience =>
    scenario.upload target (files.absolute path) patience

def trigger (scenario : Scenario W T) (header : Header) (row : Option Row) :
    Activity (Scene W) (Table Datum) := do
  if !named header.element then return []
  else
    let resolved ← scenario.resolveFor header row
    discard scenario.livePage
    scenario.click resolved.target false (scenario.patienceFor header)
    return [("trigger", .text resolved.selector)]

/-- Waits for the address of a page, which a trigger may lead to. -/
def navigate (scenario : Scenario W T) (header : Header) (row : Option Row) (page : String) :
    Activity (Scene W) StepOutcome := do
  let path ← Activity.ofExcept (scenario.catalog.pagePath page)
  let triggered ← scenario.trigger header row
  let timeout := scenario.effectiveTimeout header
  let polling := scenario.polling .waitTimeout timeout s!"URL containing '{path}'"
  polling.test scenario.clock scenario.fuel (scenario.urlShows path)
  Activity.change fun scene => (scene.reloadPage page).enter page
  let url ← scenario.currentUrl
  return .passed ([("target_page", .text page)] ++ triggered ++ [("current_url", .text url)])

def conditionMet (scenario : Scenario W T) (target : Target) :
    Condition -> Activity (Scene W) Bool
  | .present => return true
  | .visible => scenario.isVisible target
  | .enabled => scenario.isEnabled target

/-- Decides where to go on. An element that is not found makes every condition false. -/
def check (scenario : Scenario W T) (action : Action) (row : Option Row) (condition : Condition)
    (ifTrueNext ifFalseNext : Nat) : Activity (Scene W) StepOutcome := do
  let report := fun (met : Bool) (resolved : Option Resolved) (warnings : List String) =>
    let details := [("condition", Datum.text condition.label), ("met", .bool met)]
    let next := Action.branch ifTrueNext ifFalseNext met
    { StepOutcome.passed details with nextIndex := some (next : Int), resolved, warnings }
  match ← (scenario.resolveFor action.header row).attempt with
  | .ok resolved =>
    let met ← scenario.conditionMet resolved.target condition
    return report met (some resolved) []
  | .error failure =>
    if failure.kind? == some .elementNotFound then return report false none [failure.message]
    else throw failure

def saveState (scenario : Scenario W T) (key : String) : Activity (Scene W) StepOutcome := do
  let cookies ← scenario.captureCookies
  Activity.change fun scene => { scene with snapshots := scene.snapshots.put key cookies }
  return .passed [("state_key", .text key), ("cookies", .int cookies.length)]

/-- A key that nothing was saved under is worth a warning and no more. -/
def loadState (scenario : Scenario W T) (key : String) : Activity (Scene W) StepOutcome := do
  let report := fun (restored : Bool) =>
    StepOutcome.passed [("state_key", .text key), ("restored", .bool restored)]
  match ← Activity.look fun scene => scene.snapshots.get? key with
  | none => return { report false with warnings := [s!"No saved state for key: {key}"] }
  | some cookies =>
    scenario.restoreCookies cookies
    Activity.change Scene.dropHandles
    return report true

/-- Steps on a broker that is switched off pass without effect. -/
def withBroker (scenario : Scenario W T) (step : Activity (Scene W) StepOutcome) :
    Activity (Scene W) StepOutcome :=
  if scenario.settings.brokerEnabled then step
  else return .passed [("skipped", .bool true)]

def produceMessage (scenario : Scenario W T) (row : Option Row) (topic : String)
    (key message : Option String) : Activity (Scene W) StepOutcome := do
  let topic := scenario.fill row topic
  let key := scenario.fill? row key
  scenario.produce topic key (scenario.fill? row message)
  return .passed [("topic", .text topic), ("key", .ofOption key)]

/-- A tenth of a second between two looks at the broker, and for each look. -/
def brokerPause : T := Scale.hundredths 10

def consumeMessage (scenario : Scenario W T) (header : Header) (row : Option Row)
    (topic key : String) (part : Option String) : Activity (Scene W) StepOutcome := do
  let topic := scenario.fill row topic
  let key := scenario.fill row key
  let part := scenario.fill? row part
  scenario.subscribe topic
  let polling : Polling T :=
    { timeout := scenario.effectiveTimeout header, interval := brokerPause
      awaited := s!"message with key '{key}' on topic '{topic}'", kind := .brokerTimeout }
  let found ← polling.run scenario.clock scenario.fuel do
    return (← scenario.fetch brokerPause).find? (Delivery.isWanted topic key part)
  return .passed
    [("topic", .text topic), ("key", .text key), ("value", .ofOption found.value)]

def httpCall (scenario : Scenario W T) (row : Option Row) (method url : String)
    (body : Option String) (headers : Table String) : Activity (Scene W) StepOutcome := do
  if !scenario.hasHttp then throw .noHttpClient
  let url := scenario.fill row url
  let headers := headers.mapValues (scenario.fill row)
  let reply ← scenario.request (scenario.fill row method) url (scenario.fill? row body) headers
  return .passed [("url", .text url), ("status", .int reply.status)]

def perform (scenario : Scenario W T) (action : Action) (row : Option Row) :
    Activity (Scene W) StepOutcome :=
  let header := action.header
  let value := scenario.valueFor action row
  let confirm := scenario.confirmTimeout
  match action.operation with
  | .enterText =>
    scenario.onElement header row [("value", .text value)] fun target patience =>
      scenario.fillField target value patience confirm
  | .click => scenario.onElement header row [] fun target => scenario.click target false
  | .doubleClick =>
    scenario.onElement header row [("click_count", .int 2)] fun target =>
      scenario.click target true
  | .selectOption =>
    scenario.onElement header row [("option", .text value)] fun target patience =>
      scenario.selectOption target value patience confirm
  | .hover => scenario.onElement header row [] scenario.hover
  | .clear =>
    scenario.onElement header row [] fun target patience =>
      scenario.clearField target patience confirm
  | .submit => scenario.onElement header row [] scenario.submit
  | .uploadFile => scenario.uploadFile action row
  | .navigate page => scenario.navigate header row page
  | .check condition ifTrueNext ifFalseNext =>
    scenario.check action row condition ifTrueNext ifFalseNext
  | .saveState key => scenario.saveState key
  | .loadState key => scenario.loadState key
  | .produce topic key message =>
    scenario.withBroker (scenario.produceMessage row topic key message)
  | .consume topic key part =>
    scenario.withBroker (scenario.consumeMessage header row topic key part)
  | .httpCall method url body headers => scenario.httpCall row method url body headers

end Rehearsal.Scenario
