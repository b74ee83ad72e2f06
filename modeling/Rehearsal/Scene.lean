import Rehearsal.Activity
import Rehearsal.Catalog
import Rehearsal.EventLog
import Rehearsal.HandleTable
import Rehearsal.Http.Cookie.Jar
import Rehearsal.Settings
import Rehearsal.Template
import Rehearsal.Time.Retry
import Rehearsal.World

/-!
Scenes: all that a scenario changes while it runs, the world included. A scenario itself is
fixed: the world's rules, the catalog, and the settings.
-/

set_option autoImplicit false

namespace Rehearsal

structure Resolved where
  /-- Which of the scenario's findings this is, counted from zero. -/
  serial : Nat
  page : String
  element : String
  candidate : Candidate
  selector : String
  target : Target
  handle : Option Handle
  /-- How many candidates were tried in vain before. -/
  failedCandidates : Nat

/-- A browser session; a page is only held together with its browser. -/
structure Session where
  driverRuns : Bool
  browser : Option BrowserId
  context : Option ContextId
  page : Option PageId
  restarts : Nat

def Session.idle : Session :=
  { driverRuns := false, browser := none, context := none, page := none, restarts := 0 }

def Session.started (session : Session) : Bool := session.page.isSome

/-- The clients of a broker, each made on first use. -/
structure BrokerClients where
  producer : Option ProducerId
  consumer : Option ConsumerId
  topics : List String

def BrokerClients.none : BrokerClients := { producer := .none, consumer := .none, topics := [] }

structure Scene (W : Type) where
  world : W
  session : Session
  handles : HandleTable Resolved
  resolutions : Nat
  /-- Cookies by the key that they were saved under. -/
  snapshots : Table (List Datum)
  currentPage : Option String
  counts : RetryCounts
  broker : BrokerClients
  log : Option EventLog
  files : Files
  /-- The run's folders, once they are made. -/
  folders : Option RunFolders
  /-- What servers want to see again in requests. -/
  cookieJar : Http.CookieJar
  requestsClosed : Bool

namespace Scene

variable {W : Type}

def opening (world : W) (files : Files) : Scene W :=
  { world, files, session := .idle, handles := .empty, resolutions := 0, snapshots := []
    currentPage := none, counts := { lastAttempts := 0, reinitializations := 0 }, broker := .none
    log := none, folders := none, cookieJar := [], requestsClosed := false }

def setSession (update : Session -> Session) (scene : Scene W) : Scene W :=
  { scene with session := update scene.session }

def setBroker (update : BrokerClients -> BrokerClients) (scene : Scene W) : Scene W :=
  { scene with broker := update scene.broker }

def dropHandles (scene : Scene W) : Scene W := { scene with handles := .empty }

/-- Forgets what was found on a page; it is looked for anew on next use. -/
def reloadPage (page : String) (scene : Scene W) : Scene W :=
  { scene with handles := scene.handles.invalidate page }

def enter (page : String) (scene : Scene W) : Scene W := { scene with currentPage := some page }

end Scene

structure Scenario (W T : Type) where
  world : World W T
  catalog : Catalog
  settings : Settings
  run : String
  hasHttp : Bool
  fuel : Nat
  onRestart : List (Scene W -> Scene W)

namespace Scenario

variable {W T A : Type}

/-- A scenario whose handles are dropped when the session is restarted. -/
def standard (world : World W T) (catalog : Catalog) (settings : Settings) (run : String)
    (fuel : Nat) : Scenario W T :=
  { world, catalog, settings, run, fuel, hasHttp := true, onRestart := [Scene.dropHandles] }

def call (scenario : Scenario W T) (call : Call T) : Activity (Scene W) call.Answer := fun scene =>
  match scenario.world.perform call scene.world with
  | (.ok answer, world) => (.ok answer, { scene with world })
  | (.error fault, world) => (.failed (.fault fault), { scene with world })

def ask (scenario : Scenario W T) (target : Target) (asked : Query) :
    Activity (Scene W) asked.Answer :=
  scenario.call (.query target asked)

def act (scenario : Scenario W T) (target : Target) (deed : Deed T) : Activity (Scene W) Unit :=
  scenario.call (.act target deed)

def clock (scenario : Scenario W T) : Clock (Scene W) T :=
  { now := fun scene => scenario.world.clock.now scene.world
    sleep := fun span scene => { scene with world := scenario.world.clock.sleep span scene.world } }

def fill (scenario : Scenario W T) (row : Option Row) (template : String) : String :=
  Template.fill scenario.catalog.params row template

def fill? (scenario : Scenario W T) (row : Option Row) (template : Option String) : Option String :=
  template.map (scenario.fill row)

variable [Scale T]

/-- Polling at the interval of the settings. -/
def polling (scenario : Scenario W T) (kind : FailureKind) (timeout : T) (awaited : String) :
    Polling T :=
  { timeout, interval := Scale.ofSeconds scenario.settings.pollInterval, awaited, kind }

/-- The time that a record allows: its wait's, its own, or that of the settings. -/
def effectiveTimeout (scenario : Scenario W T) (header : Header) : T :=
  Scale.ofSeconds (header.effectiveTimeout scenario.settings.defaultTimeout)

end Scenario

end Rehearsal
