import Rehearsal.Datum.Reading
import Rehearsal.Datum.Toml
import Rehearsal.Failure
import Rehearsal.Files.Basic
import Rehearsal.Text.Blank
import Rehearsal.Text.Utf8

/-!
Settings of a run. They are put together from built-in values, a settings file, the overlay that
was chosen, and the environment, each layer over the one before; then every setting is brought
into its type.
-/

set_option autoImplicit false

namespace Rehearsal

open Failure (lift)

inductive RowPolicy where
  | abort
  | continue
  deriving DecidableEq

def RowPolicy.label : RowPolicy -> String
  | .abort => "abort"
  | .continue => "continue"

structure Settings where
  baseUrl : String
  retryAttempts : Int
  retryDelay : Float
  defaultTimeout : Float
  navigationTimeout : Float
  confirmTimeout : Float
  pollInterval : Float
  headless : Bool
  browserArguments : List String
  launchAttempts : Nat
  httpTimeout : Float
  brokerEnabled : Bool
  brokerServers : String
  brokerGroup : String
  screenshotsOnFailure : Bool
  logRoot : Path
  eventLog : Bool
  onRowFailure : RowPolicy

namespace Settings

def defaults : Table Datum :=
  [("base_url", .text ""), ("retry_attempts", .int 3), ("retry_delay_seconds", .int 2),
   ("default_timeout", .real 10.0), ("navigation_timeout", .real 30.0),
   ("confirm_timeout", .real 2.0), ("poll_interval", .real 0.25), ("headless", .bool true),
   ("browser_args", .list []), ("browser_init_attempts", .int 3), ("http_timeout", .real 30.0),
   ("broker_enabled", .bool false), ("broker_bootstrap_servers", .text "localhost:9092"),
   ("broker_group_id", .text "engine"), ("screenshots_on_failure", .bool true),
   ("log_root", .text "runs"), ("event_log", .bool true), ("on_row_failure", .text "abort")]

/-- Four words mean yes, in any case of letters and between blanks; all else means no. -/
def toSwitch (value : Datum) : Except Fault Bool := do
  return ["true", "1", "yes", "on"].contains (Text.lowercase (Text.trim (← value.written)))

def splitCommas (text : String) : List String :=
  (text.splitOn ",").map Text.trim |>.filter fun part => !part.isEmpty

/-- A text is split at its commas; a list is taken item by item. -/
def toArguments (value : Datum) : Except Fault (List String) :=
  match value with
  | .text text => .ok (splitCommas text)
  | value =>
    if value.truthy then do (← value.items).mapM Datum.written else .ok []

def dropSlashes (text : String) : String :=
  String.ofList (text.toList.reverse.dropWhile (· == '/')).reverse

def toPolicy (value : Datum) : Except Failure RowPolicy := do
  let word := Text.lowercase (← lift value.written)
  if word == "abort" then return .abort
  else if word == "continue" then return .continue
  else throw (.badRowPolicy word)

def toPath (value : Datum) : Except Fault Path :=
  match value with
  | .text text => .ok (Path.ofText text)
  | _ => .error ⟨.wrongType, "a path was wanted"⟩

/-- Brings the given settings, over the built-in ones, into their types. Names that are no
settings have no effect. -/
def ofFields (given : Table Datum) : Except Failure Settings := do
  let merged := defaults.putAll given
  let get := fun name => (merged.get? name).getD .null
  let onRowFailure ← toPolicy (get "on_row_failure")
  let baseUrl := dropSlashes (← lift (get "base_url").written)
  let retryAttempts ← lift (get "retry_attempts").toInt
  let retryDelay ← lift (get "retry_delay_seconds").toReal
  let defaultTimeout ← lift (get "default_timeout").toReal
  let navigationTimeout ← lift (get "navigation_timeout").toReal
  let confirmTimeout ← lift (get "confirm_timeout").toReal
  let pollInterval ← lift (get "poll_interval").toReal
  let headless ← lift (toSwitch (get "headless"))
  let browserArguments ← lift (toArguments (get "browser_args"))
  let launchAttempts ← lift (get "browser_init_attempts").toInt
  let httpTimeout ← lift (get "http_timeout").toReal
  let brokerEnabled ← lift (toSwitch (get "broker_enabled"))
  let brokerServers ← lift (get "broker_bootstrap_servers").written
  let brokerGroup ← lift (get "broker_group_id").written
  let screenshotsOnFailure ← lift (toSwitch (get "screenshots_on_failure"))
  let logRoot ← lift (toPath (get "log_root"))
  let eventLog ← lift (toSwitch (get "event_log"))
  return {
    baseUrl, retryAttempts, retryDelay, defaultTimeout, navigationTimeout, confirmTimeout
    pollInterval, headless, browserArguments, httpTimeout, brokerEnabled, brokerServers
    brokerGroup, screenshotsOnFailure, logRoot, eventLog, onRowFailure
    launchAttempts := max 1 launchAttempts.toNat }

/-! ## Layers -/

def variableMark : String := "ENGINE_"

/-- The variable that chooses an overlay; it is no setting. -/
def overlayVariable : String := "ENGINE_ENV"

def ofVariables (environment : Table String) : Table Datum :=
  let chosen := environment.filter fun entry =>
    variableMark.toList.isPrefixOf entry.1.toList && entry.1 != overlayVariable
  chosen.foldl (fun settings entry =>
    let name := String.ofList (entry.1.toList.drop variableMark.length)
    settings.put (Text.lowercase name) (.text entry.2)) []

/-- The name of the overlay: the one asked for, else the one that a variable chooses. -/
def overlayName? (asked : Option String) (environment : Table String) : Option String :=
  let filled := fun (name : Option String) => name.filter fun text => !text.isEmpty
  (filled asked).or (filled (environment.get? overlayVariable))

def overlayFields (value : Datum) : Except Fault (Table Datum) :=
  match value with
  | .object fields => .ok fields
  | _ => .error ⟨.wrongType, "an object was wanted"⟩

/-- The settings table of a file, with the chosen overlay over it. -/
def ofFile (document : Table Datum) (overlay : Option String) : Except Fault (Table Datum) := do
  let table ← ((document.get? "settings").getD (.object [])).toFields
  let settings := table.remove "env"
  match overlay with
  | none => return settings
  | some name =>
    let overlays ← ((table.get? "env").getD (.object [])).members
    return settings.putAll (← overlayFields ((overlays.get? name).getD (.object [])))

/-- Reads the settings file if it exists, and puts all layers together. -/
def load (files : Files) (environment : Table String) (path : Option Path)
    (overlay : Option String) : Except Failure Settings := do
  let path := path.getD (Path.ofText "settings.toml")
  let fromFile ←
    if ← lift (files.contains path) then do
      let bytes ← lift (files.read path)
      let document ← lift (Toml.read (← lift (Text.decode bytes)))
      lift (ofFile document (overlayName? overlay environment))
    else pure []
  ofFields (Table.putAll fromFile (ofVariables environment))

end Settings

end Rehearsal
