import Rehearsal.Proofs.Files.Paths
import Rehearsal.Proofs.Settings.Layers

/-!
Settings in normal form. Each setting is the value of its name, brought into its type; brought into
its type once more it stays the same.
-/

set_option autoImplicit false

namespace Rehearsal.Settings

open Failure (lift)

variable {given : Table Datum} {settings : Settings} {value : String -> Datum}

/-- Every setting is what the value of its name means. -/
structure Brings (value : String -> Datum) (settings : Settings) : Prop where
  onRowFailure : toPolicy (value "on_row_failure") = .ok settings.onRowFailure
  baseUrl : (value "base_url").written.map dropSlashes = .ok settings.baseUrl
  retryAttempts : (value "retry_attempts").toInt = .ok settings.retryAttempts
  retryDelay : (value "retry_delay_seconds").toReal = .ok settings.retryDelay
  defaultTimeout : (value "default_timeout").toReal = .ok settings.defaultTimeout
  navigationTimeout : (value "navigation_timeout").toReal = .ok settings.navigationTimeout
  confirmTimeout : (value "confirm_timeout").toReal = .ok settings.confirmTimeout
  pollInterval : (value "poll_interval").toReal = .ok settings.pollInterval
  headless : toSwitch (value "headless") = .ok settings.headless
  browserArguments : toArguments (value "browser_args") = .ok settings.browserArguments
  launchAttempts : (value "browser_init_attempts").toInt.map (fun count => max 1 count.toNat) =
    .ok settings.launchAttempts
  httpTimeout : (value "http_timeout").toReal = .ok settings.httpTimeout
  brokerEnabled : toSwitch (value "broker_enabled") = .ok settings.brokerEnabled
  brokerServers : (value "broker_bootstrap_servers").written = .ok settings.brokerServers
  brokerGroup : (value "broker_group_id").written = .ok settings.brokerGroup
  screenshotsOnFailure : toSwitch (value "screenshots_on_failure") =
    .ok settings.screenshotsOnFailure
  logRoot : toPath (value "log_root") = .ok settings.logRoot
  eventLog : toSwitch (value "event_log") = .ok settings.eventLog

/-- The value that a table gives a name, over the built-in ones. -/
def valueIn (given : Table Datum) (name : String) : Datum :=
  ((defaults.putAll given).get? name).getD .null

theorem get?_merged {name : String} (known : name ∈ defaults.keys) :
    (defaults.putAll given).get? name = some (valueIn given name) := by
  obtain ⟨builtin, held⟩ := Table.exists_get? known
  obtain ⟨value, held⟩ := Table.exists_get?_putAll given held
  rw [valueIn, held, Option.getD_some]

theorem map_eq_ok {A B : Type} {result : Except Fault A} {f : A -> B} {value : B} :
    result.map f = .ok value ↔ ∃ middle, result = .ok middle ∧ f middle = value := by
  cases result <;> simp [Except.map]

theorem ofFields_eq_ok : ofFields given = .ok settings ↔ Brings (valueIn given) settings := by
  constructor
  · intro read
    simp only [ofFields, bind_eq_ok, lift_eq_ok] at read
    obtain ⟨_, onRowFailure, _, baseUrl, _, retryAttempts, _, retryDelay, _, defaultTimeout, _,
      navigationTimeout, _, confirmTimeout, _, pollInterval, _, headless, _, browserArguments, _,
      launchAttempts, _, httpTimeout, _, brokerEnabled, _, brokerServers, _, brokerGroup, _,
      screenshotsOnFailure, _, logRoot, _, eventLog, same⟩ := read
    cases same
    exact {
      onRowFailure, retryAttempts, retryDelay, defaultTimeout, navigationTimeout, confirmTimeout
      pollInterval, headless, browserArguments, httpTimeout, brokerEnabled, brokerServers
      brokerGroup, screenshotsOnFailure, logRoot, eventLog
      baseUrl := map_eq_ok.mpr ⟨_, baseUrl, rfl⟩
      launchAttempts := map_eq_ok.mpr ⟨_, launchAttempts, rfl⟩ }
  · intro brings
    obtain ⟨url, written, shown⟩ := map_eq_ok.mp brings.baseUrl
    obtain ⟨count, read, counted⟩ := map_eq_ok.mp brings.launchAttempts
    simp only [ofFields, bind_eq_ok, lift_eq_ok]
    refine ⟨_, brings.onRowFailure, url, written, _, brings.retryAttempts, _, brings.retryDelay, _,
      brings.defaultTimeout, _, brings.navigationTimeout, _, brings.confirmTimeout, _,
      brings.pollInterval, _, brings.headless, _, brings.browserArguments, count, read, _,
      brings.httpTimeout, _, brings.brokerEnabled, _, brings.brokerServers, _, brings.brokerGroup,
      _, brings.screenshotsOnFailure, _, brings.logRoot, _, brings.eventLog, ?_⟩
    rw [shown, counted]
    rfl

/-! ## Normal form -/

/-- The settings under their names, as a file could give them. -/
def fields (settings : Settings) : Table Datum :=
  [("base_url", .text settings.baseUrl), ("retry_attempts", .int settings.retryAttempts),
   ("retry_delay_seconds", .real settings.retryDelay),
   ("default_timeout", .real settings.defaultTimeout),
   ("navigation_timeout", .real settings.navigationTimeout),
   ("confirm_timeout", .real settings.confirmTimeout),
   ("poll_interval", .real settings.pollInterval), ("headless", .bool settings.headless),
   ("browser_args", .list (settings.browserArguments.map Datum.text)),
   ("browser_init_attempts", .int settings.launchAttempts),
   ("http_timeout", .real settings.httpTimeout), ("broker_enabled", .bool settings.brokerEnabled),
   ("broker_bootstrap_servers", .text settings.brokerServers),
   ("broker_group_id", .text settings.brokerGroup),
   ("screenshots_on_failure", .bool settings.screenshotsOnFailure),
   ("log_root", .text settings.logRoot.text), ("event_log", .bool settings.eventLog),
   ("on_row_failure", .text settings.onRowFailure.label)]

structure IsNormal (settings : Settings) : Prop where
  baseUrl : settings.baseUrl.toList.getLast? ≠ some '/'
  onRowFailure : settings.onRowFailure.label ∈ ["abort", "continue"]
  launchAttempts : 1 ≤ settings.launchAttempts
  again : ofFields settings.fields = .ok settings

theorem getLast?_dropSlashes (text : String) : (dropSlashes text).toList.getLast? ≠ some '/' := by
  intro slash
  rw [dropSlashes, String.toList_ofList, List.getLast?_reverse] at slash
  have other := List.head?_dropWhile_not (· == '/') text.toList.reverse
  rw [slash] at other
  cases other

theorem dropSlashes_eq_self {text : String} (other : text.toList.getLast? ≠ some '/') :
    dropSlashes text = text := by
  rw [List.getLast?_eq_head?_reverse] at other
  rw [dropSlashes, List.dropWhile_beq_eq_self_of_head?_ne other, List.reverse_reverse,
    String.ofList_toList]

theorem toSwitch_bool (truth : Bool) : toSwitch (.bool truth) = .ok truth := by
  cases truth <;> rfl

theorem toPolicy_label (policy : RowPolicy) : toPolicy (.text policy.label) = .ok policy := by
  cases policy <;> rfl

theorem mapM_written (texts : List String) :
    (texts.map Datum.text).mapM Datum.written = .ok texts := by
  induction texts with
  | nil => rfl
  | cons text rest ih =>
    rw [List.map_cons, List.mapM_cons, ih]
    rfl

theorem toArguments_list (texts : List String) :
    toArguments (.list (texts.map Datum.text)) = .ok texts := by
  cases texts with
  | nil => rfl
  | cons text rest => exact mapM_written (text :: rest)

theorem toPath_text {value : Datum} {path : Path} (read : toPath value = .ok path) :
    toPath (.text path.text) = .ok path := by
  unfold toPath at read
  split at read
  next text =>
    cases read
    exact congrArg Except.ok (Path.ofText_text_ofText text)
  next => cases read

theorem nodup_fields (settings : Settings) : settings.fields.keys.Nodup := by
  change defaults.keys.Nodup
  decide

theorem valueIn_fields (settings : Settings) : valueIn settings.fields = fun name =>
    ((settings.fields.get? name).or (defaults.get? name)).getD .null := by
  funext name
  rw [valueIn, Table.get?_putAll _ (nodup_fields settings)]

theorem Brings.again (brings : Brings value settings) :
    Brings (valueIn settings.fields) settings := by
  obtain ⟨url, -, shown⟩ := map_eq_ok.mp brings.baseUrl
  obtain ⟨count, -, counted⟩ := map_eq_ok.mp brings.launchAttempts
  have trimmed : dropSlashes settings.baseUrl = settings.baseUrl :=
    dropSlashes_eq_self (shown ▸ getLast?_dropSlashes url)
  have enough : max 1 settings.launchAttempts = settings.launchAttempts :=
    Nat.max_eq_right (counted ▸ Nat.le_max_left 1 _)
  rw [valueIn_fields]
  -- Numbers and texts come back as they are; the others have a lemma each.
  exact {
    onRowFailure := toPolicy_label _
    baseUrl := congrArg Except.ok trimmed
    retryAttempts := rfl
    retryDelay := rfl
    defaultTimeout := rfl
    navigationTimeout := rfl
    confirmTimeout := rfl
    pollInterval := rfl
    headless := toSwitch_bool _
    browserArguments := toArguments_list _
    launchAttempts := congrArg Except.ok enough
    httpTimeout := rfl
    brokerEnabled := toSwitch_bool _
    brokerServers := rfl
    brokerGroup := rfl
    screenshotsOnFailure := toSwitch_bool _
    logRoot := toPath_text brings.logRoot
    eventLog := toSwitch_bool _ }

theorem Brings.isNormal (brings : Brings value settings) : settings.IsNormal where
  baseUrl := by
    obtain ⟨url, -, shown⟩ := map_eq_ok.mp brings.baseUrl
    exact shown ▸ getLast?_dropSlashes url
  onRowFailure := by cases settings.onRowFailure <;> simp [RowPolicy.label]
  launchAttempts := by
    obtain ⟨count, -, counted⟩ := map_eq_ok.mp brings.launchAttempts
    exact counted ▸ Nat.le_max_left 1 _
  again := ofFields_eq_ok.mpr brings.again

/-! ## Loading -/

theorem Brings.congr {other : String -> Datum} (brings : Brings value settings)
    (same : ∀ name ∈ defaults.keys, other name = value name) : Brings other settings := by
  cases brings
  constructor
  all_goals
    rw [same _ (by decide)]
    assumption

theorem ofFields_congr {value : String -> Datum} (brings : Brings value settings)
    (same : ∀ name ∈ defaults.keys, valueIn given name = value name) :
    ofFields given = .ok settings :=
  ofFields_eq_ok.mpr (brings.congr same)

/-- Settings that were loaded are, name by name, what the first layer that has the name says. They
do not depend on names that are no settings, and are in normal form. -/
theorem load_brings {files : Files} {environment : Table String} {path : Option Path}
    {asked : Option String} (unambiguous : Unambiguous environment)
    (loaded : load files environment path asked = .ok settings) :
    ∃ table overlay value, Layers files environment path asked table overlay ∧
      (∀ name ∈ defaults.keys, Chosen environment overlay table name (value name)) ∧
      Brings value settings ∧
      (∀ given, (∀ name ∈ defaults.keys, valueIn given name = value name) →
        ofFields given = .ok settings) ∧
      settings.IsNormal := by
  obtain ⟨table, overlay, layers, read⟩ := load_layers loaded
  have brings := ofFields_eq_ok.mp read
  refine ⟨table, overlay, _, layers, ?_, brings, fun _ => ofFields_congr brings, brings.isNormal⟩
  intro name known
  have other : name ≠ "env" := by
    rintro rfl
    exact absurd known (by decide)
  exact chosen_of_get? unambiguous layers other (get?_merged known)

/-- The settings of an application, and of one that is under test. -/
def sampleText : String :=
  "[settings]\nbase_url = 'https://app.test/'\nretry_attempts = 5\nother = 1\n" ++
    "[settings.env.qa]\nbase_url = 'https://qa.app.test/'\n"

def sampleFiles : Files := Files.ofList "/" [("settings.toml", sampleText.toUTF8)]

theorem load_sample :
    let environment : Table String := [("ENGINE_RETRY_ATTEMPTS", "7"), ("ENGINE_ENV", "qa")]
    Unambiguous environment ∧ ∃ settings,
      load sampleFiles environment none none = .ok settings ∧
      settings.baseUrl = "https://qa.app.test" ∧ settings.retryAttempts = 7 ∧
      settings.IsNormal := by
  intro environment
  have unambiguous : Unambiguous environment := by
    refine List.pairwise_pair.mpr fun name _ names => ?_
    exact names.other rfl
  have loads : ((load sampleFiles environment none none).toOption.map fun settings =>
      (settings.baseUrl, settings.retryAttempts)) = some ("https://qa.app.test", 7) := by
    decide +kernel
  obtain ⟨settings, told, same⟩ := Option.map_eq_some_iff.mp loads
  obtain ⟨url, attempts⟩ := Prod.mk.inj same
  have loaded : load sampleFiles environment none none = .ok settings := by
    cases result : load sampleFiles environment none none with
    | error failure =>
      rw [result] at told
      cases told
    | ok given =>
      rw [result] at told
      cases told
      rfl
  obtain ⟨_, _, _, _, _, _, _, normal⟩ := load_brings unambiguous loaded
  exact ⟨unambiguous, settings, loaded, url, attempts, normal⟩

end Rehearsal.Settings
