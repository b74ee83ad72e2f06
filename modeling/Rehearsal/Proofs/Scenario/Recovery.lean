import Rehearsal.Proofs.Activity.Conduct
import Rehearsal.Proofs.Scenario.Arrival
import Rehearsal.Proofs.Time.RetryHistory
import Rehearsal.Scenario.Session

/-!
Recovery of a lost session. The session is restarted once, which visits nothing; if that goes well,
the page that the scenario was on is visited once, unless the new page is closed already. A recovery
that passes leaves a new browser on that page, with nothing found there yet.
-/

set_option autoImplicit false

namespace Rehearsal

open Activity

def Call.isOfSession {T : Type} : Call T -> Bool
  | .startDriver | .stopDriver | .launch _ _ | .newContext _ | .newPage _ | .setPatience _ _
  | .closeBrowser _ => true
  | _ => false

namespace Scenario

variable {W T : Type}

/-- A conduct that allows for what is done to start or to close a session. -/
structure PermitsSession (scenario : Scenario W T) (conduct : Conduct (Scene W)) : Prop where
  called : ∀ call : Call T, call.isOfSession = true → (scenario.call call).Follows conduct
  slept : ∀ span scene, conduct.leads scene (scenario.clock.sleep span scene)
  holds : ∀ update, (∀ session, Session.restarts (update session) = session.restarts) →
    ∀ scene : Scene W, conduct.leads scene (scene.setSession update)
  exhausted : ∀ total failure, conduct.raises failure →
    conduct.raises (.launchFailed total failure)

section

variable [Scale T] (scenario : Scenario W T)

def provide : Activity (Scene W) Unit := do
  let settings := scenario.settings
  let browser ← scenario.call (.launch settings.headless settings.browserArguments)
  change <| Scene.setSession fun session => { session with browser := some browser }
  let context ← scenario.call (.newContext browser)
  change <| Scene.setSession fun session => { session with context := some context }
  let page ← scenario.call (.newPage context)
  change <| Scene.setSession fun session => { session with page := some page }
  scenario.call (.setPatience page (scenario.limitOf settings.defaultTimeout))

theorem launch_run (scene : Scene W) :
    scenario.launch scene =
      if scene.session.driverRuns then scenario.provide scene
      else (do
        scenario.call .startDriver
        change <| Scene.setSession fun session => { session with driverRuns := true }
        scenario.provide) scene := by
  unfold launch
  rw [bind_run, look_run]
  dsimp only
  cases scene.session.driverRuns <;> rfl

end

variable {scenario : Scenario W T} {conduct : Conduct (Scene W)}
  (permits : scenario.PermitsSession conduct)

include permits

theorem setSession_follows (update : Session -> Session)
    (same : ∀ session, (update session).restarts = session.restarts) :
    (change (Scene.setSession update)).Follows conduct :=
  follows_change fun scene => permits.holds update same scene

theorem closeBrowser_follows : scenario.closeBrowser.Follows conduct := by
  refine follows_bind (follows_look _) fun browser => ?_
  refine follows_bind (setSession_follows permits _ fun _ => rfl) fun _ => ?_
  cases browser with
  | none => exact follows_pure _
  | some browser =>
    exact follows_bind_attempt (permits.called _ rfl) (fun _ => follows_pure _)
      fun _ _ => follows_pure _

theorem closeSession_follows : scenario.closeSession.Follows conduct := by
  refine follows_bind (closeBrowser_follows permits) fun _ => ?_
  refine follows_bind (follows_look _) fun driverRuns => ?_
  cases driverRuns with
  | false => exact follows_pure _
  | true =>
    refine follows_bind ?_ fun _ => setSession_follows permits _ fun _ => rfl
    exact follows_bind_attempt (permits.called _ rfl) (fun _ => follows_pure _)
      fun _ _ => follows_pure _

variable [Scale T]

theorem provide_follows : scenario.provide.Follows conduct := by
  refine follows_bind (permits.called _ rfl) fun browser => ?_
  refine follows_bind (setSession_follows permits _ fun _ => rfl) fun _ => ?_
  refine follows_bind (permits.called _ rfl) fun context => ?_
  refine follows_bind (setSession_follows permits _ fun _ => rfl) fun _ => ?_
  refine follows_bind (permits.called _ rfl) fun page => ?_
  refine follows_bind (setSession_follows permits _ fun _ => rfl) fun _ => ?_
  exact permits.called _ rfl

theorem launch_follows : scenario.launch.Follows conduct := by
  intro scene
  rw [launch_run]
  split
  · exact provide_follows permits scene
  · refine follows_bind (permits.called _ rfl) (fun _ => ?_) scene
    exact follows_bind (setSession_follows permits _ fun _ => rfl) fun _ => provide_follows permits

theorem launchAttempts_follows (total left : Nat) :
    (scenario.launchAttempts total left).Follows conduct := by
  induction left with
  | zero => exact follows_pure _
  | succ left ih =>
    refine follows_bind (closeBrowser_follows permits) fun _ => ?_
    refine follows_bind_attempt (launch_follows permits) (fun _ => follows_pure _) ?_
    intro failure allowed
    dsimp only
    split
    · exact follows_throw (permits.exhausted _ _ allowed)
    · exact follows_bind (follows_change fun scene => permits.slept _ scene) fun _ => ih

theorem startSession_follows : scenario.startSession.Follows conduct :=
  launchAttempts_follows permits _ _

end Scenario

/-! ## A lost session -/

/-- A view that shows nothing of the world, and no more of the session than its restarts. -/
structure Scene.Sessionless {W V : Type} (view : Scene W -> V) : Prop where
  world : Scene.Worldless view
  session : ∀ scene update, (∀ session, Session.restarts (update session) = session.restarts) →
    view (scene.setSession update) = view scene

/-- Settings that were read allow for one launch at least. -/
theorem Settings.ofFields_launchAttempts {given : Table Datum} {settings : Settings}
    (read : Settings.ofFields given = .ok settings) : 0 < settings.launchAttempts := by
  have yields : ∀ {A : Type} {first : Except Failure A} {next : A -> Except Failure Settings},
      (∀ value, next value = .ok settings → 0 < settings.launchAttempts) →
        (first >>= next) = .ok settings → 0 < settings.launchAttempts := by
    intro A first next each read
    cases first with
    | error failure => cases read
    | ok value => exact each value read
  revert read
  unfold Settings.ofFields
  repeat refine yields fun _ => ?_
  rintro ⟨⟩
  exact Nat.lt_of_lt_of_le Nat.one_pos (Nat.le_max_left _ _)

def Called.isVisit {T : Type} (called : Called T) : Bool :=
  match called.call with
  | .visit _ _ _ => true
  | _ => false

namespace Scenario

variable {W T A V : Type} [Scale T] (scenario : Scenario W T) {log : W -> List (Called T)}

/-! ## Launches -/

def Launches (browser : BrowserId) (context : ContextId) (page : PageId) (ready settled : W) :
    Prop :=
  let settings := scenario.settings
  ∃ launched bounded paged,
    scenario.world.perform (.launch settings.headless settings.browserArguments) ready =
      (.ok browser, launched) ∧
    scenario.world.perform (.newContext browser) launched = (.ok context, bounded) ∧
    scenario.world.perform (.newPage context) bounded = (.ok page, paged) ∧
    scenario.world.perform (.setPatience page (scenario.limitOf settings.defaultTimeout)) paged =
      (.ok (), settled)

/-- The session has the page of a browser that was launched since `before`. -/
def HasRelaunched (log : W -> List (Called T)) (before after : Scene W) : Prop :=
  ∃ browser context page ready settled,
    scenario.Launches browser context page ready settled ∧
    after.session.browser = some browser ∧ after.session.context = some context ∧
    after.session.page = some page ∧
    log before.world <+: log ready ∧ log settled <+: log after.world

variable {scenario}

omit [Scale T] in
theorem Adds.grown {A : Type} {kind : Called T -> Prop} {activity : Activity (Scene W) A}
    (adds : Adds log kind activity) {scene after : Scene W} {outcome : Outcome A}
    (ran : activity scene = (outcome, after)) : log scene.world <+: log after.world := by
  obtain ⟨made, grown, -⟩ := adds scene
  rw [ran] at grown
  exact ⟨made, grown.symm⟩

theorem HasRelaunched.since {earlier before after : Scene W}
    (grown : log earlier.world <+: log before.world)
    (relaunched : scenario.HasRelaunched log before after) :
    scenario.HasRelaunched log earlier after := by
  obtain ⟨browser, context, page, ready, settled, launches, holds, within, shows, early, late⟩ :=
    relaunched
  exact ⟨browser, context, page, ready, settled, launches, holds, within, shows,
    grown.trans early, late⟩

theorem HasRelaunched.still {before after later : Scene W}
    (relaunched : scenario.HasRelaunched log before after)
    (session : later.session = after.session) (grown : log after.world <+: log later.world) :
    scenario.HasRelaunched log before later := by
  obtain ⟨browser, context, page, ready, settled, launches, holds, within, shows, early, late⟩ :=
    relaunched
  rw [← session] at holds within shows
  exact ⟨browser, context, page, ready, settled, launches, holds, within, shows, early,
    late.trans grown⟩

theorem provide_ok {scene after : Scene W} (ran : scenario.provide scene = (.ok (), after)) :
    scenario.HasRelaunched log scene after := by
  obtain ⟨browser, _, ranLaunch, ran⟩ := (bind_ok ..).mp ran
  obtain ⟨_, launched, rfl⟩ := call_ok ranLaunch
  rw [change_bind_run] at ran
  obtain ⟨context, _, ranContext, ran⟩ := (bind_ok ..).mp ran
  obtain ⟨_, bounded, rfl⟩ := call_ok ranContext
  rw [change_bind_run] at ran
  obtain ⟨page, _, ranPage, ran⟩ := (bind_ok ..).mp ran
  obtain ⟨_, paged, rfl⟩ := call_ok ranPage
  rw [change_bind_run] at ran
  obtain ⟨_, patient, rfl⟩ := call_ok ran
  exact ⟨browser, context, page, _, _, ⟨_, _, _, launched, bounded, paged, patient⟩, rfl, rfl, rfl,
    List.prefix_rfl, List.prefix_rfl⟩

/-! ## What a restart calls -/

section

variable (logs : scenario.world.IsLog log)

include logs

omit [Scale T] in
theorem permitsSession_adding :
    scenario.PermitsSession (adding log (·.isVisit = false) fun _ => ()) where
  called call own := by
    have other : ∀ fault?, Called.isVisit ⟨call, fault?⟩ = false := by
      intro fault?
      cases call <;> first | rfl | cases own
    exact fun scene => ⟨⟨rfl, adds_call logs call other scene⟩, fun _ _ => trivial⟩
  slept span scene := ⟨rfl, [], by simpa [clock] using logs.slept span scene.world, by simp⟩
  holds _ _ _ := ⟨rfl, [], by simp [Scene.setSession], by simp⟩
  exhausted _ _ _ := trivial

omit [Scale T] in
theorem closeBrowser_adds : Adds log (·.isVisit = false) scenario.closeBrowser :=
  adds_of_follows (closeBrowser_follows (permitsSession_adding logs))

theorem launch_adds : Adds log (·.isVisit = false) scenario.launch :=
  adds_of_follows (launch_follows (permitsSession_adding logs))

theorem launchAttempts_adds (total left : Nat) :
    Adds log (·.isVisit = false) (scenario.launchAttempts total left) :=
  adds_of_follows (launchAttempts_follows (permitsSession_adding logs) total left)

theorem launch_ok {scene after : Scene W} (ran : scenario.launch scene = (.ok (), after)) :
    scenario.HasRelaunched log scene after := by
  rw [launch_run] at ran
  split at ran
  · exact provide_ok ran
  · obtain ⟨_, started, ranDriver, ran⟩ := (bind_ok ..).mp ran
    rw [change_bind_run] at ran
    have adds : Adds log (·.isVisit = false) (scenario.call .startDriver) :=
      adds_call logs _ fun _ => rfl
    exact (provide_ok ran).since (adds.grown ranDriver)

theorem launchAttempts_ok {total left : Nat} (granted : 0 < left) {scene after : Scene W}
    (ran : scenario.launchAttempts total left scene = (.ok (), after)) :
    scenario.HasRelaunched log scene after := by
  induction left generalizing scene with
  | zero => cases granted
  | succ left ih =>
    obtain ⟨_, closed, ranClose, ran⟩ := (bind_ok ..).mp ran
    refine HasRelaunched.since ((closeBrowser_adds logs).grown ranClose) ?_
    obtain ⟨launched, tried, ranLaunch, ran⟩ := (bind_ok ..).mp ran
    have grown := (adds_attempt (launch_adds logs)).grown ranLaunch
    cases launched with
    | ok _ =>
      cases ran
      rw [attempt] at ranLaunch
      split at ranLaunch <;> cases ranLaunch
      exact launch_ok logs ‹_›
    | error failure =>
      dsimp only at ran
      split at ran
      · simp at ran
      · rw [launchPause, change_bind_run] at ran
        have more : 0 < left := by simp_all; omega
        have slept := logs.slept (Scale.hundredths 200) tried.world
        refine (ih more ran).since (grown.trans ?_)
        exact slept ▸ List.prefix_rfl

end

/-! ## What a restart leaves as it is -/

section

variable {view : Scene W -> V} (sessionless : Scene.Sessionless view)

include sessionless

omit [Scale T] in
theorem permitsSession_keeping : scenario.PermitsSession (.keeping view) where
  called call _ := Conduct.follows_keeping.mpr (scenario.call_keeps sessionless.world call)
  slept := scenario.clock_keeps sessionless.world
  holds update same scene := sessionless.session scene update same
  exhausted _ _ _ := trivial

theorem startSession_keeps : scenario.startSession.Keeps view :=
  Conduct.follows_keeping.mp (startSession_follows (permitsSession_keeping sessionless))

end

/-! ## Restarts -/

/-- What a restart of the session does, whether it passes or not. -/
structure Restarts (scenario : Scenario W T) (log : W -> List (Called T)) (before : Scene W)
    (outcome : Outcome Unit) (after : Scene W) : Prop where
  restarted : after.session.restarts = before.session.restarts + 1
  counts : after.counts = before.counts
  stayed : after.currentPage = before.currentPage
  kept : after.snapshots = before.snapshots
  unvisited : ∃ made, log after.world = log before.world ++ made ∧
    ∀ called ∈ made, called.isVisit = false
  renewed : outcome = .ok () → after.handles = .empty ∧ scenario.HasRelaunched log before after

variable (listens : scenario.onRestart = [Scene.dropHandles])

include listens

theorem restartSession_keeps (view : Scene W -> V) (sessionless : Scene.Sessionless view)
    (drops : ∀ scene : Scene W, view scene.dropHandles = view scene) (scene : Scene W) :
    view (scenario.restartSession scene).2 =
      view (scene.setSession fun session => { session with restarts := session.restarts + 1 }) := by
  have started : (scenario.startSession >>= fun _ => change fun scene =>
      scenario.onRestart.foldl (fun scene listener => listener scene) scene).Keeps view := by
    refine keeps_bind (startSession_keeps sessionless) fun _ => keeps_change fun scene => ?_
    rw [listens]
    exact drops scene
  rw [restartSession, change_bind_run]
  exact started _

theorem restartSession_restarts (attempts : 0 < scenario.settings.launchAttempts)
    (logs : scenario.world.IsLog log) {scene after : Scene W} {outcome : Outcome Unit}
    (ran : scenario.restartSession scene = (outcome, after)) :
    scenario.Restarts log scene outcome after where
  restarted := by
    have kept := restartSession_keeps listens (fun scene => scene.session.restarts)
      ⟨fun _ _ => rfl, fun scene _ same => same scene.session⟩ (fun _ => rfl) scene
    rwa [ran] at kept
  counts := by
    have kept := restartSession_keeps listens Scene.counts
      ⟨fun _ _ => rfl, fun _ _ _ => rfl⟩ (fun _ => rfl) scene
    rwa [ran] at kept
  stayed := by
    have kept := restartSession_keeps listens Scene.currentPage
      ⟨fun _ _ => rfl, fun _ _ _ => rfl⟩ (fun _ => rfl) scene
    rwa [ran] at kept
  kept := by
    have kept := restartSession_keeps listens Scene.snapshots
      ⟨fun _ _ => rfl, fun _ _ _ => rfl⟩ (fun _ => rfl) scene
    rwa [ran] at kept
  unvisited := by
    have adds : Adds log (·.isVisit = false) scenario.restartSession := by
      refine adds_bind (adds_of_keeps (keeps_change fun _ => rfl)) fun _ => ?_
      refine adds_bind (launchAttempts_adds logs _ _) fun _ => ?_
      refine adds_of_keeps (keeps_change fun _ => ?_)
      rw [listens]
      rfl
    have added := adds scene
    rwa [ran] at added
  renewed := by
    rintro rfl
    rw [restartSession, change_bind_run] at ran
    obtain ⟨_, started, ranStart, told⟩ := (bind_ok ..).mp ran
    rw [change_run, listens] at told
    cases told
    have relaunched := launchAttempts_ok logs attempts ranStart
    exact ⟨rfl, (relaunched.since List.prefix_rfl).still rfl List.prefix_rfl⟩

/-! ## Recoveries -/

omit listens

/-- How a scenario returns to where it was, once its session was restarted. -/
inductive Returns (scenario : Scenario W T) (log : W -> List (Called T)) (between : Scene W) :
    Outcome Unit -> Scene W -> Prop where
  | nowhere (unplaced : between.currentPage = none) : Returns scenario log between (.ok ()) between
  | closed {page : String} (placed : between.currentPage = some page)
      (closed : ∀ live, ¬ scenario.IsLive between live) :
      Returns scenario log between (.failed .noPage) between
  | visited {page path : String} {live : PageId} {fault? : Option Fault} {outcome : Outcome Unit}
      {after : Scene W} (placed : between.currentPage = some page)
      (known : scenario.catalog.pagePath page = .ok path) (lives : scenario.IsLive between live)
      (visited : log after.world = log between.world ++
        [⟨.visit live (scenario.settings.baseUrl ++ path)
          (scenario.limitOf scenario.settings.navigationTimeout), fault?⟩]) :
      Returns scenario log between outcome after

structure Recovers (scenario : Scenario W T) (log : W -> List (Called T)) (before : Scene W)
    (outcome : Outcome Unit) (after : Scene W) : Prop where
  restarted : after.session.restarts = before.session.restarts + 1
  counts : after.counts = before.counts
  stayed : after.currentPage = before.currentPage
  kept : after.snapshots = before.snapshots
  -- There is one restart, and a way back after that only if it passes.
  restart : ∃ ended between, scenario.restartSession before = (ended, between) ∧
    scenario.Restarts log before ended between ∧
    (ended ≠ .ok () → outcome = ended ∧ after = between) ∧
    (ended = .ok () → scenario.Returns log between outcome after)
  renewed : outcome = .ok () → after.handles = .empty ∧ scenario.HasRelaunched log before after ∧
    ∀ page, before.currentPage = some page → scenario.Shows page after

/-- The scenario is nowhere, or on a page that the catalog has. -/
def Placed (scenario : Scenario W T) (scene : Scene W) : Prop :=
  ∀ page, scene.currentPage = some page → ∃ path, scenario.catalog.pagePath page = .ok path

theorem openPage_returns (logs : scenario.world.IsLog log) {page path : String}
    {between after : Scene W} {outcome : Outcome Unit} (placed : between.currentPage = some page)
    (known : scenario.catalog.pagePath page = .ok path)
    (ran : (discard (scenario.openPage page)) between = (outcome, after)) :
    scenario.Returns log between outcome after ∧ log between.world <+: log after.world := by
  obtain ⟨visits, refuses⟩ := scenario.openPage_visits page logs known between
  rw [discard_run] at ran
  by_cases lives : ∃ live, scenario.IsLive between live
  · obtain ⟨live, lives⟩ := lives
    obtain ⟨fault?, visited⟩ := visits live lives
    have last : (scenario.openPage page between).2 = after := by
      split at ran <;> cases ran <;> simp [*]
    rw [last] at visited
    exact ⟨.visited placed known lives visited, ⟨_, visited.symm⟩⟩
  · have closed : ∀ live, ¬ scenario.IsLive between live := fun live held => lives ⟨live, held⟩
    rw [refuses closed] at ran
    cases ran
    exact ⟨.closed placed closed, List.prefix_rfl⟩

section

variable {scene between : Scene W} {ended : Outcome Unit}
  (ranRestart : scenario.restartSession scene = (ended, between))

include ranRestart

theorem Restarts.recovers_unpassed (restarts : scenario.Restarts log scene ended between)
    (unpassed : ended ≠ .ok ()) : scenario.Recovers log scene ended between where
  restarted := restarts.restarted
  counts := restarts.counts
  stayed := restarts.stayed
  kept := restarts.kept
  restart := ⟨_, _, ranRestart, restarts, fun _ => ⟨rfl, rfl⟩, fun passed => absurd passed unpassed⟩
  renewed := fun passed => absurd passed unpassed

theorem Restarts.recovers_unplaced (restarts : scenario.Restarts log scene ended between)
    (passed : ended = .ok ()) (unplaced : between.currentPage = none) :
    scenario.Recovers log scene (.ok ()) between where
  restarted := restarts.restarted
  counts := restarts.counts
  stayed := restarts.stayed
  kept := restarts.kept
  restart :=
    ⟨_, _, ranRestart, restarts, fun unpassed => absurd passed unpassed, fun _ => .nowhere unplaced⟩
  renewed := by
    intro _
    obtain ⟨unfound, relaunched⟩ := restarts.renewed passed
    refine ⟨unfound, relaunched, fun page here => ?_⟩
    rw [← restarts.stayed, unplaced] at here
    cases here

theorem Restarts.recovers_placed (logs : scenario.world.IsLog log)
    (restarts : scenario.Restarts log scene ended between) (passed : ended = .ok ())
    {page path : String} (place : between.currentPage = some page)
    (known : scenario.catalog.pagePath page = .ok path) {outcome : Outcome Unit} {after : Scene W}
    (ran : (discard (scenario.openPage page)) between = (outcome, after)) :
    scenario.Recovers log scene outcome after := by
  obtain ⟨unfound, relaunched⟩ := restarts.renewed passed
  have here : scene.currentPage = some page := restarts.stayed ▸ place
  obtain ⟨returns, grown⟩ := openPage_returns logs place known ran
  rw [discard_run] at ran
  rcases opened : scenario.openPage page between with ⟨result, last⟩
  -- What the restart has done stands: of all that, going to the page changes nothing.
  have session := (scenario.openPage_keeps page Scene.session (fun _ _ => rfl)
    fun _ => rfl).of_run opened
  have counts := (scenario.openPage_keeps page Scene.counts (fun _ _ => rfl)
    fun _ => rfl).of_run opened
  have snapshots := (scenario.openPage_keeps page Scene.snapshots (fun _ _ => rfl)
    fun _ => rfl).of_run opened
  have remains := (scenario.openPage_goesTo page).remains place
  rw [opened] at ran remains
  obtain rfl : last = after := by
    cases result <;> cases ran <;> rfl
  refine ⟨session ▸ restarts.restarted, counts.trans restarts.counts, remains.trans here.symm,
    snapshots.trans restarts.kept,
    ⟨_, _, ranRestart, restarts, fun unpassed => absurd passed unpassed, fun _ => returns⟩, ?_⟩
  rintro rfl
  cases result with
  | failed failure => cases ran
  | stalled => cases ran
  | ok value =>
    refine ⟨scenario.openPage_handles page unfound opened, relaunched.still session grown, ?_⟩
    intro other alike
    obtain rfl : page = other := Option.some.inj (here.symm.trans alike)
    exact ((scenario.openPage_goesTo page between).1 _ _ opened).shows

end

include listens

theorem reopen_recovers (attempts : 0 < scenario.settings.launchAttempts)
    (logs : scenario.world.IsLog log) {scene after : Scene W} {outcome : Outcome Unit}
    (placed : scenario.Placed scene) (ran : scenario.reopen scene = (outcome, after)) :
    scenario.Recovers log scene outcome after := by
  rw [reopen, bind_run] at ran
  rcases ranRestart : scenario.restartSession scene with ⟨ended, between⟩
  have restarts := restartSession_restarts listens attempts logs ranRestart
  rw [ranRestart] at ran
  cases ended with
  | failed failure =>
    cases ran
    exact restarts.recovers_unpassed ranRestart (by simp)
  | stalled =>
    cases ran
    exact restarts.recovers_unpassed ranRestart (by simp)
  | ok _ =>
    dsimp only at ran
    rw [bind_run, look_run] at ran
    dsimp only at ran
    cases place : between.currentPage with
    | none =>
      rw [place] at ran
      cases ran
      exact restarts.recovers_unplaced ranRestart rfl place
    | some page =>
      rw [place] at ran
      obtain ⟨path, known⟩ := placed page (restarts.stayed ▸ place)
      exact restarts.recovers_placed ranRestart logs rfl place known ran

end Scenario

end Rehearsal
