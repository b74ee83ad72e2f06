import Rehearsal.Proofs.Scenario.Recovery
import Rehearsal.Proofs.World.Transcript

/-!
One browser at a time. An attempt at a session lets go of the browser that is held before another
is launched, whether or not it can be closed; so at every moment all browsers but one at most were
asked to close.
-/

set_option autoImplicit false

namespace Rehearsal

open Activity

def Session.cleared (session : Session) : Session :=
  { session with browser := none, context := none, page := none }

namespace Scenario

variable {W T V : Type} [Scale T]

/-- The limit of a page's calls can always be set. -/
def IsPatient (scenario : Scenario W T) : Prop :=
  ∀ page limit state, ∃ after,
    scenario.world.perform (.setPatience page limit) state = (.ok (), after)

def EndsLaunch (scenario : Scenario W T) (outcome : Outcome Unit) (after : Scene W) : Prop :=
  outcome = .ok () ∧ after.session.started = true ∨
    ∃ failure, outcome = .failed failure ∧ (scenario.IsPatient → after.session.started = false)

/-- What an attempt at a launch comes to, where no browser is held. -/
structure Launching (scenario : Scenario W T) (transcript : W -> List (Answered T))
    (before : Scene W) (outcome : Outcome Unit) (after : Scene W) : Prop where
  grown : ∃ made, transcript after.world = transcript before.world ++ made ∧
    askedToClose made = [] ∧ launches made ≤ 1 ∧ launched made = after.session.browser.toList
  within : after.session.started = true → after.session.browser.isSome = true
  ended : scenario.EndsLaunch outcome after

def furnish (scenario : Scenario W T) (browser : BrowserId) : Activity (Scene W) Unit := do
  let context ← scenario.call (.newContext browser)
  change <| Scene.setSession fun session => { session with context := some context }
  let page ← scenario.call (.newPage context)
  change <| Scene.setSession fun session => { session with page := some page }
  scenario.call (.setPatience page (scenario.limitOf scenario.settings.defaultTimeout))

def heldBrowser (scene : Scene W) : Option BrowserId := scene.session.browser

variable {scenario : Scenario W T} {transcript : W -> List (Answered T)}

theorem provide_eq :
    scenario.provide = (do
      let settings := scenario.settings
      let browser ← scenario.call (.launch settings.headless settings.browserArguments)
      change <| Scene.setSession fun session => { session with browser := some browser }
      scenario.furnish browser) := rfl

/-! ## Launches -/

section

variable (transcribes : scenario.world.IsTranscript transcript)

include transcribes

theorem furnish_plain (browser : BrowserId) :
    (scenario.furnish browser).Follows (adding transcript Answered.IsPlain heldBrowser) := by
  have called : ∀ call : Call T, call.resource? = none →
      (scenario.call call).Follows (adding transcript Answered.IsPlain heldBrowser) :=
    fun call plain => call_adding transcribes (fun _ _ => rfl) call fun _ => plain
  refine follows_bind (called _ rfl) fun context => ?_
  refine follows_bind (change_adding (fun _ => rfl) fun _ => rfl) fun _ => ?_
  refine follows_bind (called _ rfl) fun page => ?_
  refine follows_bind (change_adding (fun _ => rfl) fun _ => rfl) fun _ => ?_
  exact called _ rfl

theorem furnish_ends {browser : BrowserId} {scene after : Scene W} {outcome : Outcome Unit}
    (bare : scene.session.started = false)
    (ran : scenario.furnish browser scene = (outcome, after)) :
    scenario.EndsLaunch outcome after := by
  rw [furnish, bind_run] at ran
  obtain ⟨context, _, bounded, -⟩ | ⟨fault, _, refused, -⟩ :=
    call_answered transcribes (.newContext browser) scene
  · rw [bounded] at ran
    dsimp only at ran
    rw [change_bind_run, bind_run] at ran
    obtain ⟨page, _, paged, -⟩ | ⟨fault, _, refused, -⟩ :=
      call_answered transcribes (.newPage context) _
    · rw [paged] at ran
      dsimp only at ran
      rw [change_bind_run] at ran
      unfold Scenario.call at ran
      split at ran
      next =>
        cases ran
        exact .inl ⟨rfl, rfl⟩
      next refused =>
        -- The page is held by now, so it is only a patient page that leaves none behind.
        cases ran
        refine .inr ⟨_, rfl, fun patient => ?_⟩
        obtain ⟨_, granted⟩ := patient page (scenario.limitOf scenario.settings.defaultTimeout) _
        cases granted.symm.trans refused
    · rw [refused] at ran
      cases ran
      exact .inr ⟨_, rfl, fun _ => bare⟩
  · rw [refused] at ran
    cases ran
    exact .inr ⟨_, rfl, fun _ => bare⟩

theorem provide_launching {scene after : Scene W} {outcome : Outcome Unit}
    (bare : scene.session.started = false) (free : scene.session.browser = none)
    (ran : scenario.provide scene = (outcome, after)) :
    scenario.Launching transcript scene outcome after := by
  rw [provide_eq] at ran
  dsimp only at ran
  rw [bind_run] at ran
  obtain ⟨browser, world, launched, grown⟩ | ⟨fault, world, refused, grown⟩ :=
    call_answered transcribes
      (.launch scenario.settings.headless scenario.settings.browserArguments) scene
  · rw [launched] at ran
    dsimp only at ran
    rw [change_bind_run] at ran
    -- From here on the browser is held, whatever becomes of its context and its page.
    obtain ⟨⟨holds, made, grownOn, plain⟩, -⟩ := (furnish_plain transcribes browser).of_run ran
    have held : after.session.browser = some browser := holds
    have aside := aside_of_plain plain
    have whole := grownOn.trans ((congrArg (· ++ made) grown).trans (List.append_assoc ..))
    refine ⟨⟨_, whole, ?_, ?_, ?_⟩, ?_, furnish_ends transcribes (by exact bare) ran⟩
    · rw [askedToClose_append, aside.unasked]
      rfl
    · rw [launches_append, aside.uncounted]
      exact Nat.le_refl 1
    · rw [launched_append, aside.unlaunched, held]
      rfl
    · simp [held]
  · rw [refused] at ran
    cases ran
    refine ⟨⟨_, grown, rfl, Nat.le_refl 1, ?_⟩, ?_, .inr ⟨_, rfl, fun _ => bare⟩⟩
    · rw [free]
      rfl
    · simp [bare]

theorem launch_launching {scene after : Scene W} {outcome : Outcome Unit}
    (bare : scene.session.started = false) (free : scene.session.browser = none)
    (ran : scenario.launch scene = (outcome, after)) :
    scenario.Launching transcript scene outcome after := by
  rw [launch_run] at ran
  split at ran
  · exact provide_launching transcribes bare free ran
  · rw [bind_run] at ran
    obtain ⟨_, world, driven, grown⟩ | ⟨fault, world, refused, grown⟩ :=
      call_answered transcribes .startDriver scene
    · rw [driven] at ran
      dsimp only at ran
      rw [change_bind_run] at ran
      obtain ⟨⟨made, grownOn, unasked, once, holds⟩, within, ended⟩ :=
        provide_launching transcribes (by exact bare) (by exact free) ran
      have whole := grownOn.trans ((congrArg (· ++ made) grown).trans (List.append_assoc ..))
      refine ⟨⟨_, whole, unasked, ?_, holds⟩, within, ended⟩
      rw [launches_append]
      exact Nat.le_trans (Nat.le_of_eq (Nat.zero_add _)) once
    · rw [refused] at ran
      cases ran
      refine ⟨⟨_, grown, rfl, Nat.zero_le 1, ?_⟩, ?_, .inr ⟨_, rfl, fun _ => bare⟩⟩
      · rw [free]
        rfl
      · simp [bare]

/-! ## Attempts -/

variable (scenario) in
omit [Scale T] in
theorem closeBrowser_clears (scene : Scene W) :
    ∃ made world, scenario.closeBrowser scene =
        (.ok (), { scene with world, session := scene.session.cleared }) ∧
      transcript world = transcript scene.world ++ made ∧
      (scene.session.browser = none ∧ made = [] ∨
        ∃ browser answer, scene.session.browser = some browser ∧
          made = [⟨.closeBrowser browser, answer⟩]) := by
  rw [closeBrowser, bind_run, look_run]
  dsimp only
  rw [change_bind_run]
  -- The session is cleared before its browser is asked to close, so either answer will do.
  cases held : scene.session.browser with
  | none => exact ⟨[], scene.world, rfl, by simp, .inl ⟨rfl, rfl⟩⟩
  | some browser =>
    dsimp only
    rw [discard_run, attempt_run]
    obtain ⟨answer, world, ran, grown⟩ | ⟨fault, world, ran, grown⟩ :=
      call_answered transcribes (.closeBrowser browser)
        (scene.setSession fun session =>
          { session with browser := none, context := none, page := none })
    all_goals
      rw [ran]
      exact ⟨_, world, rfl, grown, .inr ⟨browser, _, rfl, rfl⟩⟩

end

/-- One browser is held at most, and a page only together with it. -/
structure HoldsOne (transcript : W -> List (Answered T)) (scene : Scene W) : Prop where
  tended : Tended (transcript scene.world) scene.session.browser
  within : scene.session.started = true → scene.session.browser.isSome = true

/-- One attempt at a session, once what is held was let go of. -/
def launchAnew (scenario : Scenario W T) : Activity (Scene W) Unit := do
  scenario.closeBrowser
  scenario.launch

/-- Attempts at a session one after another, up to the first that passes or to the last. -/
inductive LaunchTries (scenario : Scenario W T) :
    Nat -> Scene W -> Outcome Unit -> Scene W -> Prop where
  | last {scene after : Scene W} {outcome : Outcome Unit}
      (ran : scenario.launchAnew scene = (outcome, after)) :
      LaunchTries scenario 1 scene outcome after
  | again {made : Nat} {scene between after : Scene W} {failure : Failure} {outcome : Outcome Unit}
      (failed : scenario.launchAnew scene = (.failed failure, between))
      (rest : LaunchTries scenario made (scenario.clock.sleep (Scale.hundredths 200) between)
        outcome after) :
      LaunchTries scenario (made + 1) scene outcome after

def launchesIn (transcript : W -> List (Answered T)) (scene : Scene W) : Nat :=
  launches (transcript scene.world)

section

variable (transcribes : scenario.world.IsTranscript transcript)

include transcribes

omit [Scale T] in
theorem closeBrowser_holdsNone {scene : Scene W} (holds : HoldsOne transcript scene) :
    ∃ world, scenario.closeBrowser scene =
        (.ok (), { scene with world, session := scene.session.cleared }) ∧
      Tended (transcript world) none ∧
      launches (transcript world) = launchesIn transcript scene := by
  have tended := holds.tended
  obtain ⟨made, world, closed, grown, ⟨free, rfl⟩ | ⟨browser, answer, held, rfl⟩⟩ :=
    scenario.closeBrowser_clears transcribes scene
  · rw [List.append_nil] at grown
    exact ⟨world, closed, grown ▸ free ▸ tended, congrArg launches grown⟩
  · rw [held] at tended
    refine ⟨world, closed, grown ▸ tended.close, ?_⟩
    rw [grown, launches_append]
    rfl

theorem launchAnew_holdsOne {scene after : Scene W} {outcome : Outcome Unit}
    (holds : HoldsOne transcript scene) (ran : scenario.launchAnew scene = (outcome, after)) :
    HoldsOne transcript after ∧ launchesIn transcript after ≤ launchesIn transcript scene + 1 ∧
      scenario.EndsLaunch outcome after := by
  obtain ⟨world, closed, tended, counted⟩ := closeBrowser_holdsNone transcribes holds
  rw [launchAnew, bind_run, closed] at ran
  obtain ⟨⟨made, grown, unasked, once, held⟩, within, ended⟩ :=
    launch_launching transcribes (by rfl) (by rfl) ran
  refine ⟨⟨grown ▸ tended.hold unasked held, within⟩, ?_, ended⟩
  rw [launchesIn, grown, launches_append, counted]
  exact Nat.add_le_add_left once _

theorem LaunchTries.holdsOne {made : Nat} {scene after : Scene W} {outcome : Outcome Unit}
    (tries : scenario.LaunchTries made scene outcome after) (holds : HoldsOne transcript scene) :
    HoldsOne transcript after ∧ launchesIn transcript after ≤ launchesIn transcript scene + made ∧
      scenario.EndsLaunch outcome after := by
  -- By induction on the attempts: each one lets go of what the one before it has left.
  induction tries with
  | last ran => exact launchAnew_holdsOne transcribes holds ran
  | @again made scene between after _ _ failed rest ih =>
    obtain ⟨⟨tended, within⟩, few, -⟩ := launchAnew_holdsOne transcribes holds failed
    have slept := transcribes.slept (Scale.hundredths 200) between.world
    obtain ⟨holdsOn, fewOn, ended⟩ := ih ⟨slept ▸ tended, within⟩
    refine ⟨holdsOn, ?_, ended⟩
    have paused : launchesIn transcript (scenario.clock.sleep (Scale.hundredths 200) between) =
        launchesIn transcript between := congrArg launches slept
    omega

end

/-! ## Calls of the session -/

/-- What a start comes to: an attempt that passes ends it, and so does the last one. -/
inductive Starts (scenario : Scenario W T) (transcript : W -> List (Answered T))
    (before : Scene W) : Outcome Unit -> Scene W -> Prop where
  | completed {made : Nat} {after : Scene W}
      (tries : scenario.LaunchTries made before (.ok ()) after)
      (granted : made ≤ scenario.settings.launchAttempts)
      (few : launchesIn transcript after ≤ launchesIn transcript before + made)
      (started : after.session.started = true) : Starts scenario transcript before (.ok ()) after
  | exhausted {failure raised : Failure} {after : Scene W}
      (tries : scenario.LaunchTries scenario.settings.launchAttempts before (.failed failure) after)
      (few : launchesIn transcript after ≤
        launchesIn transcript before + scenario.settings.launchAttempts)
      (unstarted : after.session.started = false)
      (cause : raised = .launchFailed scenario.settings.launchAttempts failure)
      (unreachable : raised.kind? = some .sessionUnreachable) :
      Starts scenario transcript before (.failed raised) after

inductive SessionCall where
  | start
  | restart
  | close
  deriving DecidableEq

structure SessionTurn (W : Type) where
  call : SessionCall
  before : Scene W
  outcome : Outcome Unit
  after : Scene W

def isRestarted : SessionCall -> Outcome Unit -> Bool
  | .restart, .ok _ => true
  | _, _ => false

def countRestart (scene : Scene W) : Scene W :=
  scene.setSession fun session => { session with restarts := session.restarts + 1 }

def tellListeners (scenario : Scenario W T) (scene : Scene W) : Scene W :=
  scenario.onRestart.foldl (fun scene listener => listener scene) scene

/-- What a call of the session comes to, whatever fails on the way. -/
inductive SessionTurn.Lawful (scenario : Scenario W T) (transcript : W -> List (Answered T)) :
    SessionTurn W -> Prop where
  | started {before after : Scene W} {outcome : Outcome Unit}
      (starts : scenario.Starts transcript before outcome after) :
      Lawful scenario transcript ⟨.start, before, outcome, after⟩
  | restarted {before between : Scene W}
      (starts : scenario.Starts transcript (countRestart before) (.ok ()) between) :
      Lawful scenario transcript ⟨.restart, before, .ok (), scenario.tellListeners between⟩
  | unrestarted {before after : Scene W} {failure : Failure}
      (starts : scenario.Starts transcript (countRestart before) (.failed failure) after) :
      Lawful scenario transcript ⟨.restart, before, .failed failure, after⟩
  | closed {before after : Scene W}
      (settled : launched (transcript after.world) = askedToClose (transcript after.world))
      (unstarted : after.session.started = false) :
      Lawful scenario transcript ⟨.close, before, .ok (), after⟩

def sessionCall (scenario : Scenario W T) : SessionCall -> Activity (Scene W) Unit
  | .start => scenario.startSession
  | .restart => scenario.restartSession
  | .close => scenario.closeSession

def sessionTurns (scenario : Scenario W T) : Scene W -> List SessionCall -> List (SessionTurn W)
  | _, [] => []
  | scene, call :: rest =>
    let ran := scenario.sessionCall call scene
    ⟨call, scene, ran.1, ran.2⟩ :: sessionTurns scenario ran.2 rest

def afterCalls (scenario : Scenario W T) : Scene W -> List SessionCall -> Scene W
  | scene, [] => scene
  | scene, call :: rest => afterCalls scenario (scenario.sessionCall call scene).2 rest

/-- Those who are told of a restart change neither the session nor the transcript. -/
def ListensOnly (scenario : Scenario W T) (transcript : W -> List (Answered T)) : Prop :=
  ∀ listener ∈ scenario.onRestart, ∀ scene, (listener scene).session = scene.session ∧
    transcript (listener scene).world = transcript scene.world

/-- Each listener leaves its own mark, and nothing else that is done to a session does. -/
structure Marking (scenario : Scenario W T) (marks : Scene W -> List Nat) : Prop where
  called : ∀ call : Call T, (scenario.call call).Keeps marks
  slept : ∀ span scene, marks (scenario.clock.sleep span scene) = marks scene
  holds : ∀ update scene, marks (scene.setSession update) = marks scene
  heard : ∀ index listener, scenario.onRestart[index]? = some listener →
    ∀ scene, marks (listener scene) = marks scene ++ [index]

section

variable (transcribes : scenario.world.IsTranscript transcript)

include transcribes

theorem launchAttempts_tries {total left : Nat} (granted : 0 < left) {scene after : Scene W}
    {outcome : Outcome Unit} (ran : scenario.launchAttempts total left scene = (outcome, after)) :
    ∃ made result, scenario.LaunchTries made scene result after ∧ made ≤ left ∧
      (result = .ok () ∧ outcome = .ok () ∨ result = .stalled ∧ outcome = .stalled ∨
        ∃ failure, result = .failed failure ∧ made = left ∧
          outcome = .failed (.launchFailed total failure)) := by
  -- By induction on the attempts that are left; only the failure of the last one is raised.
  induction left generalizing scene with
  | zero => cases granted
  | succ left ih =>
    obtain ⟨-, world, closed, -⟩ :=
      scenario.closeBrowser_clears transcribes scene
    rcases launched : scenario.launch { scene with world, session := scene.session.cleared }
      with ⟨result, tried⟩
    have anew : scenario.launchAnew scene = (result, tried) := by
      rw [launchAnew, bind_run, closed]
      exact launched
    rw [launchAttempts, bind_run, closed] at ran
    dsimp only at ran
    rw [bind_run, attempt_run, launched] at ran
    cases result with
    | ok _ =>
      cases ran
      exact ⟨1, _, .last anew, by omega, .inl ⟨rfl, rfl⟩⟩
    | stalled =>
      cases ran
      exact ⟨1, _, .last anew, by omega, .inr (.inl ⟨rfl, rfl⟩)⟩
    | failed failure =>
      dsimp only at ran
      cases left with
      | zero =>
        cases ran
        exact ⟨1, _, .last anew, by omega, .inr (.inr ⟨failure, rfl, rfl, rfl⟩)⟩
      | succ left =>
        obtain ⟨made, result, tries, within, ends⟩ := ih (by omega) ran
        refine ⟨made + 1, result, .again anew tries, by omega, ?_⟩
        rcases ends with passed | stalled | ⟨cause, failed, all, raised⟩
        · exact .inl passed
        · exact .inr (.inl stalled)
        · exact .inr (.inr ⟨cause, failed, by omega, raised⟩)

variable (scenario) in
omit [Scale T] in
theorem closeSession_holdsOne {scene : Scene W} (holds : HoldsOne transcript scene) :
    ∃ after, scenario.closeSession scene = (.ok (), after) ∧ HoldsOne transcript after ∧
      after.session.browser = none ∧ after.session.page = none ∧
      after.session.restarts = scene.session.restarts := by
  obtain ⟨world, closed, tended, -⟩ := closeBrowser_holdsNone transcribes holds
  rw [closeSession, bind_run, closed]
  dsimp only
  rw [bind_run, look_run]
  dsimp only
  cases scene.session.cleared.driverRuns with
  | false => exact ⟨_, rfl, ⟨tended, nofun⟩, rfl, rfl, rfl⟩
  | true =>
    simp only [if_true]
    rw [bind_run, discard_run, attempt_run]
    obtain ⟨_, last, ran, grown⟩ | ⟨_, last, ran, grown⟩ :=
      call_answered transcribes .stopDriver { scene with world, session := scene.session.cleared }
    all_goals
      rw [ran]
      refine ⟨_, rfl, ⟨?_, nofun⟩, rfl, rfl, rfl⟩
      exact grown ▸ tended.aside (aside_of_plain (by simp [Answered.IsPlain, Call.resource?]))

theorem startSession_holdsOne {scene : Scene W} (holds : HoldsOne transcript scene) :
    HoldsOne transcript (scenario.startSession scene).2 := by
  rcases Nat.eq_zero_or_pos scenario.settings.launchAttempts with idle | attempts
  · -- Without a single attempt not even the browser that is held is let go of.
    rw [startSession, idle]
    exact holds
  · obtain ⟨_, _, tries, -⟩ := launchAttempts_tries transcribes attempts
      (show scenario.startSession scene = (_, _) from rfl)
    exact (tries.holdsOne transcribes holds).1

variable (attempts : 0 < scenario.settings.launchAttempts)

include attempts

variable (patient : scenario.IsPatient)

include patient

theorem startSession_starts {scene after : Scene W} {outcome : Outcome Unit}
    (holds : HoldsOne transcript scene) (ran : scenario.startSession scene = (outcome, after)) :
    scenario.Starts transcript scene outcome after := by
  obtain ⟨made, result, tries, within, ends⟩ := launchAttempts_tries transcribes attempts ran
  obtain ⟨-, few, ⟨rfl, started⟩ | ⟨failure, rfl, bare⟩⟩ := tries.holdsOne transcribes holds
  · obtain rfl : outcome = .ok () := by simpa using ends
    exact .completed tries within few started
  · obtain ⟨rfl, rfl⟩ : made = _ ∧ outcome = _ := by simpa using ends
    exact .exhausted tries few (bare patient) rfl rfl

end

/-! ## Listeners -/

omit [Scale T] in
theorem listensOnly_of_drops (listens : scenario.onRestart = [Scene.dropHandles]) :
    scenario.ListensOnly transcript := by
  intro listener listed scene
  rw [listens] at listed
  obtain rfl := List.mem_singleton.mp listed
  exact ⟨rfl, rfl⟩

omit [Scale T] in
theorem tellListeners_apart (listens : scenario.ListensOnly transcript) (scene : Scene W) :
    (scenario.tellListeners scene).session = scene.session ∧
      transcript (scenario.tellListeners scene).world = transcript scene.world := by
  unfold ListensOnly at listens
  unfold tellListeners
  generalize scenario.onRestart = listeners at listens
  induction listeners generalizing scene with
  | nil => exact ⟨rfl, rfl⟩
  | cons listener rest ih =>
    obtain ⟨first, later⟩ := List.forall_mem_cons.mp listens
    obtain ⟨session, made⟩ := ih (listener scene) later
    exact ⟨session.trans (first scene).1, made.trans (first scene).2⟩

variable {marks : Scene W -> List Nat}

omit [Scale T] in
theorem foldl_marks (listeners : List (Scene W -> Scene W)) (first : Nat)
    (heard : ∀ index listener, listeners[index]? = some listener →
      ∀ scene, marks (listener scene) = marks scene ++ [first + index]) (scene : Scene W) :
    marks (listeners.foldl (fun scene listener => listener scene) scene) =
      marks scene ++ List.range' first listeners.length := by
  -- By induction on the listeners, for the number of the first one grows with those before it.
  induction listeners generalizing first scene with
  | nil => simp
  | cons listener rest ih =>
    have later := ih (first + 1) (fun index other listed scene => by
      rw [heard (index + 1) other listed scene, Nat.add_right_comm, Nat.add_assoc])
    rw [List.foldl_cons, later, heard 0 listener rfl scene, List.append_assoc]
    rfl

variable (marking : scenario.Marking marks)

include marking

omit [Scale T] in
theorem tellListeners_marks (scene : Scene W) :
    marks (scenario.tellListeners scene) =
      marks scene ++ List.range scenario.onRestart.length := by
  rw [List.range_eq_range']
  exact foldl_marks scenario.onRestart 0 (by simpa using marking.heard) scene

omit [Scale T] in
theorem Marking.permits : scenario.PermitsSession (.keeping marks) :=
  ⟨fun call _ => Conduct.follows_keeping.mpr (marking.called call), marking.slept,
    fun update _ => marking.holds update, fun _ _ _ => trivial⟩

/-! ## Sequences of calls -/

omit marking

theorem restartSession_run (scene : Scene W) :
    scenario.restartSession scene =
      match scenario.startSession (countRestart scene) with
      | (.ok _, between) => (.ok (), scenario.tellListeners between)
      | unpassed => unpassed := by
  have counted : scenario.restartSession scene =
      (scenario.startSession >>= fun _ => change scenario.tellListeners) (countRestart scene) := rfl
  rw [counted, bind_run]
  rcases scenario.startSession (countRestart scene) with ⟨_ | _ | _, between⟩ <;> rfl

theorem sessionCall_restarts (listens : scenario.ListensOnly transcript) (call : SessionCall)
    (scene : Scene W) :
    (scenario.sessionCall call scene).2.session.restarts =
      scene.session.restarts + [call].count .restart := by
  have sessionless : Scene.Sessionless fun scene : Scene W => scene.session.restarts :=
    ⟨fun _ _ => rfl, fun scene _ same => same scene.session⟩
  cases call with
  | start => exact startSession_keeps sessionless scene
  | close =>
    have permits : scenario.PermitsSession (.keeping _) := permitsSession_keeping sessionless
    exact Conduct.follows_keeping.mp (closeSession_follows permits) scene
  | restart =>
    have starts : scenario.startSession.Keeps _ := startSession_keeps sessionless
    have kept := starts (countRestart scene)
    rw [sessionCall, restartSession_run]
    rcases ran : scenario.startSession (countRestart scene) with ⟨_ | _ | _, between⟩ <;>
      rw [ran] at kept
    · exact (congrArg Session.restarts (tellListeners_apart listens between).1).trans kept
    · exact kept
    · exact kept

theorem sessionCall_marks (marking : scenario.Marking marks) (call : SessionCall)
    (scene : Scene W) :
    marks (scenario.sessionCall call scene).2 = marks scene ++
      if isRestarted call (scenario.sessionCall call scene).1 then
        List.range scenario.onRestart.length else [] := by
  have started := fun scene =>
    Conduct.follows_keeping.mp (startSession_follows marking.permits) scene
  cases call with
  | start => simpa [isRestarted, sessionCall] using started scene
  | close =>
    have closed := Conduct.follows_keeping.mp (closeSession_follows marking.permits) scene
    simpa [isRestarted, sessionCall] using closed
  | restart =>
    have counted : marks (countRestart scene) = marks scene := marking.holds _ scene
    have kept := (started (countRestart scene)).trans counted
    rw [sessionCall, restartSession_run]
    rcases ran : scenario.startSession (countRestart scene) with ⟨_ | _ | _, between⟩ <;>
      rw [ran] at kept
    · simpa [isRestarted, kept] using tellListeners_marks marking between
    · simpa [isRestarted] using kept
    · simpa [isRestarted] using kept

section

variable (transcribes : scenario.world.IsTranscript transcript)
  (attempts : 0 < scenario.settings.launchAttempts)

include transcribes

theorem sessionCall_holdsOne (listens : scenario.ListensOnly transcript) (call : SessionCall)
    {scene : Scene W} (holds : HoldsOne transcript scene) :
    HoldsOne transcript (scenario.sessionCall call scene).2 := by
  cases call with
  | start => exact startSession_holdsOne transcribes holds
  | close =>
    obtain ⟨after, closed, holdsOn, -⟩ :=
      scenario.closeSession_holdsOne transcribes holds
    rw [sessionCall, closed]
    exact holdsOn
  | restart =>
    have counted : HoldsOne transcript (countRestart scene) := ⟨holds.tended, holds.within⟩
    have holdsOn := startSession_holdsOne transcribes counted
    rw [sessionCall, restartSession_run]
    rcases ran : scenario.startSession (countRestart scene) with ⟨_ | _ | _, between⟩ <;>
      rw [ran] at holdsOn
    · obtain ⟨session, made⟩ := tellListeners_apart listens between
      exact ⟨made ▸ session ▸ holdsOn.tended, session ▸ holdsOn.within⟩
    · exact holdsOn
    · exact holdsOn

include attempts

theorem sessionCall_lawful (patient : scenario.IsPatient) (call : SessionCall)
    {scene : Scene W} (holds : HoldsOne transcript scene) :
    SessionTurn.Lawful scenario transcript
      ⟨call, scene, (scenario.sessionCall call scene).1, (scenario.sessionCall call scene).2⟩ := by
  cases call with
  | start => exact .started (startSession_starts transcribes attempts patient holds rfl)
  | close =>
    obtain ⟨after, closed, ⟨tended, -⟩, free, unpaged, -⟩ :=
      scenario.closeSession_holdsOne transcribes holds
    rw [sessionCall, closed]
    have balanced := tended.balanced
    rw [free, Balanced, Option.toList_none, List.append_nil] at balanced
    exact .closed balanced (by simp [Session.started, unpaged])
  | restart =>
    have counted : HoldsOne transcript (countRestart scene) := ⟨holds.tended, holds.within⟩
    rw [sessionCall, restartSession_run]
    rcases ran : scenario.startSession (countRestart scene) with ⟨_ | failure | _, between⟩
    all_goals have starts := startSession_starts transcribes attempts patient counted ran
    · exact .restarted starts
    · exact .unrestarted starts
    · -- A start never hangs.
      cases starts

theorem afterCalls_holdsOne (patient : scenario.IsPatient)
    (listens : scenario.ListensOnly transcript) (calls : List SessionCall) {scene : Scene W}
    (holds : HoldsOne transcript scene) :
    HoldsOne transcript (scenario.afterCalls scene calls) ∧
      ∀ turn ∈ scenario.sessionTurns scene calls, turn.Lawful scenario transcript := by
  -- By induction on the calls, with the invariant that one browser is held at most.
  induction calls generalizing scene with
  | nil => exact ⟨holds, by simp [sessionTurns]⟩
  | cons call rest ih =>
    have law := sessionCall_lawful transcribes attempts patient call holds
    obtain ⟨holdsOn, later⟩ :=
      ih (sessionCall_holdsOne transcribes listens call holds)
    rw [afterCalls, sessionTurns]
    exact ⟨holdsOn, List.forall_mem_cons.mpr ⟨law, later⟩⟩

omit transcribes attempts in
theorem afterCalls_restarts (listens : scenario.ListensOnly transcript) (calls : List SessionCall)
    (scene : Scene W) :
    (scenario.afterCalls scene calls).session.restarts =
      scene.session.restarts + calls.count .restart := by
  induction calls generalizing scene with
  | nil => rfl
  | cons call rest ih =>
    rw [afterCalls, ih, sessionCall_restarts listens, Nat.add_assoc, ← List.count_append]
    rfl

omit transcribes attempts in
theorem afterCalls_marks (marking : scenario.Marking marks) (calls : List SessionCall)
    (scene : Scene W) :
    marks (scenario.afterCalls scene calls) = marks scene ++
      (List.replicate ((scenario.sessionTurns scene calls).countP
        fun turn => isRestarted turn.call turn.outcome)
        (List.range scenario.onRestart.length)).flatten := by
  induction calls generalizing scene with
  | nil => simp [afterCalls, sessionTurns]
  | cons call rest ih =>
    rw [afterCalls, sessionTurns, ih, sessionCall_marks marking, List.append_assoc,
      List.countP_cons]
    congr 1
    split <;> simp [List.replicate_succ]

/-- One browser at a time: whatever sequence of calls of the session is made and whatever fails,
all browsers that were launched but one at most were asked to close, once each. -/
theorem sessions_hold_one_browser (patient : scenario.IsPatient)
    (listens : scenario.ListensOnly transcript) {scene : Scene W} (idle : scene.session = .idle)
    (silent : transcript scene.world = []) (calls : List SessionCall) :
    let last := scenario.afterCalls scene calls
    let turns := scenario.sessionTurns scene calls
    (∀ moment, moment <+: transcript last.world → ∃ held : Option BrowserId,
      launched moment = askedToClose moment ++ held.toList) ∧
    (∀ turn ∈ turns, turn.Lawful scenario transcript) ∧
    last.session.restarts = calls.count .restart ∧
    ∀ marks, scenario.Marking marks → marks last = marks scene ++
      (List.replicate (turns.countP fun turn => isRestarted turn.call turn.outcome)
        (List.range scenario.onRestart.length)).flatten := by
  intro last turns
  have fresh : HoldsOne transcript scene := by
    refine ⟨?_, by simp [idle, Session.idle, Session.started]⟩
    rw [silent, idle]
    exact tended_nil
  obtain ⟨⟨tended, -⟩, lawful⟩ :=
    afterCalls_holdsOne transcribes attempts patient listens calls fresh
  have restarted := afterCalls_restarts listens calls scene
  rw [idle] at restarted
  exact ⟨tended.always, lawful, restarted.trans (Nat.zero_add _),
    fun marks marking => afterCalls_marks marking calls scene⟩

end

/-- A scenario in a willing world, which counts the restarts that it is told of. -/
def counting : Scenario (Unit × List (Answered Rat)) Rat :=
  { Scenario.standard (World.still World.willing).transcribed
      { pages := [], tests := [], params := [] } .plain "run" 1 with
    onRestart := [fun scene => { scene with resolutions := scene.resolutions + 1 }] }

/-- Two browsers are launched here. None of them can be closed, and both are asked to. -/
theorem restarted_session_holds_one_browser :
    let scene : Scene (Unit × List (Answered Rat)) := Scene.opening ((), []) (Files.empty "/")
    let last := counting.afterCalls scene [.start, .restart, .close]
    (∀ moment, moment <+: last.world.2 → ∃ held : Option BrowserId,
      launched moment = askedToClose moment ++ held.toList) ∧
    last.session.restarts = 1 ∧ List.replicate last.resolutions 0 = [0] ∧
    launched last.world.2 = [⟨0⟩, ⟨0⟩] ∧ askedToClose last.world.2 = [⟨0⟩, ⟨0⟩] := by
  intro scene last
  have transcribes : counting.world.IsTranscript Prod.snd := World.transcribed_isTranscript _
  have patient : counting.IsPatient := fun _ _ _ => ⟨_, rfl⟩
  have listens : counting.ListensOnly Prod.snd := by
    intro listener listed scene
    obtain rfl := List.mem_singleton.mp listed
    exact ⟨rfl, rfl⟩
  have marking : counting.Marking fun scene => List.replicate scene.resolutions 0 := by
    refine ⟨fun call scene => ?_, fun _ _ => rfl, fun _ _ => rfl, ?_⟩
    · unfold Scenario.call
      split <;> rfl
    · intro index listener listed scene
      obtain ⟨rfl, rfl⟩ : index = 0 ∧ _ = listener := by
        cases index with
        | zero => exact ⟨rfl, Option.some.inj listed⟩
        | succ index => cases listed
      exact List.replicate_succ'
  obtain ⟨always, -, restarted, told⟩ := sessions_hold_one_browser transcribes (by decide) patient
    listens (rfl : scene.session = .idle) rfl [.start, .restart, .close]
  exact ⟨always, restarted, (told _ marking).trans (by decide +kernel), by decide +kernel,
    by decide +kernel⟩

end Scenario

end Rehearsal
