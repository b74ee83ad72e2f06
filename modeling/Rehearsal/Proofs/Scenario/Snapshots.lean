import Rehearsal.Proofs.Scenario.Lifetime

/-!
Saved cookies over the lifetime of a scenario. What is kept under a key is the jar as it was when
the key was last saved, whatever came in between, be it a new browser; loading the key puts it back
in the place of what the jar holds by then.
-/

set_option autoImplicit false

namespace Rehearsal

open Activity

/-- A world that keeps a jar of cookies for each context of its browsers. -/
structure World.HoldsCookies {W T : Type} (world : World W T)
    (jar : W -> ContextId -> List Datum) : Prop where
  told : ∀ context cookies state after,
    world.perform (.cookies context) state = (.ok cookies, after) →
    cookies = jar state context ∧ jar after context = jar state context
  cleared : ∀ context state after,
    world.perform (.clearCookies context) state = (.ok (), after) → jar after context = []
  -- Only an empty jar is ever filled.
  added : ∀ context cookies state after, jar state context = [] →
    world.perform (.addCookies context cookies) state = (.ok (), after) →
    jar after context = cookies

namespace Scenario

section

variable {W T : Type} {scenario : Scenario W T} {key : String} {cookies : List Datum}
  {scene between after : Scene W} {report : StepOutcome} {outcome : Outcome StepOutcome}

/-! ## Saving -/

theorem sessionContext_ok {context : ContextId}
    (ran : scenario.sessionContext scene = (.ok context, after)) :
    scene.session.context = some context ∧ after = scene := by
  cases held : scene.session.context with
  | none => simp [sessionContext, bind_run, held] at ran
  | some here =>
    simp only [sessionContext, bind_run, look_run, held, pure_run, Prod.mk.injEq,
      Outcome.ok.injEq] at ran
    exact ⟨congrArg some ran.1, ran.2.symm⟩

theorem captureCookies_ok (ran : scenario.captureCookies scene = (.ok cookies, after)) :
    ∃ context world, scene.session.context = some context ∧
      scenario.world.perform (.cookies context) scene.world = (.ok cookies, world) ∧
      after = { scene with world } := by
  obtain ⟨context, between, looked, called⟩ := (bind_ok ..).mp ran
  obtain ⟨held, rfl⟩ := sessionContext_ok looked
  obtain ⟨world, performed, moved⟩ := call_ok called
  exact ⟨context, world, held, performed, moved⟩

theorem captureCookies_keeps : scenario.captureCookies.Keeps Scene.snapshots := by
  refine keeps_bind (keeps_bind (keeps_look _) fun context => ?_) fun _ =>
    scenario.call_keeps (fun _ _ => rfl) _
  cases context with
  | none => exact keeps_throw _
  | some context => exact keeps_pure _

theorem saveState_ok (ran : scenario.saveState key scene = (.ok report, after)) :
    ∃ context cookies world, scene.session.context = some context ∧
      scenario.world.perform (.cookies context) scene.world = (.ok cookies, world) ∧
      after = { scene with world, snapshots := scene.snapshots.put key cookies } := by
  obtain ⟨cookies, between, captured, rest⟩ := (bind_ok ..).mp ran
  obtain ⟨context, world, held, told, rfl⟩ := captureCookies_ok captured
  cases rest
  exact ⟨context, cookies, world, held, told, rfl⟩

theorem saveState_failed (ran : scenario.saveState key scene = (outcome, after))
    (failed : outcome.passes = false) : after.snapshots = scene.snapshots := by
  have kept := scenario.captureCookies_keeps scene
  rw [saveState, bind_run] at ran
  rcases captured : scenario.captureCookies scene with ⟨cookies | failure | _, between⟩ <;>
    rw [captured] at ran kept
  · cases ran
    cases failed
  · cases ran
    exact kept
  · cases ran
    exact kept

/-! ## Loading -/

/-- The calls that put cookies into a jar and show the page with them. -/
def restoring (context : ContextId) (page : PageId) (cookies : List Datum) : List (Called T) :=
  [⟨.clearCookies context, none⟩] ++
    (if cookies.isEmpty then [] else [⟨.addCookies context cookies, none⟩]) ++
    [⟨.reload page, none⟩]

/-- Cookies are put in the place of those in the jar, and then the page is loaded anew. -/
structure Restores (scenario : Scenario W T) (jar : W -> ContextId -> List Datum)
    (log : W -> List (Called T)) (cookies : List Datum) (before : Scene W) (context : ContextId)
    (page : PageId) (restored : W) (after : Scene W) : Prop where
  session : before.session.context = some context ∧ before.session.page = some page ∧
    after.session = before.session
  filled : jar restored context = cookies
  reloaded : scenario.world.perform (.reload page) restored = (.ok (), after.world)
  called : log after.world = log before.world ++ restoring context page cookies
  -- What the page does to the jar while it loads is its own business.
  kept : (∀ state,
      jar (scenario.world.perform (.reload page) state).2 context = jar state context) →
    jar after.world context = cookies
  handles : after.handles = .empty
  snapshots : after.snapshots = before.snapshots

def restoredReport (key : String) : StepOutcome :=
  .passed [("state_key", .text key), ("restored", .bool true)]

def unsavedReport (key : String) : StepOutcome :=
  { StepOutcome.passed [("state_key", .text key), ("restored", .bool false)] with
    warnings := [s!"No saved state for key: {key}"] }

/-- Loading a key brings back what was last saved under it; nothing but a warning comes of a key
that nothing was saved under. -/
inductive Loads (scenario : Scenario W T) (jar : W -> ContextId -> List Datum)
    (log : W -> List (Called T)) (key : String) (saved? : Option (List Datum)) (before : Scene W) :
    StepOutcome -> Scene W -> Prop where
  | restored {cookies : List Datum} {context : ContextId} {page : PageId} {restored : W}
      {after : Scene W} (saved : saved? = some cookies)
      (restores : scenario.Restores jar log cookies before context page restored after) :
      Loads scenario jar log key saved? before (restoredReport key) after
  | unsaved (unsaved : saved? = none) :
      Loads scenario jar log key saved? before (unsavedReport key) before

theorem Loads.restores {jar : W -> ContextId -> List Datum} {log : W -> List (Called T)}
    (loads : scenario.Loads jar log key (some cookies) scene report after) :
    ∃ context page restored,
      scenario.Restores jar log cookies scene context page restored after := by
  cases loads with
  | restored saved restores =>
    cases saved
    exact ⟨_, _, _, restores⟩
  | unsaved unsaved => cases unsaved

end

variable {W T : Type} [Scale T] {scenario : Scenario W T} {jar : W -> ContextId -> List Datum}
  {scene between after : Scene W} {report : StepOutcome} {outcome : Outcome StepOutcome}
  {key : String} {action : Action} {row : Option Row} {task : Task} {number : Nat}
  {phase next : Phase T} {saves : Table (List Datum)}

/-! ## Records -/

theorem takeAction_of_save (saving : action.operation = .saveState key) (row : Option Row) :
    scenario.takeAction action row =
      scenario.preparing action.header row >>= fun _ => scenario.saveState key := by
  rw [takeAction, prepared_eq, perform, saving]

theorem sessionless_snapshots : Scene.Sessionless (Scene.snapshots (W := W)) :=
  ⟨fun _ _ => rfl, fun _ _ _ => rfl⟩

omit [Scale T] in
/-- Nothing else touches what was saved. -/
theorem admits_snapshots : scenario.Admits (.keeping Scene.snapshots) where
  called _ _ _ := rfl
  slept _ _ := rfl
  found _ _ _ _ := Conduct.follows_keeping.mpr <|
    keeps_bind (scenario.call_keeps sessionless_snapshots.world _) fun _ _ => rfl
  producers _ := producer_follows (fun call _ => Conduct.follows_keeping.mpr
    (scenario.call_keeps sessionless_snapshots.world call)) fun _ _ => rfl
  consumers _ := consumer_follows (fun call _ => Conduct.follows_keeping.mpr
    (scenario.call_keeps sessionless_snapshots.world call)) fun _ _ => rfl
  topics _ _ := rfl
  reloaded _ _ := rfl
  dropped _ := rfl
  cookieJar _ _ := rfl
  grounded _ _ _ := trivial

theorem preparing_keeps (header : Header) (row : Option Row) :
    (scenario.preparing header row).Keeps Scene.snapshots :=
  Conduct.follows_keeping.mp <|
    prepared_follows admits_snapshots (scenario.allowsLookup_keeping header true) row
      (follows_pure ())

theorem takeAction_ok_of_save (saving : action.operation = .saveState key)
    (ran : scenario.takeAction action row scene = (.ok report, after)) :
    ∃ context cookies state world, after.session.context = some context ∧
      scenario.world.perform (.cookies context) state = (.ok cookies, world) ∧
      after.world = world ∧ after.snapshots = scene.snapshots.put key cookies := by
  rw [takeAction_of_save saving, bind_ok] at ran
  obtain ⟨_, between, prepared, saved⟩ := ran
  obtain ⟨context, cookies, world, held, told, rfl⟩ := saveState_ok saved
  have kept := (preparing_keeps action.header row).of_run prepared
  exact ⟨context, cookies, between.world, world, held, told, rfl, by rw [kept]⟩

theorem takeAction_failed_of_save (saving : action.operation = .saveState key)
    (ran : scenario.takeAction action row scene = (outcome, after))
    (failed : outcome.passes = false) : after.snapshots = scene.snapshots := by
  have kept := scenario.preparing_keeps action.header row scene
  rw [takeAction_of_save saving, bind_run] at ran
  rcases prepared : scenario.preparing action.header row scene with ⟨_ | failure | _, between⟩ <;>
    rw [prepared] at ran kept
  · exact (saveState_failed ran failed).trans kept
  · cases ran
    exact kept
  · cases ran
    exact kept

/-! ## Attempts -/

theorem attemptOf_snapshots
    (ran : scenario.attemptOf task (noteAttempts number scene) = (outcome, after))
    (unsaved : ∀ action row key, task = .act action row → action.operation = .saveState key →
      outcome.passes = false) : after.snapshots = scene.snapshots := by
  cases task with
  | visit page =>
    have kept :=
      (scenario.openPage_keeps page Scene.snapshots (fun _ _ => rfl) fun _ => rfl).of_run ran
    exact kept
  | judge assertion row =>
    have judges := takeAssertion_follows admits_snapshots
      (scenario.allowsLookup_keeping assertion.header assertion.aspect.needsElement) row
    have kept := (Conduct.follows_keeping.mp judges).of_run ran
    exact kept
  | act action row =>
    -- A save that fails does so before it writes, and no other operation writes at all.
    by_cases saving : ∃ key, action.operation = .saveState key
    · obtain ⟨key, saving⟩ := saving
      have kept := takeAction_failed_of_save saving ran (unsaved action row key rfl saving)
      exact kept
    · have allows : scenario.Allows (.keeping Scene.snapshots) action :=
        ⟨scenario.allowsLookup_keeping _ _, fun _ _ => ⟨fun _ => rfl, fun _ _ => trivial⟩,
          fun _ _ => trivial, fun _ _ _ _ _ _ => trivial,
          fun key saves => absurd ⟨key, saves⟩ saving⟩
      have acts := takeAction_follows admits_snapshots allows row
      have kept := (Conduct.follows_keeping.mp acts).of_run ran
      exact kept

section

variable (listens : scenario.onRestart = [Scene.dropHandles])

include listens

theorem restartSession_snapshots : scenario.restartSession.Keeps Scene.snapshots :=
  restartSession_keeps listens Scene.snapshots sessionless_snapshots fun _ => rfl

theorem reopen_snapshots : scenario.reopen.Keeps Scene.snapshots :=
  Conduct.follows_keeping.mp <| reopen_follows
    (Conduct.follows_keeping.mpr (restartSession_snapshots listens)) fun page =>
      Conduct.follows_keeping.mpr
        (scenario.openPage_keeps page Scene.snapshots (fun _ _ => rfl) fun _ => rfl)

theorem reopened_snapshots (attempted : between.snapshots = scene.snapshots)
    {reopened : Outcome Unit}
    (ran : scenario.reopen (noteReinitialization between) = (reopened, after)) :
    after.snapshots = scene.snapshots := by
  have kept := (reopen_snapshots listens).of_run ran
  exact kept.trans attempted

theorem tries_snapshots {trial : Trial StepOutcome}
    (tried : scenario.retrier.Tries (scenario.attemptOf task) number scene trial after)
    (unsaved : ∀ action row key, task = .act action row → action.operation = .saveState key →
      ∀ report, trial ≠ .passed report) : after.snapshots = scene.snapshots := by
  cases tried with
  | passed ran =>
    exact attemptOf_snapshots ran fun action row key same saving =>
      absurd rfl (unsaved action row key same saving _)
  | refused ran | failed ran => exact attemptOf_snapshots ran fun _ _ _ _ _ => rfl
  | @lost between _ _ _ ran kind restored =>
    have attempted : between.snapshots = scene.snapshots :=
      attemptOf_snapshots ran fun _ _ _ _ _ => rfl
    cases restored with
    | unattended absent => cases absent
    | succeeded present reopened | broke present reopened =>
      cases present
      exact reopened_snapshots listens attempted reopened

theorem hangs_snapshots
    (hung : scenario.retrier.Hangs (scenario.attemptOf task) number scene after) :
    after.snapshots = scene.snapshots := by
  cases hung with
  | step ran => exact attemptOf_snapshots ran fun _ _ _ _ _ => rfl
  | @recovery between _ _ _ ran kind present hung =>
    cases present
    have attempted : between.snapshots = scene.snapshots :=
      attemptOf_snapshots ran fun _ _ _ _ _ => rfl
    exact reopened_snapshots listens attempted hung

end

/-! ## A lifetime of saving -/

/-- A record that saves under a key passes. -/
def Saves (scenario : Scenario W T) (key : String) (phase : Phase T) (scene : Scene W)
    (next : Phase T) (after : Scene W) : Prop :=
  ∃ action row made deadline report, phase = .trying (.act action row) made deadline ∧
    action.operation = .saveState key ∧ next = .idle ∧
    scenario.takeAction action row (noteAttempts (made + 1) scene) = (.ok report, after)

/-- What was saved in a lifetime so far, the latest first: the jar of the session as it was then. -/
inductive Remembers (scenario : Scenario W T) (jar : W -> ContextId -> List Datum) :
    Table (List Datum) -> Phase T -> Scene W -> Prop where
  | opening {world : W} {files : Files} :
      Remembers scenario jar [] .idle (Scene.opening world files)
  | saved {saves : Table (List Datum)} {phase next : Phase T} {scene after : Scene W}
      {key : String} {context : ContextId} (remembers : Remembers scenario jar saves phase scene)
      (saving : scenario.Saves key phase scene next after)
      (held : after.session.context = some context) :
      Remembers scenario jar ((key, jar after.world context) :: saves) next after
  | strode {saves : Table (List Datum)} {phase next : Phase T} {scene after : Scene W}
      (remembers : Remembers scenario jar saves phase scene)
      (stride : scenario.Stride phase scene next after)
      (other : ∀ key, ¬ scenario.Saves key phase scene next after) :
      Remembers scenario jar saves next after
  -- What others do in the meantime, be it to the jar.
  | meanwhile {saves : Table (List Datum)} {phase : Phase T} {scene : Scene W} (world : W)
      (remembers : Remembers scenario jar saves phase scene) :
      Remembers scenario jar saves phase { scene with world }

section

variable (listens : scenario.onRestart = [Scene.dropHandles])

include listens

theorem Stride.snapshots (stride : scenario.Stride phase scene next after)
    (other : ∀ key, ¬ scenario.Saves key phase scene next after) :
    after.snapshots = scene.snapshots := by
  have surrounds : scenario.Surrounds (.keeping Scene.snapshots) :=
    surrounds_keeping sessionless_snapshots (fun _ _ => rfl) (fun _ _ _ _ => rfl) fun _ _ => rfl
  cases stride with
  | started => exact (start_follows surrounds (fun _ => trivial) scene).1
  | closed => exact (close_follows surrounds scene).1
  | pictured path => exact (captureScreenshot_follows surrounds path (fun _ => trivial) scene).1
  | moved move =>
    cases move with
    | begun | spent => rfl
    | @retried _ _ _ _ between _ tried retried =>
      have kept : between.snapshots = scene.snapshots := by
        refine tries_snapshots listens tried fun action row key same saving report passed => ?_
        rw [passed, Trial.isRetried] at retried
        cases retried
      exact kept
    | @ended task made deadline _ _ trial tried overdue =>
      refine tries_snapshots listens tried fun action row key same saving report passed => ?_
      -- A record that passes saves, and this one does not.
      subst same passed
      cases tried with
      | passed ran => exact other key ⟨action, row, made, deadline, report, rfl, saving, rfl, ran⟩
    | hung hung => exact hangs_snapshots listens hung
    | noted ran => exact surrounds.noted ran
    | reset ran => exact (restartSession_snapshots listens).of_run ran
    | opened ran =>
      exact (scenario.openPage_keeps _ Scene.snapshots (fun _ _ => rfl) fun _ => rfl).of_run ran

theorem Remembers.kept (holds : scenario.world.HoldsCookies jar)
    (remembers : scenario.Remembers jar saves phase scene) (key : String) :
    scene.snapshots.get? key = saves.get? key := by
  -- By induction on the lifetime; only a record that saves and passes touches the table, and that
  -- puts its entry before all others.
  induction remembers with
  | opening => rfl
  | saved remembers saving held ih =>
    obtain ⟨action, row, made, deadline, report, rfl, saving, rfl, ran⟩ := saving
    obtain ⟨context, cookies, state, world, here, told, rfl, snapshots⟩ :=
      takeAction_ok_of_save saving ran
    obtain rfl := Option.some.inj (held.symm.trans here)
    obtain ⟨rfl, same⟩ := holds.told _ _ _ _ told
    rw [snapshots, Table.get?_put, Table.get?_cons, same]
    split
    · rfl
    · exact ih
  | strode remembers stride other ih => rw [stride.snapshots listens other, ih]
  | meanwhile world remembers ih => exact ih

end

theorem Remembers.strides (remembers : scenario.Remembers jar saves phase scene)
    (stride : scenario.Stride phase scene next after) :
    ∃ later, saves <:+ later ∧ scenario.Remembers jar later next after := by
  by_cases saving : ∃ key, scenario.Saves key phase scene next after
  · obtain ⟨key, saving⟩ := saving
    have saved := saving
    obtain ⟨action, row, made, deadline, report, rfl, operation, rfl, ran⟩ := saving
    obtain ⟨context, cookies, state, world, held, -⟩ := takeAction_ok_of_save operation ran
    exact ⟨_, List.suffix_cons _ _, .saved remembers saved held⟩
  · exact ⟨saves, List.suffix_rfl, .strode remembers stride fun key saves => saving ⟨key, saves⟩⟩

theorem Remembers.driven (remembers : scenario.Remembers jar saves .idle scene)
    (call : ScenarioCall) :
    ∃ later phase, saves <:+ later ∧
      scenario.Remembers jar later phase (scenario.drive call scene).2 ∧
      ((scenario.drive call scene).1 ≠ .stalled → phase = .idle) := by
  let onward : Phase T -> Scene W -> Prop := fun phase after =>
    ∃ later, saves <:+ later ∧ scenario.Remembers jar later phase after
  have strides : ∀ phase before next after, onward phase before →
      scenario.Stride phase before next after → onward next after := by
    rintro phase before next after ⟨later, more, remembers⟩ stride
    obtain ⟨last, still, remembers⟩ := remembers.strides stride
    exact ⟨last, more.trans still, remembers⟩
  obtain ⟨phase, ⟨later, more, remembers⟩, idle⟩ :=
    drive_holds strides ⟨saves, List.suffix_rfl, remembers⟩ call
  exact ⟨later, phase, more, remembers, idle⟩

theorem not_saves_of_idle : ¬ scenario.Saves key .idle scene next after :=
  fun ⟨_, _, _, _, _, trying, _⟩ => nomatch trying

section

variable {budget : T} (remembers : scenario.Remembers jar saves .idle scene)
  (bounded : scenario.retrier.policy.budget? = some budget)

include remembers bounded

theorem Remembers.begun (task : Task) :
    scenario.Remembers jar saves
      (.trying task 0 (Scale.add (scenario.clock.now scene) budget)) scene :=
  .strode remembers (.moved (.begun bounded)) fun _ => not_saves_of_idle

/-- A record saves when it is first tried. -/
theorem Remembers.adds {context : ContextId} (action : Action) (row : Option Row)
    (saving : action.operation = .saveState key)
    (ran : scenario.takeAction action row (noteAttempts 1 scene) = (.ok report, after))
    (held : after.session.context = some context) :
    scenario.Remembers jar ((key, jar after.world context) :: saves) .idle after :=
  .saved (remembers.begun bounded _) ⟨action, row, 0, _, report, rfl, saving, rfl, ran⟩ held

/-- A record that saves nothing passes when it is first tried. -/
theorem Remembers.passed (action : Action) (row : Option Row)
    (other : ∀ key, action.operation ≠ .saveState key)
    (ran : scenario.takeAction action row (noteAttempts 1 scene) = (.ok report, after)) :
    scenario.Remembers jar saves .idle after := by
  have begun := remembers.begun bounded (.act action row)
  refine .strode begun (.moved (.ended (.passed ran) nofun)) ?_
  rintro key ⟨_, _, _, _, _, trying, saving, _⟩
  cases trying
  exact other key saving

end

theorem Remembers.restarted (remembers : scenario.Remembers jar saves .idle scene)
    (ran : scenario.restartSession scene = (.ok (), after)) :
    scenario.Remembers jar saves .idle after :=
  .strode remembers (.moved (.reset ran)) fun _ => not_saves_of_idle

section

variable {scene : Scene (List Datum × List (Called Rat))}

end

end Scenario

end Rehearsal
