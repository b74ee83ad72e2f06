import Rehearsal.Proofs.Scenario.LoggedSessions
import Rehearsal.Proofs.Scenario.OneBrowser

/-!
The lifetime of a scenario, from its first scene on: it is started and closed, its page is pictured,
and it moves through what it replays. What none of these strides breaks holds for a lifetime.
-/

set_option autoImplicit false

namespace Rehearsal

open Activity

namespace Activity

variable {S A : Type}

theorem Follows.weaken {conduct weaker : Conduct S} {activity : Activity S A}
    (follows : activity.Follows conduct)
    (leads : ∀ before after, conduct.leads before after → weaker.leads before after)
    (raises : ∀ failure, weaker.raises failure) : activity.Follows weaker :=
  fun state => ⟨leads _ _ (follows state).1, fun failure _ => raises failure⟩

end Activity

def Conduct.holding {S : Type} (property : S -> Prop) : Conduct S where
  leads before after := property before → property after
  raises _ := True
  still _ holds := holds
  onward first second holds := second (first holds)

theorem Call.resource?_of_session {T : Type} {call : Call T} (own : call.isOfSession = true) :
    call.resource? = none ∨ call.resource? = some .browser := by
  cases call <;> first | exact .inl rfl | exact .inr rfl | cases own

theorem Phase.after_of_ended {T A : Type} {outcome : Outcome A} (ended : outcome ≠ .stalled) :
    (Phase.after outcome : Phase T) = .idle := by
  cases outcome with
  | ok _ | failed _ => rfl
  | stalled => exact absurd rfl ended

namespace Scenario

variable {W T : Type} [Scale T]

/-- A stride of a lifetime: one of the scenario's own calls, or one move of a journey. -/
inductive Stride (scenario : Scenario W T) :
    Phase T -> Scene W -> Phase T -> Scene W -> Prop where
  | started {scene : Scene W} : Stride scenario .idle scene .idle (scenario.start scene).2
  | closed {scene : Scene W} : Stride scenario .idle scene .idle (scenario.close scene).2
  | pictured {scene : Scene W} (path : Option Path) :
      Stride scenario .idle scene .idle (scenario.captureScreenshot path scene).2
  | moved {phase next : Phase T} {scene after : Scene W} {resets : Nat}
      (move : scenario.Move phase scene resets next after) :
      Stride scenario phase scene next after

/-- What a scenario may come to in a world where nothing was done before. -/
inductive Lived (scenario : Scenario W T) (transcript : W -> List (Answered T)) :
    Phase T -> Scene W -> Prop where
  | opening {world : W} {files : Files} (silent : transcript world = []) :
      Lived scenario transcript .idle (Scene.opening world files)
  | strode {phase next : Phase T} {scene after : Scene W}
      (lived : Lived scenario transcript phase scene)
      (stride : scenario.Stride phase scene next after) : Lived scenario transcript next after

/-- A conduct that allows for whatever happens in a lifetime. -/
structure Sustains (scenario : Scenario W T) (conduct : Conduct (Scene W)) : Prop
    extends Surrounds scenario conduct where
  attempts : ∀ task, (scenario.attemptOf task).Follows conduct
  restarts : scenario.restartSession.Follows conduct
  slept : ∀ span scene, conduct.leads scene (scenario.clock.sleep span scene)
  counts : ∀ scene counts, conduct.leads scene { scene with counts }

variable {scenario : Scenario W T} {conduct : Conduct (Scene W)}
  {transcript : W -> List (Answered T)}

/-! ## Attempts -/

/-- What an attempt comes to: the step is taken, and the session may be set up anew after it. -/
inductive Ventures (scenario : Scenario W T) (task : Task) (number : Nat) (scene : Scene W) :
    Scene W -> Prop where
  | taken {outcome : Outcome StepOutcome} {after : Scene W}
      (ran : scenario.attemptOf task (noteAttempts number scene) = (outcome, after)) :
      Ventures scenario task number scene after
  | recovered {outcome : Outcome StepOutcome} {result : Outcome Unit} {between after : Scene W}
      (ran : scenario.attemptOf task (noteAttempts number scene) = (outcome, between))
      (reopened : scenario.reopen (noteReinitialization between) = (result, after)) :
      Ventures scenario task number scene after

section

variable {task : Task} {number : Nat} {scene after : Scene W}

theorem Ventures.of_tries {trial : Trial StepOutcome}
    (tried : scenario.retrier.Tries (scenario.attemptOf task) number scene trial after) :
    scenario.Ventures task number scene after := by
  cases tried with
  | passed ran | refused ran | failed ran => exact .taken ran
  | lost ran kind restored =>
    cases restored with
    | unattended absent => cases absent
    | succeeded present reopened | broke present reopened =>
      cases present
      exact .recovered ran reopened

theorem Ventures.of_hangs
    (hung : scenario.retrier.Hangs (scenario.attemptOf task) number scene after) :
    scenario.Ventures task number scene after := by
  cases hung with
  | step ran => exact .taken ran
  | recovery ran kind present hung =>
    cases present
    exact .recovered ran hung

end

/-! ## What strides lead to -/

theorem reopen_follows (restarts : scenario.restartSession.Follows conduct)
    (opens : ∀ page, (scenario.openPage page).Follows conduct) :
    scenario.reopen.Follows conduct := by
  refine follows_bind restarts fun _ => ?_
  refine follows_bind (follows_look _) fun current => ?_
  cases current with
  | none => exact follows_pure _
  | some page => exact follows_discard (opens page)

section

variable (sustains : scenario.Sustains conduct)

include sustains

theorem Ventures.leads {task : Task} {number : Nat} {scene after : Scene W}
    (ventures : scenario.Ventures task number scene after) : conduct.leads scene after := by
  -- The number of the attempt is noted before its step is taken.
  have attempted : ∀ {outcome between},
      scenario.attemptOf task (noteAttempts number scene) = (outcome, between) →
        conduct.leads scene between := fun ran =>
    conduct.onward (sustains.counts scene _) ((sustains.attempts task).of_run ran).1
  cases ventures with
  | taken ran => exact attempted ran
  | recovered ran reopened =>
    have reopens := reopen_follows sustains.restarts fun page => sustains.attempts (.visit page)
    have recovered := conduct.onward (sustains.counts _ _) (reopens.of_run reopened).1
    exact conduct.onward (attempted ran) recovered

theorem Sustains.moves {phase next : Phase T} {scene after : Scene W} {resets : Nat}
    (move : scenario.Move phase scene resets next after) : conduct.leads scene after := by
  cases move with
  | begun | spent => exact conduct.still scene
  | retried tried =>
    exact conduct.onward ((Ventures.of_tries tried).leads sustains) (sustains.slept _ _)
  | ended tried => exact (Ventures.of_tries tried).leads sustains
  | hung hung => exact (Ventures.of_hangs hung).leads sustains
  | noted ran => exact sustains.toSurrounds.noted ran
  | reset ran => exact (sustains.restarts.of_run ran).1
  | opened ran => exact ((sustains.attempts (.visit _)).of_run ran).1

theorem Stride.leads (lenient : ∀ failure, conduct.raises failure) {phase next : Phase T}
    {scene after : Scene W} (stride : scenario.Stride phase scene next after) :
    conduct.leads scene after := by
  cases stride with
  | started => exact (start_follows sustains.toSurrounds lenient scene).1
  | closed => exact (close_follows sustains.toSurrounds scene).1
  | pictured path => exact (captureScreenshot_follows sustains.toSurrounds path lenient scene).1
  | moved move => exact sustains.moves move

end

theorem Lived.holds {property : Scene W -> Prop} (sustains : scenario.Sustains (.holding property))
    (begins : ∀ world files, transcript world = [] → property (Scene.opening world files))
    {phase : Phase T} {scene : Scene W} (lived : scenario.Lived transcript phase scene) :
    property scene := by
  -- By induction on the strides; what a call raises is of no account to the property.
  induction lived with
  | opening silent => exact begins _ _ silent
  | strode lived stride ih => exact stride.leads sustains (fun _ => trivial) ih

/-! ## Conducts by their parts -/

theorem attemptOf_follows (admits : scenario.Admits conduct)
    (lenient : ∀ failure, conduct.raises failure)
    (enters : ∀ page scene, conduct.leads scene (scene.enter page))
    (saves : ∀ scene snapshots, conduct.leads scene { scene with snapshots }) (task : Task) :
    (scenario.attemptOf task).Follows conduct := by
  cases task with
  | visit page => exact openPage_follows admits (enters page) fun failure _ => lenient failure
  | act action row =>
    refine takeAction_follows admits ⟨fun _ failure _ => lenient failure, fun page _ => ?_,
      fun _ _ => lenient _, fun _ _ _ _ _ _ => lenient _, fun _ _ => saves⟩ row
    exact ⟨enters page, fun failure _ => lenient failure⟩
  | judge assertion row =>
    exact takeAssertion_follows admits (fun _ failure _ => lenient failure) row

theorem Admits.sustains (admits : scenario.Admits conduct)
    (permits : scenario.PermitsSession conduct) (listens : scenario.onRestart = [Scene.dropHandles])
    (lenient : ∀ failure, conduct.raises failure)
    (releases : scenario.settings.brokerEnabled = true → scenario.closeBroker.Follows conduct)
    (aside : ∀ scene changed : Scene W, changed.world = scene.world →
      changed.handles = scene.handles → changed.resolutions = scene.resolutions →
      changed.broker = scene.broker → changed.session.browser = scene.session.browser →
        conduct.leads scene changed) :
    scenario.Sustains conduct where
  attempts := attemptOf_follows admits lenient
    (fun _ scene => aside scene _ rfl rfl rfl rfl rfl)
    fun scene _ => aside scene _ rfl rfl rfl rfl rfl
  starts := startSession_follows permits
  restarts := by
    refine follows_bind (follows_change fun scene => aside scene _ rfl rfl rfl rfl rfl) fun _ => ?_
    refine follows_bind (startSession_follows permits) fun _ => ?_
    rw [listens]
    exact follows_change admits.dropped
  closes := closeSession_follows permits
  releases := releases
  pictures := follows_bind (livePage_follows admits) fun _ => call_follows admits _ rfl
  slept := admits.slept
  counts scene _ := aside scene _ rfl rfl rfl rfl rfl
  notes scene _ _ _ := aside scene _ rfl rfl rfl rfl rfl
  requests scene _ := aside scene _ rfl rfl rfl rfl rfl

/-! ## One browser over a lifetime -/

section

variable (transcribes : scenario.world.IsTranscript transcript)

include transcribes

omit [Scale T] in
theorem permits_adding {V : Type} {kind : Answered T -> Prop} {view : Scene W -> V}
    (blind : Scene.Blind view)
    (allowed : ∀ answered : Answered T, answered.call.resource? ≠ some .browser → kind answered) :
    scenario.Permits (adding transcript kind view) where
  called call apart scene :=
    ⟨blind.world scene _, _, transcribes.performed call scene.world,
      by simpa using allowed ⟨call, _⟩ apart⟩
  slept span scene :=
    ⟨blind.world scene _, [], by simpa [clock] using transcribes.slept span scene.world, by simp⟩
  handles scene handles := ⟨blind.handles scene handles, [], by simp, by simp⟩
  resolutions scene resolutions := ⟨blind.resolutions scene resolutions, [], by simp, by simp⟩
  snapshots scene snapshots := ⟨blind.snapshots scene snapshots, [], by simp, by simp⟩
  broker scene broker := ⟨blind.broker scene broker, [], by simp, by simp⟩
  cookieJar scene cookieJar := ⟨blind.cookieJar scene cookieJar, [], by simp, by simp⟩
  grounded _ _ _ := trivial

theorem sustains_holdsOne (listens : scenario.onRestart = [Scene.dropHandles]) :
    scenario.Sustains (.holding (HoldsOne transcript)) := by
  let apart := adding transcript (fun answered => answered.call.resource? ≠ some .browser)
    (Scene.session (W := W))
  -- No step has anything to do with browsers, and what has not leaves the one that is held.
  have permits : scenario.Permits apart :=
    permits_adding transcribes Scene.blind_session fun _ other => other
  have holds : ∀ {A : Type} {activity : Activity (Scene W) A}, activity.Follows apart →
      activity.Follows (.holding (HoldsOne transcript)) := by
    refine fun follows => follows.weaken ?_ fun _ => trivial
    rintro before after ⟨same, made, grown, others⟩ ⟨tended, within⟩
    refine ⟨?_, same ▸ within⟩
    rw [grown, same]
    exact tended.aside (aside_of_resource others)
  have entered : ∀ page (scene : Scene W), apart.leads scene (scene.enter page) :=
    fun page scene => ⟨rfl, [], by simp [Scene.enter], by simp⟩
  have called := fun call (scene : Scene W) (holds : HoldsOne transcript scene) =>
    sessionCall_holdsOne transcribes (listensOnly_of_drops listens) call holds
  exact {
    attempts := fun task => holds
      (attemptOf_follows permits.admits (fun _ => trivial) entered permits.snapshots task)
    starts := fun scene => ⟨called .start scene, fun _ _ => trivial⟩
    restarts := fun scene => ⟨called .restart scene, fun _ _ => trivial⟩
    closes := fun scene => ⟨called .close scene, fun _ _ => trivial⟩
    releases := fun _ => holds permits.closeBroker_follows
    pictures := holds (follows_bind (livePage_follows permits.admits) fun _ =>
      call_follows permits.admits _ rfl)
    slept := fun span scene given =>
      ⟨(transcribes.slept span scene.world).symm ▸ given.tended, given.within⟩
    counts := fun _ _ given => ⟨given.tended, given.within⟩
    notes := fun _ _ _ _ given => ⟨given.tended, given.within⟩
    requests := fun _ _ given => ⟨given.tended, given.within⟩ }

theorem Lived.holdsOne (listens : scenario.onRestart = [Scene.dropHandles]) {phase : Phase T}
    {scene : Scene W} (lived : scenario.Lived transcript phase scene) :
    HoldsOne transcript scene := by
  refine lived.holds (sustains_holdsOne transcribes listens) fun world files silent => ?_
  exact ⟨by rw [Scene.opening, silent]; exact tended_nil, nofun⟩

end

/-! ## Where the calls of a scenario lead -/

theorem Lived.reached {phase : Phase T} {scene : Scene W}
    (lived : scenario.Lived transcript phase scene) :
    ∃ resets, scenario.Reached resets phase scene := by
  induction lived with
  | opening silent => exact ⟨0, .opening _ _⟩
  | strode lived stride ih =>
    obtain ⟨resets, reached⟩ := ih
    cases stride with
    | started => exact ⟨resets, .started reached⟩
    | closed => exact ⟨resets, .closed reached⟩
    | pictured path => exact ⟨resets, .pictured reached path⟩
    | moved move => exact ⟨_, .moved reached move.moves⟩

variable (scenario) in
theorem serve_journeys (request : Request) :
    ∃ most, scenario.Journeys most (scenario.serve request) := by
  cases request with
  | visit page => exact ⟨0, navigateTo_journeys page⟩
  | replay name asked => exact ⟨_, executeTest_journeys name asked⟩
  | check name perRow =>
    exact ⟨0, journeys_then (assertTest_journeys name perRow) fun _ => journeys_pure ()⟩

inductive ScenarioCall where
  | start
  | close
  | serve (request : Request)

def drive (scenario : Scenario W T) : ScenarioCall -> Activity (Scene W) Unit
  | .start => scenario.start
  | .close => scenario.close
  | .serve request => scenario.serve request

section

variable {property : Phase T -> Scene W -> Prop}
  (kept : ∀ phase scene next after, property phase scene →
    scenario.Stride phase scene next after → property next after)

include kept

theorem Moves.holds {phase next : Phase T} {scene after : Scene W} {resets : Nat}
    (moves : scenario.Moves phase scene resets next after) (holds : property phase scene) :
    property next after := by
  induction moves with
  | none => exact holds
  | more move rest ih => exact ih (kept _ _ _ _ holds (.moved move))

/-- What no stride breaks holds wherever a call leads; between two steps, unless it never ends. -/
theorem drive_holds {scene : Scene W} (holds : property .idle scene) (call : ScenarioCall) :
    ∃ phase, property phase (scenario.drive call scene).2 ∧
      ((scenario.drive call scene).1 ≠ .stalled → phase = .idle) := by
  cases call with
  | start => exact ⟨.idle, kept _ _ _ _ holds .started, fun _ => rfl⟩
  | close => exact ⟨.idle, kept _ _ _ _ holds .closed, fun _ => rfl⟩
  | serve request =>
    obtain ⟨most, journeys⟩ := scenario.serve_journeys request
    obtain ⟨resets, -, -, moves⟩ := journeys scene
    exact ⟨_, moves.holds kept holds, Phase.after_of_ended⟩

end

/-- Whatever a call ends in, a lifetime goes on from there, unless the call never ends. -/
theorem Lived.driven {scene : Scene W} (lived : scenario.Lived transcript .idle scene)
    (call : ScenarioCall) :
    ∃ phase, scenario.Lived transcript phase (scenario.drive call scene).2 ∧
      ((scenario.drive call scene).1 ≠ .stalled → phase = .idle) :=
  drive_holds (fun _ _ _ _ => .strode) lived call

end Scenario

end Rehearsal
