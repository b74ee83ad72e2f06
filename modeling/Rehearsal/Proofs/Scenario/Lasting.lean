import Rehearsal.Proofs.Activity.Contract
import Rehearsal.Proofs.Scenario.Plans
import Rehearsal.Proofs.Time.RetryHistory

/-!
What lasts through a run. A property of what is kept of elements lasts if it survives that something
is found for the row, and that a page or all is dropped; every attempt of a run then begins with it.
-/

set_option autoImplicit false

namespace Rehearsal

open Activity

/-! ## Attempts of a retrier -/

namespace Retrier

variable {S T A : Type} [Scale T]

/-- A run of the retrier begins the attempt of some number in some state. -/
def Begins (retrier : Retrier S T) (fuel : Nat) (step : Activity S A) (start : S) (number : Nat)
    (began : S) : Prop :=
  ∃ budget earlier state, retrier.policy.budget? = some budget ∧
    retrier.Repeats step (Scale.add (retrier.clock.now start) budget) 0 start earlier state ∧
    earlier.length < fuel ∧ number = earlier.length + 1 ∧
    began = retrier.noteAttempts number state

variable {retrier : Retrier S T} {required : S -> Prop} {yields : A -> Prop}
  {raises : Failure -> Prop} {step : Activity S A}
  (suits : retrier.Suits required raises) (ensures : step.Ensures required ⟨yields, raises⟩)

include suits

omit [Scale T] in
theorem Restores.ensured {state last : S} {flaw : Option Failure}
    (restores : retrier.Restores state flaw last) (given : required state) : required last := by
  have noted := suits.reinitializations state given
  cases restores with
  | unattended => exact noted
  | succeeded present ran => exact ((suits.reopens _ present).of_run noted ran).1
  | broke present ran => exact ((suits.reopens _ present).of_run noted ran).1

include ensures

omit [Scale T] in
theorem Tries.ensured {number : Nat} {state last : S} {trial : Trial A}
    (tried : retrier.Tries step number state trial last) (given : required state) :
    required last := by
  have noted := suits.attempts number state given
  cases tried with
  | passed ran => exact (ensures.of_run noted ran).1
  | refused ran => exact (ensures.of_run noted ran).1
  | failed ran => exact (ensures.of_run noted ran).1
  | lost ran _ restored => exact restored.ensured suits (ensures.of_run noted ran).1

theorem Repeats.ensured {deadline : T} {count : Nat} {start last : S} {rounds : List (Round S A)}
    (repeats : retrier.Repeats step deadline count start rounds last) (given : required start) :
    required last := by
  induction repeats with
  | none => exact given
  | again tried _ _ _ ih => exact ih (suits.sleeps _ _ (tried.ensured suits ensures given))

theorem Begins.ensured {fuel number : Nat} {start began : S}
    (begins : retrier.Begins fuel step start number began) (given : required start) :
    required began := by
  obtain ⟨_, _, state, _, repeats, _, _, rfl⟩ := begins
  exact suits.attempts _ _ (repeats.ensured suits ensures given)

end Retrier

/-! ## Attempts of a run -/

namespace Scenario

variable {W T : Type} [Scale T]

/-- The run of a script begins an attempt at an action. -/
inductive RunBegins (scenario : Scenario W T) (script : Script) (row : Option Row)
    (number : Option Nat) (action : Action) (count : Nat) (began : Scene W) :
    Nat -> Nat -> Scene W -> Prop where
  | here {fuel pointer : Nat} {scene : Scene W} (found : script.actions[pointer]? = some action)
      (begins : scenario.retrier.Begins scenario.fuel (scenario.takeAction action row) scene count
        began) :
      RunBegins scenario script row number action count began (fuel + 1) pointer scene
  | later {fuel pointer next : Nat} {scene between : Scene W} {taken : Action}
      {outcome : StepOutcome} (found : script.actions[pointer]? = some taken)
      (passed : scenario.takeStep script.test taken.describe taken.payload number
        (scenario.takeAction taken row) scene = (.ok (.ok outcome), between))
      (leads : RunState.next pointer outcome.nextIndex script.actions.length = .ok (.running next))
      (rest : RunBegins scenario script row number action count began fuel next between) :
      RunBegins scenario script row number action count began (fuel + 1) pointer scene

/-- The check of assertions begins an attempt at one of them. -/
inductive CheckBegins (scenario : Scenario W T) (test : String) (row : Option Row)
    (number : Option Nat) (assertion : Assertion) (count : Nat) (began : Scene W) :
    List Assertion -> Scene W -> Prop where
  | here {scene : Scene W} {rest : List Assertion}
      (begins : scenario.retrier.Begins scenario.fuel (scenario.takeAssertion assertion row) scene
        count began) :
      CheckBegins scenario test row number assertion count began (assertion :: rest) scene
  | later {scene between : Scene W} {taken : Assertion} {rest : List Assertion}
      {outcome : StepOutcome}
      (passed : scenario.takeStep test taken.describe taken.payload number
        (scenario.takeAssertion taken row) scene = (.ok (.ok outcome), between))
      (begins : CheckBegins scenario test row number assertion count began rest between) :
      CheckBegins scenario test row number assertion count began (taken :: rest) scene

/-! ## Properties that last -/

/-- A property of scenes that all that steps do for the row leaves true. -/
structure Lasts (scenario : Scenario W T) (row : Option Row) (property : Scene W -> Prop) :
    Prop where
  framed : ∀ scene changed : Scene W, property scene → changed.handles = scene.handles →
    changed.resolutions = scene.resolutions → property changed
  kept : ∀ scene page element resolved, property scene →
    scenario.FoundFor page element row resolved → resolved.serial = scene.resolutions →
      property (scene.kept resolved)
  reloaded : ∀ page scene, property scene → property (scene.reloadPage page)
  dropped : ∀ scene, property scene → property scene.dropHandles

/-- Equal scenes that have a property. -/
def Shared (property : Scene W -> Prop) (scene other : Scene W) : Prop :=
  other = scene ∧ property scene

variable {scenario : Scenario W T} {row : Option Row} {property : Scene W -> Prop}

omit [Scale T] in
theorem Shared.agreesAt (property : Scene W -> Prop) (page element : String) :
    AgreesAt (Shared property) page element := by
  rintro scene _ ⟨rfl, -⟩
  rfl

omit [Scale T] in
theorem ensures_of_respects {A : Type} {activity : Activity (Scene W) A}
    (respects : activity.Respects (Shared property)) :
    activity.Ensures property ⟨fun _ => True, fun _ => True⟩ := by
  intro scene given
  obtain ⟨-, -, kept⟩ := respects scene scene ⟨rfl, given⟩
  refine ⟨kept, ?_⟩
  cases (activity scene).1 <;> trivial

variable (lasts : scenario.Lasts row property)

include lasts

omit [Scale T] in
theorem Lasts.bears : scenario.Bears row (Shared property) where
  alike := by
    rintro _ scene ⟨rfl, -⟩
    rfl
  framed := by
    rintro _ scene ⟨rfl, given⟩ changed handles resolutions
    refine ⟨?_, lasts.framed scene changed given handles resolutions⟩
    rw [← handles, ← resolutions]
    rfl
  kept := by
    rintro _ scene ⟨rfl, given⟩ page element resolved found numbered
    exact ⟨rfl, lasts.kept scene page element resolved given found numbered⟩
  reloaded := by
    rintro page _ scene ⟨rfl, given⟩
    exact ⟨rfl, lasts.reloaded page scene given⟩
  dropped := by
    rintro _ scene ⟨rfl, given⟩
    exact ⟨rfl, lasts.dropped scene given⟩

/-! ## Runs -/

-- Sharing a property is a relation that lookups respect whatever they look for, as they find the
-- same in equal scenes. So what holds of steps and relations yields that the property lasts.

theorem takeAction_lasts (action : Action) :
    (scenario.takeAction action row).Respects (Shared property) :=
  takeAction_respects lasts.bears (Shared.agreesAt _ _ _)

theorem takeAssertion_lasts (assertion : Assertion) :
    (scenario.takeAssertion assertion row).Respects (Shared property) :=
  takeAssertion_respects lasts.bears (Shared.agreesAt _ _ _)

theorem await_lasts (header : Header) :
    (scenario.await header row).Respects (Shared property) :=
  await_respects lasts.bears fun _ => Shared.agreesAt _ _ _

section

variable (listens : scenario.onRestart = [Scene.dropHandles])

include listens

theorem retrier_suits_lasting :
    scenario.retrier.Suits property fun _ => True where
  attempts number scene given := lasts.framed scene _ given rfl rfl
  reinitializations scene given := lasts.framed scene _ given rfl rfl
  sleeps span scene given := lasts.framed scene _ given rfl rfl
  reopens := by
    rintro _ ⟨⟩
    exact ensures_of_respects (reopen_respects lasts.bears listens)
  timesOut _ _ := trivial
  overflows := trivial

theorem takeStep_lasts {step : Activity (Scene W) StepOutcome}
    (respects : step.Respects (Shared property)) (test description : String)
    (record : Table Datum) (number : Option Nat) :
    (scenario.takeStep test description record number step).Ensures property
      ⟨fun _ => True, fun _ => True⟩ := by
  have suits := retrier_suits_lasting lasts listens
  refine ensures_bind (Retrier.run_ensures suits (ensures_of_respects respects) _ _) ?_
  intro given _
  have records : (scenario.record fun attempts =>
      eventOf test description record number attempts given).Respects (Shared property) :=
    respects_of_ignores lasts.bears (record_ignores _)
  exact ensures_bind (ensures_of_respects records) fun _ _ => ensures_pure trivial

theorem runFrom_lasts (script : Script) (number : Option Nat) (fuel : Nat) (state : RunState) :
    (scenario.runFrom script row number fuel state).Ensures property
      ⟨fun _ => True, fun _ => True⟩ := by
  induction fuel generalizing state with
  | zero => cases state <;> exact fun scene given => ⟨given, trivial⟩
  | succ fuel ih =>
    cases state with
    | succeeded => exact ensures_pure trivial
    | failed cause => exact ensures_pure trivial
    | running pointer =>
      rw [runFrom]
      split
      next => exact ensures_pure trivial
      next action found =>
        refine ensures_bind (takeStep_lasts lasts listens (takeAction_lasts lasts action) _ _ _ _)
          fun result _ => ?_
        cases result with
        | error failure => exact ensures_pure trivial
        | ok outcome =>
          exact ensures_bind (ensures_of_respects (respects_ofExcept _)) fun next _ => ih next

variable {script : Script} {number : Option Nat} {count : Nat} {began scene : Scene W}

theorem RunBegins.keeps {action : Action} {fuel pointer : Nat}
    (begins : scenario.RunBegins script row number action count began fuel pointer scene)
    (given : property scene) : property began := by
  have suits := retrier_suits_lasting lasts listens
  have takes := takeAction_lasts lasts
  induction begins with
  | here found begins => exact begins.ensured suits (ensures_of_respects (takes action)) given
  | @later _ _ _ _ _ taken _ found passed leads rest ih =>
    have steps := takeStep_lasts lasts listens (takes taken) script.test taken.describe
      taken.payload number
    exact ih (steps.of_run given passed).1

theorem CheckBegins.keeps {test : String} {assertion : Assertion} {assertions : List Assertion}
    (begins : scenario.CheckBegins test row number assertion count began assertions scene)
    (given : property scene) : property began := by
  have suits := retrier_suits_lasting lasts listens
  have takes := takeAssertion_lasts lasts
  induction begins with
  | here begins => exact begins.ensured suits (ensures_of_respects (takes assertion)) given
  | @later _ _ taken _ _ passed rest ih =>
    have steps := takeStep_lasts lasts listens (takes taken) test taken.describe
      taken.payload number
    exact ih (steps.of_run given passed).1

end

end Scenario

/-! ## Numbers -/

/-- What is kept was found before, under a lower number than the next one. -/
def Scene.Numbered {W : Type} (scene : Scene W) : Prop :=
  ∀ page element kept, scene.handles.get? page element = some kept →
    kept.serial < scene.resolutions

namespace Scenario

variable {W T : Type} {scenario : Scenario W T} {row : Option Row}

theorem numbered_lasts : scenario.Lasts row (Scene.Numbered (W := W)) where
  framed scene changed given handles resolutions := by
    intro page element kept held
    rw [resolutions]
    exact given page element kept (handles ▸ held)
  kept scene _ _ resolved given _ numbered := by
    intro page element kept held
    rcases HandleTable.get?_put_cases held with ⟨-, -, rfl⟩ | before
    · exact Nat.lt_succ_of_le (Nat.le_of_eq numbered)
    · exact Nat.lt_succ_of_lt (given page element kept before)
  reloaded _ scene given page element kept held :=
    given page element kept (HandleTable.get?_of_invalidate held)
  dropped _ _ := nofun

end Scenario

end Rehearsal
