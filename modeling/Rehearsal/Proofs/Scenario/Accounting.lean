import Rehearsal.Proofs.Scenario.Confirming
import Rehearsal.Proofs.Scenario.Journey

/-!
The journeys that navigation, replays and assertions make. Each is made of attempts, one step after
the other, and of the restarts for rows; so all that is known of moves is known of them.
-/

set_option autoImplicit false

namespace Rehearsal

open Activity

def Test.resetsPerRow (test : Test) : Nat := if test.resetsSession then 1 else 0

def Outcome.passes {A : Type} : Outcome A -> Bool
  | .ok _ => true
  | _ => false

theorem Outcome.of_passes {A : Type} {outcome : Outcome A} (told : outcome.passes = true) :
    ∃ value, outcome = .ok value := by
  cases outcome with
  | ok value => exact ⟨value, rfl⟩
  | failed failure => cases told
  | stalled => cases told

/-- How often a replay of the test restarts the session for its rows, if it takes them all. -/
def Test.mostResets (test : Test) : Nat := (test.rows.getD []).length * test.resetsPerRow

namespace Scenario

variable {W T A B : Type} [Scale T] (scenario : Scenario W T)

/-- From where it is idle, an activity is a journey with so many restarts for rows at most, and
with that many if it passes. -/
def Journeys (most : Nat) (activity : Activity (Scene W) A) : Prop :=
  ∀ scene, ∃ resets, resets ≤ most ∧ (∀ value, (activity scene).1 = .ok value → resets = most) ∧
    scenario.Moves .idle scene resets (.after (activity scene).1) (activity scene).2

variable {scenario}

theorem Journeys.of_moves {activity : Activity (Scene W) A}
    (moves : ∀ scene, scenario.Moves .idle scene 0 (.after (activity scene).1) (activity scene).2) :
    scenario.Journeys 0 activity :=
  fun scene => ⟨0, Nat.le_refl 0, fun _ _ => rfl, moves scene⟩

theorem journeys_pure (value : A) : scenario.Journeys 0 (pure value : Activity (Scene W) A) :=
  .of_moves fun _ => .none

theorem journeys_throw (most : Nat) (failure : Failure) :
    scenario.Journeys most (throw failure : Activity (Scene W) A) :=
  fun _ => ⟨0, Nat.zero_le _, by simp, .none⟩

theorem journeys_bind {first : Activity (Scene W) A} {next : A -> Activity (Scene W) B}
    {here later : Nat} (before : scenario.Journeys here first)
    (each : ∀ value, scenario.Journeys later (next value)) :
    scenario.Journeys (here + later) (first >>= next) := by
  intro scene
  obtain ⟨resets, within, all, moves⟩ := before scene
  rw [bind_run]
  rcases ran : first scene with ⟨value | failure | _, between⟩ <;> rw [ran] at all moves
  · -- The first has passed, so it has made all of its restarts.
    obtain ⟨more, withinNext, allNext, movesOn⟩ := each value between
    have first := all value rfl
    exact ⟨resets + more, by omega, fun given passed => by rw [first, allNext given passed],
      moves.trans movesOn⟩
  · exact ⟨resets, by omega, by simp, moves⟩
  · exact ⟨resets, by omega, by simp, moves⟩

theorem journeys_then {first : Activity (Scene W) A} {next : A -> Activity (Scene W) B}
    {most : Nat} (before : scenario.Journeys most first)
    (each : ∀ value, scenario.Journeys 0 (next value)) : scenario.Journeys most (first >>= next) :=
  journeys_bind before each

theorem journeys_ofExcept (result : Except Failure A) :
    scenario.Journeys 0 (Activity.ofExcept result : Activity (Scene W) A) := by
  cases result with
  | ok value => exact journeys_pure value
  | error failure => exact journeys_throw 0 failure

theorem journeys_after_ok {value : A} {next : A -> Activity (Scene W) B} {most : Nat}
    (journeys : scenario.Journeys most (next value)) :
    scenario.Journeys most (Activity.ofExcept (.ok value) >>= next) := journeys

/-! ## Steps -/

theorem Repeats.moves {task : Task} {deadline : T} {count : Nat} {start final : Scene W}
    {rounds : List (Round (Scene W) StepOutcome)}
    (repeats : scenario.retrier.Repeats (scenario.attemptOf task) deadline count start rounds final) :
    scenario.Moves (.trying task count deadline) start 0
      (.trying task (count + rounds.length) deadline) final := by
  induction repeats with
  | none => exact .none
  | @again count _ _ _ _ rounds tried retried timely rest ih =>
    have numbered : count + (rounds.length + 1) = count + 1 + rounds.length := by omega
    simpa [numbered] using Moves.more (.retried tried retried timely) ih

theorem retry_journeys (description : String) (task : Task) :
    scenario.Journeys 0 (scenario.retry description (scenario.attemptOf task)) := by
  refine .of_moves fun scene => ?_
  rw [retry]
  cases held : scenario.retrier.policy.budget? with
  | none =>
    rw [Retrier.run_of_no_budget held]
    exact .none
  | some budget =>
    have begun : scenario.Move .idle scene 0
        (.trying task 0 (Scale.add (scenario.clock.now scene) budget)) scene := .begun held
    -- A run of the retrier has a history, and the rounds of that are moves.
    rcases Retrier.run_of_history (scenario.attemptOf task) held scenario.fuel description scene
      with ⟨earlier, last, final, ends, ran⟩ | ⟨earlier, final, breaks, ran⟩
    · rw [ran]
      have ended := Move.ended ends.tries ends.overdue
      exact begun.moves.trans ((Repeats.moves ends.repeats).trans ended.moves)
    · rw [ran]
      cases breaks with
      | spent repeats =>
        exact begun.moves.trans ((Repeats.moves repeats).trans Move.spent.moves)
      | hung repeats _ hung =>
        exact begun.moves.trans ((Repeats.moves repeats).trans (Move.hung hung).moves)

theorem takeStep_journeys (test description : String) (record : Table Datum) (number : Option Nat)
    (task : Task) :
    scenario.Journeys 0
      (scenario.takeStep test description record number (scenario.attemptOf task)) := by
  refine journeys_then (retry_journeys description task) fun result => ?_
  refine journeys_then (.of_moves fun scene => ?_) fun _ => journeys_pure result
  rcases ran : scenario.record (fun attempts =>
    eventOf test description record number attempts result) scene with ⟨outcome, after⟩
  exact (Move.noted ran).moves

/-! ## Scripts -/

theorem runFrom_journeys (script : Script) (row : Option Row) (number : Option Nat) (fuel : Nat)
    (state : RunState) :
    scenario.Journeys 0 (scenario.runFrom script row number fuel state) := by
  induction fuel generalizing state with
  | zero =>
    cases state with
    | running pointer => exact .of_moves fun _ => Move.spent.moves
    | succeeded => exact journeys_pure _
    | failed cause => exact journeys_pure _
  | succ fuel ih =>
    cases state with
    | succeeded => exact journeys_pure _
    | failed cause => exact journeys_pure _
    | running pointer =>
      rw [runFrom]
      split
      next => exact journeys_pure _
      next action _ =>
        refine journeys_then (takeStep_journeys _ _ _ _ (.act action row)) fun given => ?_
        cases given with
        | error cause => exact journeys_pure _
        | ok outcome => exact journeys_then (journeys_ofExcept _) fun state => ih state

theorem checkAll_journeys (test : String) (row : Option Row) (number : Option Nat)
    (assertions : List Assertion) :
    scenario.Journeys 0 (scenario.checkAll test row number assertions) := by
  induction assertions with
  | nil => exact journeys_pure _
  | cons assertion rest ih =>
    refine journeys_then (takeStep_journeys _ _ _ _ (.judge assertion row)) fun given => ?_
    cases given with
    | error cause => exact journeys_throw 0 _
    | ok outcome => exact journeys_then ih fun _ => journeys_pure _

/-! ## Rows -/

theorem runRow_journeys (script : Script) (row : Option Row) (number : Option Nat) :
    scenario.Journeys 0 (scenario.runRow script row number) := by
  refine journeys_then (runFrom_journeys _ _ _ _ _) fun state => ?_
  cases state <;> exact journeys_pure _

theorem openPage_journeys (page : String) : scenario.Journeys 0 (scenario.openPage page) := by
  refine .of_moves fun scene => ?_
  rcases ran : scenario.openPage page scene with ⟨outcome, after⟩
  exact (Move.opened ran).moves

theorem restartSession_journeys : scenario.Journeys 1 scenario.restartSession := by
  intro scene
  rcases ran : scenario.restartSession scene with ⟨outcome, after⟩
  exact ⟨1, Nat.le_refl 1, fun _ _ => rfl, (Move.reset ran).moves⟩

theorem resetFor_journeys (test : Test) :
    scenario.Journeys test.resetsPerRow (scenario.resetFor test) := by
  unfold resetFor Test.resetsPerRow
  split
  · refine journeys_then restartSession_journeys fun _ => ?_
    split
    next page _ =>
      split
      · exact journeys_then (openPage_journeys page) fun _ => journeys_pure _
      · exact journeys_pure _
    next => exact journeys_pure _
  · exact journeys_pure _

theorem replayRows_journeys (test : Test) (policy : RowPolicy) (number : Nat)
    (failures : List ScriptFailure) (rows : List Row) :
    scenario.Journeys (rows.length * test.resetsPerRow)
      (scenario.replayRows test policy number failures rows) := by
  induction rows generalizing number failures with
  | nil => simpa [replayRows] using journeys_pure failures
  | cons row rest ih =>
    have total : (rest.length + 1) * test.resetsPerRow =
        test.resetsPerRow + (0 + rest.length * test.resetsPerRow) := by
      rw [Nat.succ_mul]
      omega
    rw [List.length_cons, total]
    refine journeys_bind (resetFor_journeys test) fun _ => ?_
    refine journeys_bind (runRow_journeys _ _ _) fun result => ?_
    cases result with
    | ok _ => exact ih _ _
    | error failure =>
      dsimp only
      split
      · exact ih _ _
      · exact journeys_throw _ _

theorem assertRows_journeys (script : Script) (number : Nat) (rows : List Row) :
    scenario.Journeys 0 (scenario.assertRows script number rows) := by
  induction rows generalizing number with
  | nil => exact journeys_pure _
  | cons row rest ih =>
    refine journeys_then (checkAll_journeys _ _ _ _) fun outcomes => ?_
    exact journeys_then (ih _) fun _ => journeys_pure _

/-! ## Calls -/

theorem navigateTo_journeys (page : String) : scenario.Journeys 0 (scenario.navigateTo page) := by
  refine journeys_then (retry_journeys _ (.visit page)) fun result => ?_
  cases result with
  | ok _ => exact journeys_pure _
  | error failure => exact journeys_throw 0 _

variable (scenario) in
/-- The same of a replay by name, which restarts nothing for a test that there is not. -/
def mostResets (name : String) : Nat :=
  match scenario.catalog.test name with
  | .ok test => test.mostResets
  | .error _ => 0

theorem executeTest_journeys_of_found {name : String} {test : Test}
    (found : scenario.catalog.test name = .ok test) (asked : Option RowPolicy) :
    scenario.Journeys test.mostResets (scenario.executeTest name asked) := by
  unfold executeTest Test.mostResets
  rw [found]
  refine journeys_after_ok ?_
  dsimp only
  cases test.rows with
  | none =>
    have unreset : (none.getD ([] : List Row)).length * test.resetsPerRow = 0 + 0 := by simp
    rw [unreset]
    refine journeys_bind (runRow_journeys _ _ _) fun result => ?_
    cases result with
    | ok _ => exact journeys_pure _
    | error failure => exact journeys_throw 0 _
  | some rows =>
    refine journeys_then (replayRows_journeys test _ 1 [] rows) fun failures => ?_
    split
    · exact journeys_throw 0 _
    · exact journeys_pure _

theorem executeTest_journeys (name : String) (asked : Option RowPolicy) :
    scenario.Journeys (scenario.mostResets name) (scenario.executeTest name asked) := by
  unfold mostResets
  split
  next test found => exact executeTest_journeys_of_found found asked
  next failure unknown =>
    unfold executeTest
    rw [unknown]
    exact journeys_throw 0 failure

theorem assertTest_journeys (name : String) (perRow : Bool) :
    scenario.Journeys 0 (scenario.assertTest name perRow) := by
  refine journeys_then (journeys_ofExcept _) fun test => ?_
  split
  next => exact checkAll_journeys _ _ _ _
  next => exact assertRows_journeys _ _ _

/-! ## Wherever the scenario is -/

/-- A call makes a journey with so many restarts for rows at most, and with that many if it passes.
After it every restart since the beginning is accounted for. -/
def Completes (scenario : Scenario W T) (resets most : Nat) (scene : Scene W)
    (call : Activity (Scene W) A) : Prop :=
  ∃ more, more ≤ most ∧ (∀ value, (call scene).1 = .ok value → more = most) ∧
    scenario.Moves .idle scene more (.after (call scene).1) (call scene).2 ∧
    (call scene).2.session.restarts = (call scene).2.counts.reinitializations + (resets + more)

/-- Wherever a scenario is, an attempt that loses the session is followed by its recovery and by
nothing but another attempt at the same task; every restart goes with one or with a row, and the
scenario changes its page only by arriving at another. -/
theorem recovers_wherever_reached (listens : scenario.onRestart = [Scene.dropHandles])
    (attempts : 0 < scenario.settings.launchAttempts) {log : W -> List (Called T)}
    (logs : scenario.world.IsLog log) :
    (∀ resets phase scene, scenario.Reached resets phase scene →
      scene.session.restarts = scene.counts.reinitializations + resets) ∧
    (∀ resets task made deadline scene trial after,
      scenario.Reached resets (.trying task made deadline) scene →
      scenario.retrier.Tries (scenario.attemptOf task) (made + 1) scene trial after →
        scenario.Attempted log task (made + 1) scene trial after ∧
        after.session.restarts = after.counts.reinitializations + resets) ∧
    (∀ resets phase scene more next after, scenario.Reached resets phase scene →
      scenario.Move phase scene more next after →
        (after.currentPage = scene.currentPage ∨ ∃ page, scenario.Arrives page scene after) ∧
        ∀ task made deadline other number limit, phase = .trying task made deadline →
          next = .trying other number limit → other = task ∧ number = made + 1) ∧
    (∀ page, scenario.GoesTo page (scenario.openPage page)) ∧
    ∀ resets scene, scenario.Reached resets .idle scene →
      (∀ page, scenario.Completes resets 0 scene (scenario.navigateTo page)) ∧
      (∀ name asked, scenario.Completes resets (scenario.mostResets name) scene
        (scenario.executeTest name asked)) ∧
      ∀ name perRow, scenario.Completes resets 0 scene (scenario.assertTest name perRow) := by
  have sound := fun {resets : Nat} {phase : Phase T} {scene : Scene W}
    (reached : scenario.Reached resets phase scene) => reached.sound listens attempts logs
  refine ⟨fun _ _ _ reached => (sound reached).accounted, ?_, ?_,
    fun page => scenario.openPage_goesTo page, ?_⟩
  · intro resets task made deadline scene trial after reached tried
    have attempted := Attempted.of_tries listens attempts logs (sound reached).placed tried
    exact ⟨attempted, (attempted.balances.sound (sound reached)).accounted⟩
  · intro resets phase scene more next after reached move
    refine ⟨(move.balances listens attempts logs (sound reached).placed).moved, ?_⟩
    rintro task made deadline other number limit rfl rfl
    cases move with
    | retried => exact ⟨rfl, rfl⟩
  · intro resets scene reached
    have completes : ∀ {A : Type} {most : Nat} {call : Activity (Scene W) A},
        scenario.Journeys most call → scenario.Completes resets most scene call := by
      intro A most call journeys
      obtain ⟨more, within, all, moves⟩ := journeys scene
      exact ⟨more, within, all, moves, (sound (reached.moved moves)).accounted⟩
    exact ⟨fun page => completes (navigateTo_journeys page),
      fun name asked => completes (executeTest_journeys name asked),
      fun name perRow => completes (assertTest_journeys name perRow)⟩

/-! ## A page that is lost -/

/-- The same, with a browser whose pages are always at one address. -/
def staying (scenario : Scenario W T) (address : String) : Scenario W T :=
  { scenario with world := { scenario.world with url := fun _ _ => address } }

def visibleAssertion : Assertion :=
  { header :=
      { index := 1, page := some "login", element := some "user", wait := none, timeout := none }
    aspect := .visible, expected := some "true", operator := .equals }

/-- The session is restarted for a row and brought to the page; there the page closes under the
first look at the element, and the scenario is back on it. -/
theorem recovers_closed_page :
    let scenario := (onePage World.willing).staying "http://shop.test/login"
    let task := Task.judge visibleAssertion none
    ∃ deadline scene failure after,
      scenario.Reached 1 (.trying task 0 deadline) scene ∧
      scenario.retrier.Tries (scenario.attemptOf task) 1 scene (.lost failure none) after ∧
      after.session.restarts = 2 ∧ after.counts.reinitializations = 1 ∧
      after.currentPage = some "login" ∧ scenario.Shows "login" after := by
  intro scenario task
  have logs : scenario.world.IsLog Prod.snd := ⟨fun _ _ => rfl, fun _ _ => rfl⟩
  have listens : scenario.onRestart = [Scene.dropHandles] := rfl
  have attempts : 0 < scenario.settings.launchAttempts := by decide
  obtain ⟨-, laws, -⟩ := recovers_wherever_reached listens attempts logs
  obtain ⟨budget, held⟩ : ∃ budget, scenario.retrier.policy.budget? = some budget := ⟨_, rfl⟩
  let opening : Scene (Unit × List (Called Rat)) := Scene.opening ((), []) (Files.empty "/")
  let fresh := (scenario.restartSession opening).2
  let scene := (scenario.openPage "login" fresh).2
  let closed := (scenario.attemptOf task (noteAttempts 1 scene)).2
  have ranReset : (scenario.restartSession opening).1.passes = true := by decide +kernel
  have ranOpen : (scenario.openPage "login" fresh).1.passes = true := by decide +kernel
  have ranStep : (scenario.attemptOf task (noteAttempts 1 scene)).1.fails
      (·.classify == .sessionLost) = true := by
    decide +kernel
  have ranReopen : (scenario.reopen (noteReinitialization closed)).1.passes = true := by
    decide +kernel
  have place : scene.currentPage = some "login" := by decide +kernel
  have counted : scene.counts.reinitializations = 0 := by decide +kernel
  obtain ⟨_, reset⟩ := Outcome.of_passes ranReset
  obtain ⟨outcome, opened⟩ := Outcome.of_passes ranOpen
  obtain ⟨failure, failed, kind⟩ := Outcome.of_fails ranStep
  obtain ⟨_, reopened⟩ := Outcome.of_passes ranReopen
  have tried := tries_of_reopened (run_of_outcome failed) (eq_of_beq kind)
    (run_of_outcome reopened)
  have start : scenario.Reached 0 .idle opening := .opening _ _
  have ready : scenario.Reached 1 .idle fresh :=
    start.moved (Move.reset (run_of_outcome reset)).moves
  have shown : scenario.Reached 1 .idle scene :=
    ready.moved (Move.opened (run_of_outcome opened)).moves
  have reached : scenario.Reached 1 (.trying task 0 (Scale.add (scenario.clock.now scene) budget))
      scene := shown.moved (Move.begun held).moves
  obtain ⟨attempted, accounted⟩ := laws _ _ _ _ _ _ _ reached tried
  have reinitialized := attempted.reinitialized
  rw [counted] at reinitialized
  obtain ⟨between, ran, stayed, recovers⟩ := attempted.recovered _ _ rfl
  have here : between.currentPage = some "login" := stayed.trans place
  obtain ⟨-, -, shows⟩ := recovers.renewed rfl
  exact ⟨_, scene, failure, _, reached, tried, by rw [accounted, reinitialized]; rfl, reinitialized,
    recovers.stayed.trans here, shows "login" here⟩

end Scenario

end Rehearsal
