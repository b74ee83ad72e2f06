import Rehearsal.Proofs.Scenario.Raising

/-!
The turns that the rows of a dataset take in a replay, one after the other, and what the replay
makes of them. A turn begins when the session was reset for its row, and it is the run of the
script from its first instruction on.
-/

set_option autoImplicit false

namespace Rehearsal

structure Turn (W : Type) where
  number : Nat
  row : Row
  before : Scene W
  ready : Scene W
  outcome : Outcome RunState
  after : Scene W

namespace Turn

variable {W : Type}

def Passed (turn : Turn W) : Prop := turn.outcome = .ok .succeeded

def Failed (turn : Turn W) (step : StepFailure) : Prop := turn.outcome = .ok (.failed step)

/-- The run came to an end of its own, and did not break off. -/
def HasVerdict (turn : Turn W) : Prop := turn.Passed ∨ ∃ step, turn.Failed step

def failure? (test : Test) (turn : Turn W) : Option ScriptFailure :=
  match turn.outcome with
  | .ok (.failed step) =>
    some { test := test.script.test, row := some turn.number, stage := .actions, step }
  | _ => none

def failures (test : Test) (turns : List (Turn W)) : List ScriptFailure :=
  turns.filterMap (failure? test)

/-- The turn leaves the next row its turn. -/
def GoesOn (policy : RowPolicy) (turn : Turn W) : Prop :=
  turn.Passed ∨ policy = .continue ∧ ∃ step, turn.Failed step

theorem GoesOn.hasVerdict {policy : RowPolicy} {turn : Turn W} (onward : turn.GoesOn policy) :
    turn.HasVerdict := by
  rcases onward with passed | ⟨-, failed⟩
  · exact .inl passed
  · exact .inr failed

theorem GoesOn.passed {turn : Turn W} (onward : turn.GoesOn .abort) : turn.Passed := by
  rcases onward with passed | ⟨continues, -⟩
  · exact passed
  · cases continues

def passes (turn : Turn W) : Bool :=
  match turn.outcome with
  | .ok .succeeded => true
  | _ => false

theorem passed_of_passes {turn : Turn W} (told : turn.passes = true) : turn.Passed := by
  unfold passes at told
  split at told
  · assumption
  · cases told

theorem Failed.failure {test : Test} {turn : Turn W} {step : StepFailure}
    (failed : turn.Failed step) :
    turn.failure? test =
      some { test := test.script.test, row := some turn.number, stage := .actions, step } := by
  simp [failure?, Failed] at failed ⊢
  simp [failed]

theorem exists_failed_of_failure? {test : Test} {turn : Turn W} {failure : ScriptFailure}
    (failed : turn.failure? test = some failure) :
    ∃ step, turn.Failed step ∧
      failure = { test := test.script.test, row := some turn.number, stage := .actions, step } := by
  unfold failure? at failed
  split at failed
  next step outcome =>
    cases failed
    exact ⟨step, outcome, rfl⟩
  next => cases failed

theorem Passed.failure {test : Test} {turn : Turn W} (passed : turn.Passed) :
    turn.failure? test = none := by
  simp [failure?, Passed] at passed ⊢
  simp [passed]

theorem Failed.not_passed {turn : Turn W} {step : StepFailure} (failed : turn.Failed step) :
    ¬ turn.Passed := by
  simp only [Failed] at failed
  simp [Passed, failed]

theorem failures_nil_of_passed {test : Test} {turns : List (Turn W)}
    (passed : ∀ turn ∈ turns, turn.Passed) : failures test turns = [] :=
  List.filterMap_eq_nil_iff.mpr fun turn member => (passed turn member).failure

end Turn

inductive Finish where
  | complete
  /-- A row failed, and no other row may have its turn then. -/
  | aborted (failure : ScriptFailure)
  /-- The run for a row broke off. -/
  | broken (failure : Failure)
  /-- The session could not be reset for a row. -/
  | unready (failure : Failure)
  | hung

def Finish.outcome (failures : List ScriptFailure) : Finish -> Outcome (List ScriptFailure)
  | .complete => .ok failures
  | .aborted failure => .failed failure.toFailure
  | .broken failure | .unready failure => .failed failure
  | .hung => .stalled

namespace Scenario

variable {W T : Type} [Scale T] (scenario : Scenario W T) (test : Test) (policy : RowPolicy)

theorem runFrom_settled (script : Script) (row : Option Row) (number : Option Nat)
    (fuel : Nat) (state : RunState) :
    (scenario.runFrom script row number fuel state).Yields fun reached =>
      reached = .succeeded ∨ ∃ cause, reached = .failed cause := by
  induction fuel generalizing state with
  | zero =>
    cases state with
    | running pointer =>
      intro scene reached final ran
      cases ran
    | succeeded => exact Activity.yields_pure (.inl rfl)
    | failed cause => exact Activity.yields_pure (.inr ⟨cause, rfl⟩)
  | succ fuel ih =>
    cases state with
    | succeeded => exact Activity.yields_pure (.inl rfl)
    | failed cause => exact Activity.yields_pure (.inr ⟨cause, rfl⟩)
    | running pointer =>
      rw [runFrom]
      split
      next => exact Activity.yields_pure (.inl rfl)
      next action _ =>
        refine Activity.yields_bind fun given => ?_
        cases given with
        | error cause => exact Activity.yields_pure (.inr ⟨cause, rfl⟩)
        | ok outcome => exact Activity.yields_bind fun next => ih next

theorem runScript_eq_runFrom (script : Script) (row : Option Row) (number : Option Nat) :
    scenario.runScript script row number =
      scenario.runFrom script row number scenario.fuel (.due 1 script.actions.length) := by
  unfold runScript
  cases script.actions with
  | nil => simp [RunState.due]
  | cons first rest => simp [RunState.due]

/-! ## Turns -/

structure HasTurn (turn : Turn W) : Prop where
  reset : scenario.resetFor test turn.before = (.ok (), turn.ready)
  -- The run starts with the first instruction.
  ran : scenario.runFrom test.script (some turn.row) (some turn.number) scenario.fuel
    (.due 1 test.script.actions.length) turn.ready = (turn.outcome, turn.after)

/-- The turns of rows, numbered on from some number, and how the replay of the rows finishes. -/
inductive Replays : Nat -> List Row -> Scene W -> List (Turn W) -> Finish -> Scene W -> Prop where
  | complete {number : Nat} {scene : Scene W} : Replays number [] scene [] .complete scene
  | onward {turn : Turn W} {rows : List Row} {turns : List (Turn W)} {finish : Finish}
      {final : Scene W} (taken : scenario.HasTurn test turn) (onward : turn.GoesOn policy)
      (rest : Replays (turn.number + 1) rows turn.after turns finish final) :
      Replays turn.number (turn.row :: rows) turn.before (turn :: turns) finish final
  | aborted {turn : Turn W} {rows : List Row} {failure : ScriptFailure}
      (taken : scenario.HasTurn test turn) (failed : turn.failure? test = some failure)
      (stops : policy = .abort) :
      Replays turn.number (turn.row :: rows) turn.before [turn] (.aborted failure) turn.after
  | broken {turn : Turn W} {rows : List Row} {failure : Failure}
      (taken : scenario.HasTurn test turn) (broke : turn.outcome = .failed failure) :
      Replays turn.number (turn.row :: rows) turn.before [turn] (.broken failure) turn.after
  | hung {turn : Turn W} {rows : List Row} (taken : scenario.HasTurn test turn)
      (hung : turn.outcome = .stalled) :
      Replays turn.number (turn.row :: rows) turn.before [turn] .hung turn.after
  | unready {number : Nat} {row : Row} {rows : List Row} {scene final : Scene W}
      {failure : Failure} (reset : scenario.resetFor test scene = (.failed failure, final)) :
      Replays number (row :: rows) scene [] (.unready failure) final
  | resetHung {number : Nat} {row : Row} {rows : List Row} {scene final : Scene W}
      (reset : scenario.resetFor test scene = (.stalled, final)) :
      Replays number (row :: rows) scene [] .hung final

variable {scenario test policy}

/-- The turn of a row whose session is not reset. -/
def turnFrom (scenario : Scenario W T) (test : Test) (number : Nat) (row : Row) (scene : Scene W) :
    Turn W :=
  let run := scenario.runFrom test.script (some row) (some number) scenario.fuel
    (.due 1 test.script.actions.length) scene
  { number, row, before := scene, ready := scene, outcome := run.1, after := run.2 }

theorem hasTurn_turnFrom (unreset : test.resetsSession = false) (number : Nat) (row : Row)
    (scene : Scene W) : scenario.HasTurn test (scenario.turnFrom test number row scene) :=
  ⟨by simp [turnFrom, resetFor, unreset], rfl⟩

theorem replays_cons_turnFrom (unreset : test.resetsSession = false) {number : Nat} {row : Row}
    {scene : Scene W} {rows : List Row} {turns : List (Turn W)} {finish : Finish}
    {final : Scene W} (passes : (scenario.turnFrom test number row scene).passes = true)
    (rest : scenario.Replays test policy (number + 1) rows
      (scenario.turnFrom test number row scene).after turns finish final) :
    scenario.Replays test policy number (row :: rows) scene
      (scenario.turnFrom test number row scene :: turns) finish final :=
  .onward (hasTurn_turnFrom unreset number row scene) (.inl (Turn.passed_of_passes passes)) rest

/-- The turn of a row whose session is reset. -/
def turnAnew (scenario : Scenario W T) (test : Test) (number : Nat) (row : Row) (scene : Scene W) :
    Turn W :=
  { scenario.turnFrom test number row (scenario.resetFor test scene).2 with before := scene }

theorem hasTurn_turnAnew {scene : Scene W} (number : Nat) (row : Row)
    (reset : (scenario.resetFor test scene).1 = .ok ()) :
    scenario.HasTurn test (scenario.turnAnew test number row scene) :=
  ⟨Activity.run_of_outcome reset, rfl⟩

/-- However a row's turn ends, it may be the only one of a replay. -/
theorem exists_sole_replay {turn : Turn W} (taken : scenario.HasTurn test turn)
    (policy : RowPolicy) :
    ∃ finish, scenario.Replays test policy turn.number [turn.row] turn.before [turn] finish
      turn.after := by
  cases ended : turn.outcome with
  | failed failure => exact ⟨_, .broken taken ended⟩
  | stalled => exact ⟨_, .hung taken ended⟩
  | ok state =>
    have settled := scenario.runFrom_settled _ _ _ _ _ _ _ _ (ended ▸ taken.ran)
    rcases settled with rfl | ⟨cause, rfl⟩
    · exact ⟨_, .onward taken (.inl ended) .complete⟩
    · have failed : turn.Failed cause := ended
      cases policy with
      | abort => exact ⟨_, .aborted taken failed.failure rfl⟩
      | «continue» => exact ⟨_, .onward taken (.inr ⟨rfl, cause, failed⟩) .complete⟩

theorem exists_replay_turnAnew {number : Nat} {row next : Row} {scene : Scene W}
    {first second : Turn W} (one : first = scenario.turnAnew test number row scene)
    (two : second = scenario.turnAnew test (number + 1) next first.after)
    (reset : (scenario.resetFor test scene).1 = .ok ())
    (resetToo : (scenario.resetFor test first.after).1 = .ok ()) (passes : first.passes = true)
    (policy : RowPolicy) :
    ∃ finish final,
      scenario.Replays test policy number [row, next] scene [first, second] finish final := by
  obtain ⟨finish, rest⟩ :=
    exists_sole_replay (hasTurn_turnAnew (number + 1) next resetToo) policy
  subst two one
  exact ⟨finish, _, .onward (hasTurn_turnAnew number row reset)
    (.inl (Turn.passed_of_passes passes)) rest⟩

theorem runRow_run (script : Script) (row : Option Row) (number : Option Nat) (scene : Scene W) :
    scenario.runRow script row number scene =
      match scenario.runFrom script row number scenario.fuel (.due 1 script.actions.length) scene
      with
      | (.ok (.failed step), final) =>
        (.ok (.error { test := script.test, row := number, stage := .actions, step }), final)
      | (.ok _, final) => (.ok (.ok ()), final)
      | (.failed failure, final) => (.failed failure, final)
      | (.stalled, final) => (.stalled, final) := by
  rw [runRow, runScript_eq_runFrom, Activity.bind_run]
  rcases scenario.runFrom script row number scenario.fuel (.due 1 script.actions.length) scene
    with ⟨state | failure | _, final⟩
  · cases state <;> rfl
  · rfl
  · rfl

theorem replayRows_of_turn {turn : Turn W} (taken : scenario.HasTurn test turn)
    (failures : List ScriptFailure) (rest : List Row) :
    scenario.replayRows test policy turn.number failures (turn.row :: rest) turn.before =
      match turn.outcome with
      | .ok (.failed step) =>
        let failure : ScriptFailure :=
          { test := test.script.test, row := some turn.number, stage := .actions, step }
        if policy = .continue then
          scenario.replayRows test policy (turn.number + 1) (failures ++ [failure]) rest turn.after
        else (.failed failure.toFailure, turn.after)
      | .ok _ => scenario.replayRows test policy (turn.number + 1) failures rest turn.after
      | .failed failure => (.failed failure, turn.after)
      | .stalled => (.stalled, turn.after) := by
  rw [replayRows, Activity.bind_run, taken.reset]
  dsimp only
  rw [Activity.bind_run, runRow_run, taken.ran]
  rcases turn.outcome with state | failure | _
  · cases state with
    | failed step => cases policy <;> rfl
    | running pointer => rfl
    | succeeded => rfl
  · rfl
  · rfl

theorem Replays.ran {number : Nat} {rows : List Row} {scene final : Scene W}
    {turns : List (Turn W)} {finish : Finish}
    (replays : scenario.Replays test policy number rows scene turns finish final)
    (failures : List ScriptFailure) :
    scenario.replayRows test policy number failures rows scene =
      (finish.outcome (failures ++ Turn.failures test turns), final) := by
  -- The failures are generalized: each turn that failed and goes on hands the next one more.
  induction replays generalizing failures with
  | complete => simp [replayRows, Finish.outcome, Turn.failures]
  | @onward turn rows turns finish final taken onward rest ih =>
    rw [replayRows_of_turn taken]
    rcases onward with passed | ⟨rfl, step, failed⟩
    · have outcome : turn.outcome = .ok .succeeded := passed
      simp [outcome, ih, Turn.failures, passed.failure]
    · have outcome : turn.outcome = .ok (.failed step) := failed
      simp [outcome, ih, Turn.failures, failed.failure]
  | @aborted turn rows failure taken kept stops =>
    obtain ⟨step, failed, rfl⟩ := Turn.exists_failed_of_failure? kept
    have outcome : turn.outcome = .ok (.failed step) := failed
    rw [replayRows_of_turn taken]
    simp [outcome, stops, Finish.outcome]
  | broken taken broke =>
    rw [replayRows_of_turn taken]
    simp [broke, Finish.outcome]
  | hung taken hung =>
    rw [replayRows_of_turn taken]
    simp [hung, Finish.outcome]
  | unready reset => simp only [replayRows, Activity.bind_run, reset, Finish.outcome]
  | resetHung reset => simp only [replayRows, Activity.bind_run, reset, Finish.outcome]

theorem exists_replay (scenario : Scenario W T) (test : Test) (policy : RowPolicy) (number : Nat)
    (rows : List Row) (scene : Scene W) :
    ∃ turns finish final, scenario.Replays test policy number rows scene turns finish final := by
  induction rows generalizing number scene with
  | nil => exact ⟨[], .complete, scene, .complete⟩
  | cons row rest ih =>
    rcases reset : scenario.resetFor test scene with ⟨_ | failure | _, ready⟩
    · rcases ran : scenario.runFrom test.script (some row) (some number) scenario.fuel
        (.due 1 test.script.actions.length) ready with ⟨outcome, after⟩
      let turn : Turn W := ⟨number, row, scene, ready, outcome, after⟩
      have taken : scenario.HasTurn test turn := ⟨reset, ran⟩
      obtain ⟨turns, finish, final, replays⟩ := ih (number + 1) after
      -- A run that breaks off or hangs ends the replay under either policy, a failed row under one.
      rcases outcome with state | failure | _
      · rcases scenario.runFrom_settled _ _ _ _ _ _ _ _ ran with rfl | ⟨step, rfl⟩
        · exact ⟨turn :: turns, finish, final, .onward taken (.inl rfl) replays⟩
        · cases policy with
          | abort => exact ⟨[turn], .aborted _, after, .aborted taken rfl rfl⟩
          | «continue» =>
            exact ⟨turn :: turns, finish, final, .onward taken (.inr ⟨rfl, step, rfl⟩) replays⟩
      · exact ⟨[turn], .broken failure, after, .broken taken rfl⟩
      · exact ⟨[turn], .hung, after, .hung taken rfl⟩
    · exact ⟨[], .unready failure, ready, .unready reset⟩
    · exact ⟨[], .hung, ready, .resetHung reset⟩

/-! ## What a replay consists of -/

section

variable {number : Nat} {rows : List Row} {scene final : Scene W} {turns : List (Turn W)}
  {finish : Finish} (replays : scenario.Replays test policy number rows scene turns finish final)

include replays

theorem Replays.numbered : turns.map (·.number) = List.range' number turns.length := by
  induction replays with
  | onward _ _ _ ih => simp [ih, List.range'_succ]
  | _ => simp [List.range'_succ]

theorem Replays.owned : turns.map (·.row) = rows.take turns.length := by
  induction replays with
  | onward _ _ _ ih => simp [ih]
  | _ => simp

theorem Replays.taken : ∀ turn ∈ turns, scenario.HasTurn test turn := by
  induction replays with
  | onward taken _ _ ih => exact List.forall_mem_cons.mpr ⟨taken, ih⟩
  | aborted taken => simpa using taken
  | broken taken => simpa using taken
  | hung taken => simpa using taken
  | _ => simp

theorem Replays.first : ∀ turn ∈ turns.head?, turn.before = scene := by
  cases replays <;> simp

theorem Replays.chained : turns.IsChain fun turn next => next.before = turn.after := by
  induction replays with
  | onward _ _ rest ih =>
    refine List.isChain_cons.mpr ⟨?_, ih⟩
    intro next member
    exact rest.first next member
  | complete => exact .nil
  | unready => exact .nil
  | resetHung => exact .nil
  | _ => exact .singleton _

end

def sceneAfter (scene : Scene W) (turns : List (Turn W)) : Scene W :=
  (turns.getLast?.map (·.after)).getD scene

/-- The session could not be reset for the row after the turns. -/
structure Unready (scenario : Scenario W T) (test : Test) (policy : RowPolicy) (rows : List Row)
    (scene : Scene W) (turns : List (Turn W)) (ending : Outcome Unit) (final : Scene W) : Prop where
  left : turns.length < rows.length
  onward : ∀ turn ∈ turns, turn.GoesOn policy
  reset : scenario.resetFor test (sceneAfter scene turns) = (ending, final)

/-- What the turns of a replay have to do with how it finishes. -/
inductive Finishes (scenario : Scenario W T) (test : Test) (policy : RowPolicy) (rows : List Row)
    (scene : Scene W) (turns : List (Turn W)) : Finish -> Scene W -> Prop where
  | complete (all : turns.length = rows.length) (onward : ∀ turn ∈ turns, turn.GoesOn policy) :
      Finishes scenario test policy rows scene turns .complete (sceneAfter scene turns)
  | aborted {last : Turn W} {failure : ScriptFailure} (reached : turns.getLast? = some last)
      (failed : last.failure? test = some failure) (stops : policy = .abort) :
      Finishes scenario test policy rows scene turns (.aborted failure) last.after
  | broken {last : Turn W} {failure : Failure} (reached : turns.getLast? = some last)
      (broke : last.outcome = .failed failure) :
      Finishes scenario test policy rows scene turns (.broken failure) last.after
  | hung {last : Turn W} (reached : turns.getLast? = some last) (hung : last.outcome = .stalled) :
      Finishes scenario test policy rows scene turns .hung last.after
  | unready {failure : Failure} {final : Scene W}
      (unready : scenario.Unready test policy rows scene turns (.failed failure) final) :
      Finishes scenario test policy rows scene turns (.unready failure) final
  | resetHung {final : Scene W}
      (unready : scenario.Unready test policy rows scene turns .stalled final) :
      Finishes scenario test policy rows scene turns .hung final

theorem sceneAfter_cons (scene : Scene W) (turn : Turn W) (turns : List (Turn W)) :
    sceneAfter scene (turn :: turns) = sceneAfter turn.after turns := by
  rw [sceneAfter, sceneAfter, List.getLast?_cons]
  cases turns.getLast? <;> rfl

theorem getLast?_cons_of_some {turn last : Turn W} {turns : List (Turn W)}
    (reached : turns.getLast? = some last) : (turn :: turns).getLast? = some last := by
  cases turns with
  | nil => cases reached
  | cons second others => rwa [List.getLast?_cons_cons]

theorem Unready.cons {rows : List Row} {turn : Turn W} {turns : List (Turn W)}
    {ending : Outcome Unit} {final : Scene W} (row : Row) (scene : Scene W)
    (onward : turn.GoesOn policy)
    (unready : scenario.Unready test policy rows turn.after turns ending final) :
    scenario.Unready test policy (row :: rows) scene (turn :: turns) ending final where
  left := by simpa using unready.left
  onward := List.forall_mem_cons.mpr ⟨onward, unready.onward⟩
  reset := by rw [sceneAfter_cons, unready.reset]

theorem Replays.onward_dropLast {number : Nat} {rows : List Row} {scene final : Scene W}
    {turns : List (Turn W)} {finish : Finish}
    (replays : scenario.Replays test policy number rows scene turns finish final) :
    ∀ turn ∈ turns.dropLast, turn.GoesOn policy := by
  induction replays with
  | @onward turn rows turns finish final taken onward rest ih =>
    cases turns with
    | nil => simp
    | cons second others =>
      rw [List.dropLast_cons_cons]
      exact List.forall_mem_cons.mpr ⟨onward, ih⟩
  | _ => simp

theorem Replays.finishes {number : Nat} {rows : List Row} {scene final : Scene W}
    {turns : List (Turn W)} {finish : Finish}
    (replays : scenario.Replays test policy number rows scene turns finish final) :
    scenario.Finishes test policy rows scene turns finish final := by
  induction replays with
  | complete => exact .complete rfl (by simp)
  | aborted _ failed stops => exact .aborted rfl failed stops
  | broken _ broke => exact .broken rfl broke
  | hung _ hung => exact .hung rfl hung
  | unready reset => exact .unready ⟨by simp, by simp, reset⟩
  | resetHung reset => exact .resetHung ⟨by simp, by simp, reset⟩
  | @onward turn rows turns finish final taken onward rest ih =>
    -- The last of the turns stays the last with another before it.
    cases ih with
    | complete all others =>
      rw [← sceneAfter_cons turn.before]
      exact .complete (by simp [all]) (List.forall_mem_cons.mpr ⟨onward, others⟩)
    | aborted reached failed stops => exact .aborted (getLast?_cons_of_some reached) failed stops
    | broken reached broke => exact .broken (getLast?_cons_of_some reached) broke
    | hung reached hung => exact .hung (getLast?_cons_of_some reached) hung
    | unready unready => exact .unready (unready.cons _ _ onward)
    | resetHung unready => exact .resetHung (unready.cons _ _ onward)

end Scenario

end Rehearsal
