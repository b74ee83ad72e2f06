import Rehearsal.Proofs.Scenario.RowTurns

/-!
What a test with a dataset ends in. Its rows have their turns in order; a failed row stops the
rest under one policy and is collected under the other. Only a reset or a run that breaks off can
keep a row from its turn besides. The session is reset outside of what a row's failure is collected
from, so a reset that fails ends the test with its own failure under either policy.
-/

set_option autoImplicit false

namespace Rehearsal

namespace Turn

variable {W : Type}

def hasFailed (turn : Turn W) : Bool :=
  match turn.outcome with
  | .ok (.failed _) => true
  | _ => false

def failedRows (turns : List (Turn W)) : List Nat := (turns.filter hasFailed).map (·.number)

theorem rows_failures (name : String) (test : Test) (turns : List (Turn W)) :
    DatasetFailure.rows { test := name, failures := failures test turns } =
      failedRows turns := by
  induction turns with
  | nil => rfl
  | cons turn rest ih =>
    simp only [DatasetFailure.rows, failures, failedRows] at ih ⊢
    rcases outcome : turn.outcome with state | failure | _
    · cases state <;> simp [failure?, hasFailed, outcome, ih]
    · simp [failure?, hasFailed, outcome, ih]
    · simp [failure?, hasFailed, outcome, ih]

theorem failedRows_ascending {turns : List (Turn W)} {number : Nat}
    (numbered : turns.map (·.number) = List.range' number turns.length) :
    (failedRows turns).Pairwise (· < ·) := by
  have ascending : (turns.map (·.number)).Pairwise (· < ·) := by
    rw [numbered]
    exact List.pairwise_lt_range'
  exact ascending.sublist (List.filter_sublist.map _)

theorem failures_nil_iff (test : Test) {turns : List (Turn W)}
    (verdicts : ∀ turn ∈ turns, turn.HasVerdict) :
    failures test turns = [] ↔ ∀ turn ∈ turns, turn.Passed := by
  constructor
  · intro none turn member
    rcases verdicts turn member with passed | ⟨step, failed⟩
    · exact passed
    · have kept := List.filterMap_eq_nil_iff.mp none turn member
      rw [failed.failure] at kept
      cases kept
  · exact failures_nil_of_passed

theorem failures_some_iff (test : Test) {turns : List (Turn W)}
    (verdicts : ∀ turn ∈ turns, turn.HasVerdict) :
    failures test turns ≠ [] ↔ ∃ turn ∈ turns, ∃ step, turn.Failed step := by
  rw [ne_eq, failures_nil_iff test verdicts, not_forall]
  constructor
  · rintro ⟨turn, unpassed⟩
    obtain ⟨member, unpassed⟩ := Classical.not_imp.mp unpassed
    exact ⟨turn, member, (verdicts turn member).resolve_left unpassed⟩
  · rintro ⟨turn, member, step, failed⟩
    exact ⟨turn, fun passed => failed.not_passed (passed member)⟩

theorem HasVerdict.ran {turn : Turn W} (verdict : turn.HasVerdict) :
    ∃ state, turn.outcome = .ok state := by
  rcases verdict with passed | ⟨step, failed⟩
  · exact ⟨.succeeded, passed⟩
  · exact ⟨.failed step, failed⟩

theorem HasVerdict.not_broken {turn : Turn W} (verdict : turn.HasVerdict) {failure : Failure} :
    turn.outcome ≠ .failed failure := by
  obtain ⟨state, ran⟩ := verdict.ran
  simp [ran]

theorem HasVerdict.not_hung {turn : Turn W} (verdict : turn.HasVerdict) :
    turn.outcome ≠ .stalled := by
  obtain ⟨state, ran⟩ := verdict.ran
  simp [ran]

theorem number_of_getLast? {turns : List (Turn W)} {last : Turn W}
    (numbered : turns.map (·.number) = List.range' 1 turns.length)
    (reached : turns.getLast? = some last) : last.number = turns.length := by
  have mapped : (turns.map (·.number)).getLast? = some last.number := by simp [reached]
  have some : turns ≠ [] := by
    rintro rfl
    cases reached
  rw [numbered, List.getLast?_range', if_neg (List.length_pos_iff.mpr some).ne'] at mapped
  have positive := List.length_pos_iff.mpr some
  simp only [Option.some.injEq] at mapped
  omega

end Turn

/-- What a test makes of the way in which the replay of its rows finished. -/
def Finish.verdict (name : String) (failures : List ScriptFailure) : Finish -> Outcome Unit
  | .complete =>
    if failures.isEmpty then .ok ()
    else .failed (DatasetFailure.toFailure { test := name, failures })
  | .aborted failure => .failed failure.toFailure
  | .broken failure | .unready failure => .failed failure
  | .hung => .stalled

def RunState.verdict (test : Test) : Outcome RunState -> Outcome Unit
  | .ok (.failed step) =>
    .failed (ScriptFailure.toFailure { test := test.script.test, row := none, stage := .actions, step })
  | .ok _ => .ok ()
  | .failed failure => .failed failure
  | .stalled => .stalled

namespace Scenario

variable {W T : Type} [Scale T] {scenario : Scenario W T} {name : String} {test : Test}

theorem executeTest_of_replay (found : scenario.catalog.test name = .ok test) {rows : List Row}
    (dataset : test.rows = some rows) (asked : Option RowPolicy) {scene final : Scene W}
    {turns : List (Turn W)} {finish : Finish}
    (replays : scenario.Replays test (asked.getD scenario.settings.onRowFailure) 1 rows scene turns
      finish final) :
    scenario.executeTest name asked scene =
      (finish.verdict name (Turn.failures test turns), final) := by
  rw [executeTest, Activity.bind_run, found]
  simp only [Activity.ofExcept, Activity.done, dataset, Activity.bind_run, replays.ran,
    List.nil_append]
  cases finish with
  | complete =>
    simp only [Finish.outcome, Finish.verdict]
    cases Turn.failures test turns <;> rfl
  | _ => rfl

/-- The session is not reset for the row that is due. -/
def Blocked (scenario : Scenario W T) (test : Test) (policy : RowPolicy) (rows : List Row)
    (scene : Scene W) (turns : List (Turn W)) : Prop :=
  ∃ ending final, ending ≠ .ok () ∧ scenario.Unready test policy rows scene turns ending final

theorem not_blocked_of_keeps (keeps : test.resetsSession = false) (policy : RowPolicy)
    (rows : List Row) (scene : Scene W) (turns : List (Turn W)) :
    ¬ scenario.Blocked test policy rows scene turns := by
  rintro ⟨ending, final, failed, unready⟩
  have reset := unready.reset
  rw [resetFor, keeps] at reset
  cases reset
  exact failed rfl

/-- How the turns of the rows account for what a test ends in. -/
structure Replayed (scenario : Scenario W T) (name : String) (test : Test) (policy : RowPolicy)
    (rows : List Row) (scene : Scene W) (turns : List (Turn W)) (result : Outcome Unit) : Prop where
  numbered : turns.map (·.number) = List.range' 1 turns.length
  owned : turns.map (·.row) = rows.take turns.length
  taken : ∀ turn ∈ turns, scenario.HasTurn test turn
  first : ∀ turn ∈ turns.head?, turn.before = scene
  chained : turns.IsChain fun turn next => next.before = turn.after
  onward : ∀ turn ∈ turns.dropLast, turn.GoesOn policy
  passed : result = .ok () ↔ turns.length = rows.length ∧ ∀ turn ∈ turns, turn.Passed
  aborted : policy = .abort → ∀ failure : Failure, failure.TellsOfRows →
    (result = .failed failure ↔ ∃ last ∈ turns.getLast?, ∃ step, last.Failed step ∧
      failure = ScriptFailure.toFailure
        { test := test.script.test, row := some turns.length, stage := .actions, step })
  collected : policy = .continue → ∀ failure : Failure, failure.TellsOfRows →
    (result = .failed failure ↔ turns.length = rows.length ∧ (∀ turn ∈ turns, turn.HasVerdict) ∧
      (∃ turn ∈ turns, ∃ step, turn.Failed step) ∧
      failure = DatasetFailure.toFailure { test := name, failures := Turn.failures test turns })
  listed :
    let failure : DatasetFailure := { test := name, failures := Turn.failures test turns }
    failure.rows = Turn.failedRows turns ∧ failure.rows.Pairwise (· < ·) ∧
      failure.toFailure.details =
        [("test_id", .text name), ("rows", .list (failure.rows.map fun (row : Nat) => .int row))]
  broken : ∀ failure : Failure, ¬ failure.TellsOfRows →
    (result = .failed failure ↔ (∃ last ∈ turns.getLast?, last.outcome = .failed failure) ∨
      ∃ final, scenario.Unready test policy rows scene turns (.failed failure) final)
  unblocked : test.resetsSession = false → ¬ scenario.Blocked test policy rows scene turns
  undisturbed : ¬ scenario.Blocked test policy rows scene turns →
    (∀ turn ∈ turns, turn.HasVerdict) →
      turns.length = rows.length ∨
        policy = .abort ∧ ∃ last ∈ turns.getLast?, ∃ step, last.Failed step

/-! ## How a replay finishes, and its verdict -/

theorem HasTurn.untold {turn : Turn W} (taken : scenario.HasTurn test turn) {failure : Failure}
    (broke : turn.outcome = .failed failure) : ¬ failure.TellsOfRows := by
  have ran := taken.ran
  rw [broke] at ran
  exact scenario.runFrom_untold _ _ _ _ _ _ _ _ ran

section

variable {policy : RowPolicy} {rows : List Row} {scene final : Scene W} {turns : List (Turn W)}

theorem Unready.untold {failure : Failure}
    (unready : scenario.Unready test policy rows scene turns (.failed failure) final) :
    ¬ failure.TellsOfRows :=
  scenario.resetFor_untold test _ _ _ unready.reset

theorem Unready.hasVerdict {ending : Outcome Unit}
    (unready : scenario.Unready test policy rows scene turns ending final) {last : Turn W}
    (reached : turns.getLast? = some last) : last.HasVerdict :=
  (unready.onward last (List.mem_of_getLast? reached)).hasVerdict

theorem Unready.not_failed {ending : Outcome Unit}
    (unready : scenario.Unready test .abort rows scene turns ending final) {last : Turn W}
    (reached : turns.getLast? = some last) {step : StepFailure} : ¬ last.Failed step := by
  intro failed
  have passed := (unready.onward last (List.mem_of_getLast? reached)).passed
  rw [Turn.Passed, failed] at passed
  cases passed

theorem not_all_passed {last : Turn W} (reached : turns.getLast? = some last)
    (unpassed : ¬ last.Passed) : ¬ (turns.length = rows.length ∧ ∀ turn ∈ turns, turn.Passed) :=
  fun passed => unpassed (passed.2 last (List.mem_of_getLast? reached))

variable {finish : Finish}
  (finishes : scenario.Finishes test policy rows scene turns finish final)

include finishes

theorem Finishes.passed_iff (name : String) :
    finish.verdict name (Turn.failures test turns) = .ok () ↔
      turns.length = rows.length ∧ ∀ turn ∈ turns, turn.Passed := by
  cases finishes with
  | complete all onward =>
    have verdicts := fun turn member => (onward turn member).hasVerdict
    rw [← Turn.failures_nil_iff test verdicts]
    cases failures : Turn.failures test turns <;> simp [Finish.verdict, all]
  | aborted reached kept stops =>
    obtain ⟨step, failed, -⟩ := Turn.exists_failed_of_failure? kept
    exact iff_of_false (by simp [Finish.verdict]) (not_all_passed reached failed.not_passed)
  | @broken last _ reached broke =>
    have unpassed : ¬ last.Passed := by simp [Turn.Passed, broke]
    exact iff_of_false (by simp [Finish.verdict]) (not_all_passed reached unpassed)
  | @hung last reached hung =>
    have unpassed : ¬ last.Passed := by simp [Turn.Passed, hung]
    exact iff_of_false (by simp [Finish.verdict]) (not_all_passed reached unpassed)
  | unready unready =>
    exact iff_of_false (by simp [Finish.verdict]) fun passed => unready.left.ne passed.1
  | resetHung unready =>
    exact iff_of_false (by simp [Finish.verdict]) fun passed => unready.left.ne passed.1

theorem Finishes.aborted_iff (name : String) (aborts : policy = .abort)
    (taken : ∀ turn ∈ turns, scenario.HasTurn test turn)
    (numbered : turns.map (·.number) = List.range' 1 turns.length) {failure : Failure}
    (told : failure.TellsOfRows) :
    finish.verdict name (Turn.failures test turns) = .failed failure ↔
      ∃ last ∈ turns.getLast?, ∃ step, last.Failed step ∧
        failure = ScriptFailure.toFailure
          { test := test.script.test, row := some turns.length, stage := .actions, step } := by
  subst aborts
  cases finishes with
  | complete all onward =>
    have passed := fun turn member => (onward turn member).passed
    refine iff_of_false ?_ ?_
    · simp [Turn.failures_nil_of_passed passed, Finish.verdict]
    · rintro ⟨last, reached, step, failed, -⟩
      exact failed.not_passed (passed last (List.mem_of_getLast? reached))
  | @aborted last _ reached kept stops =>
    obtain ⟨step, failed, rfl⟩ := Turn.exists_failed_of_failure? kept
    have outcome : last.outcome = .ok (.failed step) := failed
    simp [Finish.verdict, reached, Turn.Failed, outcome,
      Turn.number_of_getLast? numbered reached, eq_comm]
  | @broken last met reached broke =>
    refine iff_of_false ?_ (by simp [reached, Turn.Failed, broke])
    rintro ⟨⟩
    exact (taken last (List.mem_of_getLast? reached)).untold broke told
  | hung reached hung => simp [Finish.verdict, reached, Turn.Failed, hung]
  | unready unready =>
    -- A failed reset never speaks of rows, and the turn before it did not fail: that would have
    -- been the last turn under this policy.
    refine iff_of_false ?_ ?_
    · rintro ⟨⟩
      exact unready.untold told
    · rintro ⟨last, reached, step, failed, -⟩
      exact unready.not_failed reached failed
  | resetHung unready =>
    refine iff_of_false (by simp [Finish.verdict]) ?_
    rintro ⟨last, reached, step, failed, -⟩
    exact unready.not_failed reached failed

theorem Finishes.collected_iff (name : String) (continues : policy = .continue)
    (taken : ∀ turn ∈ turns, scenario.HasTurn test turn) {failure : Failure}
    (told : failure.TellsOfRows) :
    finish.verdict name (Turn.failures test turns) = .failed failure ↔
      turns.length = rows.length ∧ (∀ turn ∈ turns, turn.HasVerdict) ∧
        (∃ turn ∈ turns, ∃ step, turn.Failed step) ∧
        failure = DatasetFailure.toFailure { test := name, failures := Turn.failures test turns } := by
  subst continues
  cases finishes with
  | complete all onward =>
    -- Only a complete replay looks at the failures; any other leaves a row without a verdict.
    have verdicts := fun turn member => (onward turn member).hasVerdict
    rw [← Turn.failures_some_iff test verdicts]
    cases Turn.failures test turns with
    | nil => simp [Finish.verdict]
    | cons first others =>
      simp only [Finish.verdict, List.isEmpty_cons, Bool.false_eq_true, if_false,
        Outcome.failed.injEq, all, ne_eq, reduceCtorEq, not_false_eq_true, true_and]
      exact ⟨fun same => ⟨verdicts, same.symm⟩, fun collected => collected.2.symm⟩
  | aborted reached failed stops => cases stops
  | @broken last met reached broke =>
    refine iff_of_false ?_ ?_
    · rintro ⟨⟩
      exact (taken last (List.mem_of_getLast? reached)).untold broke told
    · rintro ⟨-, verdicts, -⟩
      exact (verdicts last (List.mem_of_getLast? reached)).not_broken broke
  | @hung last reached hung =>
    refine iff_of_false (by simp [Finish.verdict]) ?_
    rintro ⟨-, verdicts, -⟩
    exact (verdicts last (List.mem_of_getLast? reached)).not_hung hung
  | unready unready =>
    refine iff_of_false ?_ fun collected => unready.left.ne collected.1
    rintro ⟨⟩
    exact unready.untold told
  | resetHung unready =>
    exact iff_of_false (by simp [Finish.verdict]) fun collected => unready.left.ne collected.1

theorem Finishes.broken_iff (name : String) {failure : Failure} (untold : ¬ failure.TellsOfRows) :
    finish.verdict name (Turn.failures test turns) = .failed failure ↔
      (∃ last ∈ turns.getLast?, last.outcome = .failed failure) ∨
        ∃ final, scenario.Unready test policy rows scene turns (.failed failure) final := by
  cases finishes with
  | complete all onward =>
    refine iff_of_false ?_ ?_
    · cases failures : Turn.failures test turns with
      | nil => simp [Finish.verdict]
      | cons first others =>
        rintro ⟨⟩
        exact untold (DatasetFailure.toFailure_tellsOfRows _)
    · rintro (⟨last, reached, broke⟩ | ⟨final, unready⟩)
      · have verdict := (onward last (List.mem_of_getLast? reached)).hasVerdict
        exact verdict.not_broken broke
      · exact unready.left.ne all
  | @aborted last _ reached kept stops =>
    obtain ⟨step, failed, -⟩ := Turn.exists_failed_of_failure? kept
    refine iff_of_false ?_ ?_
    · rintro ⟨⟩
      exact untold (ScriptFailure.toFailure_tellsOfRows _)
    · rintro (⟨other, other_reached, broke⟩ | ⟨final, unready⟩)
      · obtain rfl := Option.some.inj (reached.symm.trans other_reached)
        exact Turn.HasVerdict.not_broken (.inr ⟨step, failed⟩) broke
      · subst stops
        exact unready.not_failed reached failed
  | @broken last met reached broke =>
    have onward :
        ¬ ∃ final, scenario.Unready test policy rows scene turns (.failed failure) final := by
      rintro ⟨final, unready⟩
      exact (unready.hasVerdict reached).not_broken broke
    simp [Finish.verdict, reached, broke, onward]
  | @hung last reached hung =>
    refine iff_of_false (by simp [Finish.verdict]) ?_
    rintro (⟨other, other_reached, broke⟩ | ⟨final, unready⟩)
    · obtain rfl := Option.some.inj (reached.symm.trans other_reached)
      cases hung.symm.trans broke
    · exact (unready.hasVerdict reached).not_hung hung
  | @unready met final unready =>
    -- The scene after the turns has one reset, so any other that is told of is this one.
    constructor
    · rintro ⟨⟩
      exact .inr ⟨final, unready⟩
    · rintro (⟨last, reached, broke⟩ | ⟨other, alike⟩)
      · exact absurd broke (unready.hasVerdict reached).not_broken
      · exact (Prod.mk.inj (unready.reset.symm.trans alike.reset)).1
  | resetHung unready =>
    refine iff_of_false (by simp [Finish.verdict]) ?_
    rintro (⟨last, reached, broke⟩ | ⟨other, alike⟩)
    · exact (unready.hasVerdict reached).not_broken broke
    · cases unready.reset.symm.trans alike.reset

theorem Finishes.undisturbed (ready : ¬ scenario.Blocked test policy rows scene turns)
    (verdicts : ∀ turn ∈ turns, turn.HasVerdict) :
    turns.length = rows.length ∨
      policy = .abort ∧ ∃ last ∈ turns.getLast?, ∃ step, last.Failed step := by
  cases finishes with
  | complete all onward => exact .inl all
  | aborted reached kept stops =>
    obtain ⟨step, failed, -⟩ := Turn.exists_failed_of_failure? kept
    exact .inr ⟨stops, _, reached, step, failed⟩
  | broken reached broke =>
    exact absurd broke (verdicts _ (List.mem_of_getLast? reached)).not_broken
  | hung reached hung => exact absurd hung (verdicts _ (List.mem_of_getLast? reached)).not_hung
  | @unready failure final unready => exact absurd ⟨.failed failure, final, by simp, unready⟩ ready
  | @resetHung final unready => exact absurd ⟨.stalled, final, by simp, unready⟩ ready

end

theorem Replays.replayed {policy : RowPolicy} {rows : List Row} {scene final : Scene W}
    {turns : List (Turn W)} {finish : Finish}
    (replays : scenario.Replays test policy 1 rows scene turns finish final) (name : String) :
    scenario.Replayed name test policy rows scene turns
      (finish.verdict name (Turn.failures test turns)) where
  numbered := replays.numbered
  owned := replays.owned
  taken := replays.taken
  first := replays.first
  chained := replays.chained
  onward := replays.onward_dropLast
  passed := replays.finishes.passed_iff name
  aborted := fun aborts _ told =>
    replays.finishes.aborted_iff name aborts replays.taken replays.numbered told
  collected := fun continues _ told =>
    replays.finishes.collected_iff name continues replays.taken told
  listed := by
    have listed := Turn.rows_failures name test turns
    exact ⟨listed, listed ▸ Turn.failedRows_ascending replays.numbered, rfl⟩
  broken := fun _ untold => replays.finishes.broken_iff name untold
  unblocked := fun keeps => not_blocked_of_keeps keeps policy rows scene turns
  undisturbed := replays.finishes.undisturbed

def offering (scenario : Scenario W T) (test : Test) : Scenario W T :=
  { scenario with catalog := { scenario.catalog with tests := [(test.name, test)] } }

def rowTest (script : Script) (rows : List Row) (resetsSession : Bool) : Test :=
  { name := "entry", script, dataFile := some "rows.json", rows := some rows, startPage := none
    resetsSession }

def uploadScript : Script :=
  let header : Header :=
    { index := 1, page := some "login", element := some "user", wait := none, timeout := none }
  { test := "entry"
    actions := [{ header, value := some "$\x7bdata.file\x7d", operation := .uploadFile }]
    assertions := [] }

def uploadRows : List Row := [[("file", "absent.png")], [("file", "photo.png")]]

def photoOpen : Scene (Unit × List (Called Rat)) :=
  { onePageOpen with files := Files.ofList "/" [("photo.png", ByteArray.empty)] }

end Scenario

def Outcome.toldRows {A : Type} : Outcome A -> Option (List Nat)
  | .failed (.dataset _ rows _) => some rows
  | _ => none

theorem Outcome.of_toldRows {A : Type} {outcome : Outcome A} {rows : List Nat}
    (told : outcome.toldRows = some rows) :
    ∃ name failures, outcome = .failed (.dataset name rows failures) := by
  unfold toldRows at told
  split at told
  · cases told
    exact ⟨_, _, rfl⟩
  · cases told

namespace Scenario

end Scenario

end Rehearsal

/-! ## Failed resets -/

namespace Rehearsal.Scenario

variable {W T : Type} [Scale T] {scenario : Scenario W T} {name : String} {test : Test}
  {rows : List Row} {scene : Scene W} {turns : List (Turn W)} {result : Outcome Unit}

/-- A reset that fails counts as the failure of its row, which is reported with those of all
other rows that failed. -/
def SparesOtherRows (scenario : Scenario W T) (name : String) (test : Test) (rows : List Row)
    (scene : Scene W) (turns : List (Turn W)) (result : Outcome Unit) : Prop :=
  ∀ failure after, scenario.Unready test .continue rows scene turns (.failed failure) after →
    ∃ listed failures, result = .failed (.dataset name listed failures) ∧
      turns.length + 1 ∈ listed ∧ ∀ number ∈ Turn.failedRows turns, number ∈ listed

structure EndedByReset (rows : List Row) (turns : List (Turn W)) (failure : Failure)
    (result : Outcome Unit) : Prop where
  ended : result = .failed failure
  unlisted : ∀ name listed failures, failure ≠ .dataset name listed failures
  unattempted : turns.length < rows.length

theorem Replayed.endedByReset
    (replayed : scenario.Replayed name test .continue rows scene turns result)
    {failure : Failure} {after : Scene W}
    (unready : scenario.Unready test .continue rows scene turns (.failed failure) after) :
    EndedByReset rows turns failure result where
  ended := (replayed.broken failure unready.untold).mpr (.inr ⟨after, unready⟩)
  unlisted := by
    rintro name listed failures rfl
    exact unready.untold (.inr rfl)
  unattempted := unready.left

theorem Replayed.sparesOtherRows_iff
    (replayed : scenario.Replayed name test .continue rows scene turns result) :
    scenario.SparesOtherRows name test rows scene turns result ↔
      ∀ failure after,
        ¬ scenario.Unready test .continue rows scene turns (.failed failure) after := by
  constructor
  · -- A reset's failure is never the report of a dataset, so it spares nobody.
    intro spares failure after unready
    obtain ⟨listed, failures, reported, -⟩ := spares failure after unready
    have ended := replayed.endedByReset unready
    have same : Outcome.failed failure = .failed (.dataset name listed failures) :=
      ended.ended.symm.trans reported
    exact ended.unlisted _ _ _ (Outcome.failed.inj same)
  · intro ready failure after unready
    exact absurd unready (ready failure after)

/-- Nothing happens after a reset that failed. -/
theorem Finishes.final_of_unready {finish : Finish} {final after : Scene W} {failure : Failure}
    (finishes : scenario.Finishes test .continue rows scene turns finish final)
    (unready : scenario.Unready test .continue rows scene turns (.failed failure) after) :
    final = after := by
  cases finishes with
  | complete all => exact absurd all unready.left.ne
  | aborted _ _ stops => cases stops
  | broken reached broke =>
    exact absurd broke (unready.hasVerdict reached).not_broken
  | hung reached hung =>
    exact absurd hung (unready.hasVerdict reached).not_hung
  | unready alike => exact (Prod.mk.inj (alike.reset.symm.trans unready.reset)).2
  | resetHung alike => cases alike.reset.symm.trans unready.reset

/-- Other rows are spared the failure of a reset exactly if no reset fails. -/
theorem executeTest_spares_iff (found : scenario.catalog.test name = .ok test)
    (dataset : test.rows = some rows) {asked : Option RowPolicy}
    (continues : asked.getD scenario.settings.onRowFailure = .continue) (scene : Scene W) :
    ∃ turns result final,
      scenario.executeTest name asked scene = (result, final) ∧
      scenario.Replayed name test .continue rows scene turns result ∧
      (scenario.SparesOtherRows name test rows scene turns result ↔
        ∀ failure after,
          ¬ scenario.Unready test .continue rows scene turns (.failed failure) after) ∧
      ∀ failure after,
        scenario.Unready test .continue rows scene turns (.failed failure) after →
          EndedByReset rows turns failure result ∧ final = after := by
  obtain ⟨turns, finish, final, replays⟩ :=
    scenario.exists_replay test .continue 1 rows scene
  have replayed := replays.replayed name
  have ended := executeTest_of_replay found dataset asked (continues ▸ replays)
  refine ⟨turns, _, final, ended, replayed, replayed.sparesOtherRows_iff, ?_⟩
  intro failure after unready
  exact ⟨replayed.endedByReset unready, replays.finishes.final_of_unready unready⟩

/-! ## Resets before two rows -/

/-- Every reset passes, so the first row's failure is reported and the second row has its turn. -/
theorem uploads_reset :
    let test := rowTest uploadScript uploadRows true
    let scenario := (onePage World.willing).offering test
    scenario.catalog.test "entry" = .ok test ∧
      ∃ turns failure final,
        scenario.executeTest "entry" (some .continue) photoOpen = (.failed failure, final) ∧
        scenario.SparesOtherRows "entry" test uploadRows photoOpen turns (.failed failure) ∧
        turns.length = 2 ∧ Turn.failedRows turns = [1] := by
  intro test scenario
  have found : scenario.catalog.test "entry" = .ok test := rfl
  have told : (scenario.executeTest "entry" (some .continue) photoOpen).1.toldRows = some [1] := by
    decide +kernel
  have dataset : test.rows = some uploadRows := rfl
  have continues : (some RowPolicy.continue).getD scenario.settings.onRowFailure = .continue := rfl
  obtain ⟨turns, result, final, ended, replayed, spares, -⟩ :=
    executeTest_spares_iff found dataset continues photoOpen
  rw [ended] at told
  obtain ⟨name, failures, rfl⟩ := Outcome.of_toldRows told
  obtain ⟨all, -, -, same⟩ := (replayed.collected rfl _ (.inr rfl)).mp rfl
  have reported := (Failure.dataset.inj same).2.1
  refine ⟨found, turns, _, final, ended, spares.mpr ?_, all,
    (reported.trans replayed.listed.1).symm⟩
  intro failure after unready
  exact unready.left.ne all

/-- The session cannot be reset for the first row; neither row is attempted. -/
theorem closed_browser_ends_replay :
    let test := rowTest uploadScript uploadRows true
    let scenario := (onePage (World.closedBy .isVisible)).offering test
    let failure := Failure.launchFailed 1 (.fault World.pageClosed)
    scenario.catalog.test "entry" = .ok test ∧
      ∃ final,
        scenario.resetFor test photoOpen = (.failed failure, final) ∧
        scenario.executeTest "entry" (some .continue) photoOpen = (.failed failure, final) ∧
        ¬ scenario.SparesOtherRows "entry" test uploadRows photoOpen [] (.failed failure) := by
  intro test scenario failure
  have found : scenario.catalog.test "entry" = .ok test := rfl
  have reset : (scenario.resetFor test photoOpen).1 = .failed failure := rfl
  rcases ran : scenario.resetFor test photoOpen with ⟨ending, final⟩
  rw [ran] at reset
  subst reset
  have replays : scenario.Replays test .continue 1 uploadRows photoOpen [] (.unready failure)
    final := .unready ran
  have ended := executeTest_of_replay found rfl (some .continue) replays
  refine ⟨found, final, rfl, ended, ?_⟩
  intro spares
  obtain ⟨listed, failures, reported, -⟩ := spares failure final ⟨by decide, by simp, ran⟩
  simp [failure] at reported

end Rehearsal.Scenario
