import Rehearsal.Proofs.Scenario.Accounting
import Rehearsal.Proofs.Scenario.RowReplay

/-!
The checks of a test's assertions. The assertions for all rows are due in one list, row after row,
and they are checked in the order of that list until one of them fails. Which list it is depends on
the rows, and a dataset without rows is taken for none at all.
-/

set_option autoImplicit false

namespace Rehearsal

/-! ## What is due -/

/-- An assertion that is to be checked for a row under its number, or for none. -/
structure Due where
  assertion : Assertion
  row : Option Row
  number : Option Nat

def Script.dues (script : Script) (row : Option Row) (number : Option Nat) : List Due :=
  script.assertions.map fun assertion => { assertion, row, number }

def Script.duesOfRows (script : Script) (number : Nat) (rows : List Row) : List Due :=
  (rows.zipIdx number).flatMap fun (row, number) => script.dues (some row) (some number)

/-- The assertions for each row that the test is replayed for, in the order of the rows. -/
def Test.owedChecks (test : Test) : List Due :=
  match test.rows with
  | none => test.script.dues none none
  | some rows => test.script.duesOfRows 1 rows

/-- What is checked in fact. -/
def Test.dueChecks (test : Test) (perRow : Bool) : List Due :=
  match if perRow then test.rows.getD [] else [] with
  | [] => test.script.dues none none
  | rows => test.script.duesOfRows 1 rows

/-- What is due for the rows of a replay's turns. -/
def Turn.dues {W : Type} (script : Script) (turns : List (Turn W)) : List Due :=
  turns.flatMap fun turn => script.dues (some turn.row) (some turn.number)

/-- An assertion that was handed to the retrier, and how that answered. -/
structure Check (W : Type) where
  due : Due
  before : Scene W
  answer : Outcome (Except StepFailure StepOutcome)
  after : Scene W

def Check.passed? {W : Type} (check : Check W) : Option StepOutcome :=
  match check.answer with
  | .ok (.ok outcome) => some outcome
  | _ => none

def Check.outcomes {W : Type} (checks : List (Check W)) : List StepOutcome :=
  checks.filterMap Check.passed?

def Check.failure {W : Type} (test : String) (check : Check W) (cause : StepFailure) : Failure :=
  ScriptFailure.toFailure
    { test, row := check.due.number, stage := .assertion check.due.assertion.header.index,
      step := cause }

def Outcome.map {A B : Type} (onward : A -> B) : Outcome A -> Outcome B
  | .ok value => .ok (onward value)
  | .failed failure => .failed failure
  | .stalled => .stalled

namespace Scenario

variable {W T : Type} [Scale T] (scenario : Scenario W T) (test : String)

def Judges (check : Check W) : Prop :=
  scenario.retry check.due.assertion.describe
    (scenario.takeAssertion check.due.assertion check.due.row) check.before =
      (check.answer, check.after)

structure Closes (check : Check W) (given : Except StepFailure StepOutcome) (ending : Outcome Unit)
    (final : Scene W) : Prop where
  answered : check.answer = .ok given
  noted : scenario.record (fun attempts =>
    eventOf test check.due.assertion.describe check.due.assertion.payload check.due.number attempts
      given) check.after = (ending, final)

/-- How an assertion's check decides on those after it: only one that passed leaves them their
turn. -/
inductive Decides (check : Check W) : Outcome Unit -> Scene W -> Prop where
  | passed {outcome : StepOutcome} {final : Scene W}
      (closes : scenario.Closes test check (.ok outcome) (.ok ()) final) :
      Decides check (.ok ()) final
  | failed {cause : StepFailure} {final : Scene W}
      (closes : scenario.Closes test check (.error cause) (.ok ()) final) :
      Decides check (.failed (check.failure test cause)) final
  | unwritten {given : Except StepFailure StepOutcome} {fault : Fault} {final : Scene W}
      (closes : scenario.Closes test check given (.failed (.fault fault)) final) :
      Decides check (.failed (.fault fault)) final
  | unanswered (unheld : scenario.retrier.policy.budget? = none)
      (answered : check.answer = .failed Retrier.beyondScale) :
      Decides check (.failed Retrier.beyondScale) check.after
  | hung (answered : check.answer = .stalled) : Decides check .stalled check.after

/-- The checks of what is due, in order, and how they end. -/
inductive Checks : List Due -> Scene W -> List (Check W) -> Outcome Unit -> Scene W -> Prop where
  | complete {scene : Scene W} : Checks [] scene [] (.ok ()) scene
  | passed {check : Check W} {dues : List Due} {checks : List (Check W)} {ending : Outcome Unit}
      {noted final : Scene W} (judged : scenario.Judges check)
      (decides : scenario.Decides test check (.ok ()) noted)
      (rest : Checks dues noted checks ending final) :
      Checks (check.due :: dues) check.before (check :: checks) ending final
  | ends {check : Check W} {dues : List Due} {ending : Outcome Unit} {final : Scene W}
      (judged : scenario.Judges check) (decides : scenario.Decides test check ending final)
      (unpassed : ending ≠ .ok ()) :
      Checks (check.due :: dues) check.before [check] ending final

variable {scenario test}

/-! ## Checks one after the other -/

theorem Checks.append {dues more : List Due} {scene between final : Scene W}
    {checks others : List (Check W)} {ending : Outcome Unit}
    (before : scenario.Checks test dues scene checks (.ok ()) between)
    (after : scenario.Checks test more between others ending final) :
    scenario.Checks test (dues ++ more) scene (checks ++ others) ending final := by
  generalize passed : (Outcome.ok () : Outcome Unit) = first at before
  induction before with
  | complete => exact after
  | passed judged decides rest ih => exact .passed judged decides (ih after passed)
  | ends judged decides unpassed => exact absurd passed.symm unpassed

/-- What is due later makes no difference to checks that do not come to it. -/
theorem Checks.stops {dues : List Due} {scene final : Scene W} {checks : List (Check W)}
    {ending : Outcome Unit} (before : scenario.Checks test dues scene checks ending final)
    (unpassed : ending ≠ .ok ()) (more : List Due) :
    scenario.Checks test (dues ++ more) scene checks ending final := by
  induction before with
  | complete => exact absurd rfl unpassed
  | passed judged decides rest ih => exact .passed judged decides (ih unpassed)
  | ends judged decides => exact .ends judged decides unpassed

def Passes (scenario : Scenario W T) (test : String) (check : Check W) (after : Scene W) : Prop :=
  ∃ outcome, scenario.Closes test check (.ok outcome) (.ok ()) after

omit [Scale T] in
theorem Closes.unique {check : Check W} {given other : Except StepFailure StepOutcome}
    {ending otherEnding : Outcome Unit} {final otherFinal : Scene W}
    (closes : scenario.Closes test check given ending final)
    (alike : scenario.Closes test check other otherEnding otherFinal) :
    given = other ∧ ending = otherEnding ∧ final = otherFinal := by
  have answer := closes.answered.symm.trans alike.answered
  simp only [Outcome.ok.injEq] at answer
  subst answer
  have noted := closes.noted.symm.trans alike.noted
  exact ⟨rfl, Prod.mk.inj noted⟩

omit [Scale T] in
theorem Closes.of_answer {check : Check W} {given : Except StepFailure StepOutcome}
    {ending : Outcome Unit} {final : Scene W}
    (closes : scenario.Closes test check given ending final) :
    check.answer ≠ .stalled ∧ ∀ failure, check.answer ≠ .failed failure := by
  simp [closes.answered]

section

variable {check : Check W} {ending : Outcome Unit} {final : Scene W}
  (decides : scenario.Decides test check ending final)

include decides

theorem Decides.passes (passed : ending = .ok ()) : scenario.Passes test check final := by
  cases decides with
  | passed closes => exact ⟨_, closes⟩
  | _ => cases passed

theorem Decides.of_passes {after : Scene W} (passes : scenario.Passes test check after) :
    ending = .ok () := by
  obtain ⟨outcome, closed⟩ := passes
  cases decides with
  | passed closes => rfl
  | failed closes => grind [Closes.unique]
  | unwritten closes => grind [Closes.unique]
  | unanswered unheld answered => grind [Closes.of_answer]
  | hung answered => grind [Closes.of_answer]

theorem Decides.failed_iff {failure : Failure} (told : failure.TellsOfRows) :
    ending = .failed failure ↔ ∃ cause,
      scenario.Closes test check (.error cause) (.ok ()) final ∧
        failure = check.failure test cause := by
  cases decides with
  | passed closes => grind [Closes.unique]
  | failed closes => grind [Closes.unique]
  | @unwritten _ fault _ closes =>
    have untold := Failure.fault_not_tellsOfRows fault
    grind [Closes.unique]
  | unanswered unheld answered =>
    have untold : ¬ Retrier.beyondScale.TellsOfRows := Failure.fault_not_tellsOfRows _
    grind [Closes.of_answer]
  | hung answered => grind [Closes.of_answer]

theorem Decides.broken_iff {failure : Failure} (untold : ¬ failure.TellsOfRows) :
    ending = .failed failure ↔
      (∃ given fault, failure = .fault fault ∧
        scenario.Closes test check given (.failed failure) final) ∨
      (scenario.retrier.policy.budget? = none ∧ failure = Retrier.beyondScale ∧
        check.answer = .failed failure ∧ check.after = final) := by
  cases decides with
  | passed closes => grind [Closes.unique, Closes.of_answer]
  | @failed cause _ closes =>
    have told : (check.failure test cause).TellsOfRows := ScriptFailure.toFailure_tellsOfRows _
    grind [Closes.unique, Closes.of_answer]
  | unwritten closes => grind [Closes.unique, Closes.of_answer]
  | unanswered unheld answered => grind [Closes.of_answer]
  | hung answered => grind [Closes.of_answer]

end

section

variable {dues : List Due} {scene final : Scene W} {checks : List (Check W)}
  {ending : Outcome Unit}

variable (ran : scenario.Checks test dues scene checks ending final)

include ran

theorem Checks.owed : checks.map (·.due) <+: dues := by
  induction ran with
  | complete => exact List.prefix_rfl
  | passed judged decides rest ih => exact List.cons_prefix_cons.mpr ⟨rfl, ih⟩
  | ends => simp

theorem Checks.judged : ∀ check ∈ checks, scenario.Judges check := by
  induction ran with
  | complete => simp
  | passed judged decides rest ih => exact List.forall_mem_cons.mpr ⟨judged, ih⟩
  | ends judged => simpa

theorem Checks.first : ∀ check ∈ checks.head?, check.before = scene := by
  cases ran <;> simp

theorem Checks.chained :
    checks.IsChain fun check next => scenario.Passes test check next.before := by
  induction ran with
  | complete => exact .nil
  | ends => exact .singleton _
  | passed judged decides rest ih =>
    refine List.isChain_cons.mpr ⟨?_, ih⟩
    intro next member
    obtain rfl := rest.first next member
    exact decides.passes rfl

/-- Nothing was due, or the last check has decided. -/
theorem Checks.decided :
    (dues = [] ∧ checks = [] ∧ ending = .ok () ∧ final = scene) ∨
      ∃ last, checks.getLast? = some last ∧ scenario.Decides test last ending final ∧
        (ending = .ok () → checks.map (·.due) = dues) := by
  induction ran with
  | complete => exact .inl ⟨rfl, rfl, rfl, rfl⟩
  | @ends check dues ending final judged decides unpassed =>
    exact .inr ⟨check, rfl, decides, fun passed => absurd passed unpassed⟩
  | @passed check dues checks ending noted final judged decides rest ih =>
    refine .inr ?_
    rcases ih with ⟨rfl, rfl, rfl, rfl⟩ | ⟨last, reached, decided, all⟩
    · exact ⟨check, rfl, decides, fun _ => rfl⟩
    · refine ⟨last, ?_, decided, fun passed => by rw [List.map_cons, all passed]⟩
      rw [List.getLast?_cons, reached]
      rfl

theorem Checks.passed_iff : ending = .ok () ↔ checks.map (·.due) = dues ∧
    ∀ check ∈ checks, ∃ after, scenario.Passes test check after := by
  induction ran with
  | complete => simp
  | @passed check dues checks ending noted final judged decides rest ih =>
    have passes := decides.passes rfl
    simp only [List.map_cons, List.cons.injEq, true_and, List.forall_mem_cons, ih]
    exact ⟨fun ⟨all, later⟩ => ⟨all, ⟨noted, passes⟩, later⟩, fun ⟨all, _, later⟩ => ⟨all, later⟩⟩
  | @ends check dues ending final judged decides unpassed =>
    refine iff_of_false unpassed ?_
    rintro ⟨-, passes⟩
    obtain ⟨after, passes⟩ := passes check (by simp)
    exact unpassed (decides.of_passes passes)

end

omit [Scale T] in
theorem map_answer {checks : List (Check W)}
    (passes : ∀ check ∈ checks, ∃ after, scenario.Passes test check after) :
    checks.map (·.answer) = (Check.outcomes checks).map fun outcome => .ok (.ok outcome) := by
  induction checks with
  | nil => rfl
  | cons check rest ih =>
    obtain ⟨⟨after, outcome, closes⟩, later⟩ := List.forall_mem_cons.mp passes
    have passed : check.passed? = some outcome := by simp [Check.passed?, closes.answered]
    simp [Check.outcomes, passed, closes.answered] at ih ⊢
    exact ih later

/-- How the checks of what is due account for what an assertion of a test ends in. -/
structure Checked (scenario : Scenario W T) (test : String) (dues : List Due) (scene : Scene W)
    (checks : List (Check W)) (result : Outcome (List StepOutcome)) (final : Scene W) : Prop where
  owed : checks.map (·.due) <+: dues
  judged : ∀ check ∈ checks, scenario.Judges check
  first : ∀ check ∈ checks.head?, check.before = scene
  chained : checks.IsChain fun check next => scenario.Passes test check next.before
  passed : ∀ outcomes, result = .ok outcomes ↔ checks.map (·.due) = dues ∧
    (∀ check ∈ checks, ∃ after, scenario.Passes test check after) ∧
    checks.map (·.answer) = outcomes.map fun outcome => .ok (.ok outcome)
  failed : ∀ failure : Failure, failure.TellsOfRows → (result = .failed failure ↔
    ∃ last ∈ checks.getLast?, ∃ cause, scenario.Closes test last (.error cause) (.ok ()) final ∧
      failure = last.failure test cause)
  broken : ∀ failure : Failure, ¬ failure.TellsOfRows → (result = .failed failure ↔
    ∃ last ∈ checks.getLast?,
      (∃ given fault, failure = .fault fault ∧
        scenario.Closes test last given (.failed failure) final) ∨
      (scenario.retrier.policy.budget? = none ∧ failure = Retrier.beyondScale ∧
        last.answer = .failed failure ∧ last.after = final))

theorem map_failed_iff {A B : Type} {onward : A -> B} {outcome : Outcome A} {failure : Failure} :
    outcome.map onward = .failed failure ↔ outcome = .failed failure := by
  cases outcome <;> simp [Outcome.map]

theorem Checks.checked {dues : List Due} {scene final : Scene W} {checks : List (Check W)}
    {ending : Outcome Unit} (ran : scenario.Checks test dues scene checks ending final) :
    scenario.Checked test dues scene checks (ending.map fun _ => Check.outcomes checks) final where
  owed := ran.owed
  judged := ran.judged
  first := ran.first
  chained := ran.chained
  passed := by
    intro outcomes
    constructor
    · intro passed
      cases ending with
      | ok _ =>
        obtain ⟨all, passes⟩ := ran.passed_iff.mp rfl
        cases passed
        exact ⟨all, passes, map_answer passes⟩
      | _ => cases passed
    · rintro ⟨all, passes, answers⟩
      rw [ran.passed_iff.mpr ⟨all, passes⟩]
      have alike := (map_answer passes).symm.trans answers
      rw [(List.map_injective_iff.mpr fun _ _ same => by simpa using same) alike]
      rfl
  failed := by
    intro failure told
    rw [map_failed_iff]
    rcases ran.decided with ⟨-, rfl, rfl, -⟩ | ⟨last, reached, decides, -⟩
    · simp
    · simp [decides.failed_iff told, reached]
  broken := by
    intro failure untold
    rw [map_failed_iff]
    rcases ran.decided with ⟨-, rfl, rfl, -⟩ | ⟨last, reached, decides, -⟩
    · simp
    · simp [decides.broken_iff untold, reached]

/-! ## Checks that follow the rows -/

/-- Each assertion is checked once for each row that the test is replayed for, and all of them pass
or the first that fails is reported. -/
structure FollowsRows (scenario : Scenario W T) (test : Test) (scene : Scene W)
    (checks : List (Check W)) (result : Outcome (List StepOutcome)) (final : Scene W) : Prop where
  checked : scenario.Checked test.script.test test.owedChecks scene checks result final
  ended : (∃ outcomes, result = .ok outcomes) ∨
    ∃ failure : ScriptFailure, result = .failed failure.toFailure

def addressAssertion (part : String) : Assertion :=
  { header := { index := 1, page := none, element := none, wait := none, timeout := none }
    aspect := .url, expected := some part, operator := .contains }

def addressScript (part : String) : Script :=
  { test := "entry", actions := [], assertions := [addressAssertion part] }

/-- There is no row, and still the assertion is checked. -/
theorem empty_dataset_is_checked :
    let test := rowTest (addressScript "/login") [] false
    let scenario := ((onePage World.willing).staying "http://shop.test/login").offering test
    scenario.catalog.test "entry" = .ok test ∧ test.rows = some [] ∧
      ∃ outcomes final,
        scenario.assertTest "entry" true onePageOpen = (.ok outcomes, final) ∧
        outcomes.length = 1 ∧
        ∀ checks, ¬ scenario.FollowsRows test onePageOpen checks (.ok outcomes) final := by
  intro test scenario
  have counted : (scenario.assertTest "entry" true onePageOpen).1.value?.map List.length =
      some 1 := by
    decide +kernel
  obtain ⟨outcomes, told, one⟩ := Option.map_eq_some_iff.mp counted
  have passed := Outcome.of_value? told
  refine ⟨rfl, rfl, outcomes, _, Activity.run_of_outcome passed, one, ?_⟩
  rintro checks ⟨checked, -⟩
  have owed : test.owedChecks = [] := rfl
  obtain ⟨all, -, answers⟩ := (checked.passed outcomes).mp rfl
  rw [owed, List.map_eq_nil_iff] at all
  rw [all, List.map_nil, eq_comm, List.map_eq_nil_iff] at answers
  simp [answers] at one

end Scenario

end Rehearsal
