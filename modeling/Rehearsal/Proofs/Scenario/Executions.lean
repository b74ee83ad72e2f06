import Rehearsal.Proofs.Catalog.References
import Rehearsal.Proofs.Scenario.Logging
import Rehearsal.Proofs.Scenario.RowChecks

/-!
Executions of a test's records, and the events that are logged of them. A scenario serves requests
one after the other, and what it executes for them is what it logs, in the order of the executions.
-/

set_option autoImplicit false

namespace Rehearsal

theorem forall_mem_dropLast_of_isChain {A : Type} {before : A -> A -> Prop} {property : A -> Prop}
    (holds : ∀ first second, before first second → property first) {items : List A}
    (chained : items.IsChain before) : ∀ item ∈ items.dropLast, property item := by
  induction chained with
  | nil => simp
  | singleton item => simp
  | cons_cons related rest ih =>
    rw [List.dropLast_cons_cons, List.forall_mem_cons]
    exact ⟨holds _ _ related, ih⟩

/-! ## Executions -/

inductive Instruction where
  | act (action : Action)
  | judge (assertion : Assertion)

namespace Instruction

def header : Instruction -> Header
  | .act action => action.header
  | .judge assertion => assertion.header

def describe : Instruction -> String
  | .act action => action.describe
  | .judge assertion => assertion.describe

def payload : Instruction -> Table Datum
  | .act action => action.payload
  | .judge assertion => assertion.payload

def task (row : Option Row) : Instruction -> Task
  | .act action => .act action row
  | .judge assertion => .judge assertion row

end Instruction

/-- A record of a test that was handed to the retrier for a row, and how that answered. -/
structure Execution (W : Type) where
  test : String
  instruction : Instruction
  row : Option Row
  number : Option Nat
  before : Scene W
  answer : Outcome (Except StepFailure StepOutcome)
  after : Scene W

namespace Execution

variable {W : Type}

def task (execution : Execution W) : Task := execution.instruction.task execution.row

def Passed (execution : Execution W) : Prop := ∃ outcome, execution.answer = .ok (.ok outcome)

/-- What there is to log of an execution, once it has its answer. -/
def event? (execution : Execution W) : Option Event :=
  match execution.answer with
  | .ok given =>
    let instruction := execution.instruction
    some (Scenario.eventOf execution.test instruction.describe instruction.payload
      execution.number execution.after.counts.lastAttempts given)
  | _ => none

end Execution

def Visit.execution {W : Type} (script : Script) (row : Option Row) (number : Option Nat)
    (visit : Visit W) : Execution W :=
  { test := script.test, instruction := .act visit.action, row, number, before := visit.before
    answer := visit.answer, after := visit.after }

def Check.execution {W : Type} (test : String) (check : Check W) : Execution W :=
  { test, instruction := .judge check.due.assertion, row := check.due.row
    number := check.due.number, before := check.before, answer := check.answer
    after := check.after }

def eventsOf {W : Type} (executions : List (Execution W)) : List Event :=
  executions.filterMap Execution.event?

theorem eventsOf_append {W : Type} (executions later : List (Execution W)) :
    eventsOf (executions ++ later) = eventsOf executions ++ eventsOf later :=
  List.filterMap_append

namespace Scenario

variable {W T : Type} [Scale T] {scenario : Scenario W T}

def Executes (scenario : Scenario W T) (execution : Execution W) : Prop :=
  scenario.retry execution.instruction.describe (scenario.attemptOf execution.task)
    execution.before = (execution.answer, execution.after)

/-- What an event says of its execution. -/
structure Recounts (scenario : Scenario W T) (execution : Execution W) (event : Event) : Prop where
  test : event.test = execution.test
  row : event.row = execution.number.map fun number => (number : Int)
  record : event.record = execution.instruction.payload
  index : event.record.get? "index" = some (.int execution.instruction.header.index)
  ok : event.ok = true ↔ execution.Passed
  attempts : ∃ count : Nat, event.attempts = count ∧
    scenario.Made execution.task execution.before execution.after count
  failed : ∀ failure, execution.answer = .ok (.error failure) →
    event.errorCode = some failure.cause.codeOrName ∧
      event.error = some failure.toFailure.message

section

variable (listens : scenario.onRestart = [Scene.dropHandles])

include listens

/-- The retries of a record log nothing themselves. -/
theorem Executes.logs_nothing {execution : Execution W} (executes : scenario.Executes execution) :
    Logs execution.before [] execution.after := by
  have kept := retry_keeps_ledger listens execution.instruction.describe execution.task
    execution.before
  rw [executes] at kept
  exact Scenario.logs_nothing kept

/-- An execution that was answered logs its event right away. -/
theorem Executes.logs {execution : Execution W} (executes : scenario.Executes execution)
    {given : Except StepFailure StepOutcome} (answered : execution.answer = .ok given)
    {ending : Outcome Unit} {final : Scene W}
    (noted : scenario.record (fun attempts => eventOf execution.test
      execution.instruction.describe execution.instruction.payload execution.number attempts given)
      execution.after = (ending, final)) :
    Logs execution.before (eventsOf [execution]) final := by
  have logged := (executes.logs_nothing listens).trans (record_logs noted)
  simpa [eventsOf, Execution.event?, answered] using logged

theorem Executes.logs_unanswered {execution : Execution W} (executes : scenario.Executes execution)
    (unanswered : ∀ given, execution.answer ≠ .ok given) :
    Logs execution.before (eventsOf [execution]) execution.after := by
  have nothing : eventsOf [execution] = [] := by
    cases answer : execution.answer with
    | ok given => exact absurd answer (unanswered given)
    | failed failure => simp [eventsOf, Execution.event?, answer]
    | stalled => simp [eventsOf, Execution.event?, answer]
  rw [nothing]
  exact executes.logs_nothing listens

end

/-! ## Runs -/

/-- A turn of a row, with the visits of its run. -/
structure Tour (W : Type) where
  turn : Turn W
  visits : List (Visit W)

def Tours (scenario : Scenario W T) (test : Test) (tour : Tour W) : Prop :=
  scenario.Course test.script (some tour.turn.row) (some tour.turn.number) scenario.fuel 1
    tour.turn.ready tour.visits tour.turn.outcome tour.turn.after

def Tour.executions (test : Test) (tour : Tour W) : List (Execution W) :=
  tour.visits.map (Visit.execution test.script (some tour.turn.row) (some tour.turn.number))

theorem exists_tours {test : Test} (numbered : test.script.WellNumbered) {turns : List (Turn W)}
    (taken : ∀ turn ∈ turns, scenario.HasTurn test turn) :
    ∃ tours : List (Tour W), tours.map (·.turn) = turns ∧
      ∀ tour ∈ tours, scenario.Tours test tour := by
  induction turns with
  | nil => exact ⟨[], rfl, by simp⟩
  | cons turn rest ih =>
    obtain ⟨first, later⟩ := List.forall_mem_cons.mp taken
    obtain ⟨tours, same, toured⟩ := ih later
    obtain ⟨visits, result, final, ran, course⟩ :=
      exists_course scenario (some turn.row) (some turn.number) numbered scenario.fuel
        (Nat.le_refl 1) turn.ready
    cases first.ran.symm.trans ran
    exact ⟨⟨turn, visits⟩ :: tours, by rw [List.map_cons, same],
      List.forall_mem_cons.mpr ⟨course, toured⟩⟩

section

variable (listens : scenario.onRestart = [Scene.dropHandles])

include listens

theorem Course.logs {script : Script} {row : Option Row} {number : Option Nat} {fuel index : Nat}
    {scene final : Scene W} {visits : List (Visit W)} {result : Outcome RunState}
    (course : scenario.Course script row number fuel index scene visits result final) :
    Logs scene (eventsOf (visits.map (Visit.execution script row number))) final := by
  induction course with
  | spent => exact logs_nothing rfl
  | beyond => exact logs_nothing rfl
  | @passed fuel next visit outcome noted final visits result taken concludes leads rest ih =>
    have executes : scenario.Executes (visit.execution script row number) := taken.retried
    have first := executes.logs listens concludes.answered concludes.noted
    have logged := first.trans ih
    rwa [← eventsOf_append] at logged
  | @ends fuel visit result final taken settled hung =>
    have executes : scenario.Executes (visit.execution script row number) := taken.retried
    cases settled with
    | passed concludes | failed concludes | unwritten concludes | spent concludes =>
      exact executes.logs listens concludes.answered concludes.noted
    | unanswered _ answered | hung answered =>
      exact executes.logs_unanswered listens fun given => by simp [Visit.execution, answered]

theorem HasTurn.ready_logs {test : Test} {turn : Turn W} (taken : scenario.HasTurn test turn) :
    Logs turn.before [] turn.ready :=
  logs_nothing ((resetFor_keeps listens Scene.apart_ledger test).of_run taken.reset)

theorem Replays.logs {test : Test} {policy : RowPolicy} {number : Nat} {rows : List Row}
    {scene final : Scene W} {turns : List (Turn W)} {finish : Finish}
    (replays : scenario.Replays test policy number rows scene turns finish final)
    {tours : List (Tour W)} (same : tours.map (·.turn) = turns)
    (toured : ∀ tour ∈ tours, scenario.Tours test tour) :
    Logs scene (eventsOf (tours.flatMap (·.executions test))) final := by
  have single : ∀ {tour : Tour W}, scenario.HasTurn test tour.turn → scenario.Tours test tour →
      Logs tour.turn.before (eventsOf (tour.executions test)) tour.turn.after := by
    intro tour taken course
    exact (taken.ready_logs listens).trans (course.logs listens)
  induction replays generalizing tours with
  | complete =>
    obtain rfl := List.map_eq_nil_iff.mp same
    exact logs_nothing rfl
  | onward taken goes rest ih =>
    obtain ⟨tour, others, rfl, rfl, alike⟩ := List.map_eq_cons_iff.mp same
    obtain ⟨course, later⟩ := List.forall_mem_cons.mp toured
    rw [List.flatMap_cons, eventsOf_append]
    exact (single taken course).trans (ih alike later)
  | aborted taken | broken taken | hung taken =>
    obtain ⟨tour, others, rfl, rfl, none⟩ := List.map_eq_cons_iff.mp same
    obtain rfl := List.map_eq_nil_iff.mp none
    simpa using single taken (toured tour (List.mem_singleton_self _))
  | unready reset | resetHung reset =>
    obtain rfl := List.map_eq_nil_iff.mp same
    exact logs_nothing ((resetFor_keeps listens Scene.apart_ledger test).of_run reset)

theorem Decides.logs {test : String} {check : Check W} {ending : Outcome Unit} {final : Scene W}
    (judged : scenario.Judges check) (decides : scenario.Decides test check ending final) :
    Logs check.before (eventsOf [check.execution test]) final := by
  have executes : scenario.Executes (check.execution test) := judged
  cases decides with
  | passed closes | failed closes | unwritten closes =>
    exact executes.logs listens closes.answered closes.noted
  | unanswered _ answered | hung answered =>
    exact executes.logs_unanswered listens fun given => by simp [Check.execution, answered]

theorem Checks.logs {test : String} {dues : List Due} {scene final : Scene W}
    {checks : List (Check W)} {ending : Outcome Unit}
    (ran : scenario.Checks test dues scene checks ending final) :
    Logs scene (eventsOf (checks.map (Check.execution test))) final := by
  induction ran with
  | complete => exact logs_nothing rfl
  | passed judged decides rest ih =>
    have logged := (decides.logs listens judged).trans ih
    rwa [← eventsOf_append] at logged
  | ends judged decides unpassed => exact decides.logs listens judged

end

/-! ## What a run consists of -/

theorem Course.executes {script : Script} {row : Option Row} {number : Option Nat}
    {fuel index : Nat} {scene final : Scene W} {visits : List (Visit W)}
    {result : Outcome RunState}
    (course : scenario.Course script row number fuel index scene visits result final) :
    ∀ execution ∈ visits.map (Visit.execution script row number), scenario.Executes execution :=
  List.forall_mem_map.mpr fun visit member => (course.taken visit member).retried

theorem Course.passes_dropLast {script : Script} {row : Option Row} {number : Option Nat}
    {fuel index : Nat} {scene final : Scene W} {visits : List (Visit W)}
    {result : Outcome RunState}
    (course : scenario.Course script row number fuel index scene visits result final) :
    ∀ execution ∈ (visits.map (Visit.execution script row number)).dropLast,
      execution.Passed := by
  rw [← List.map_dropLast, List.forall_mem_map]
  refine forall_mem_dropLast_of_isChain ?_ course.chained
  rintro visit next ⟨outcome, concludes, -⟩
  exact ⟨outcome, concludes.answered⟩

theorem Checks.executes {test : String} {dues : List Due} {scene final : Scene W}
    {checks : List (Check W)} {ending : Outcome Unit}
    (ran : scenario.Checks test dues scene checks ending final) :
    ∀ execution ∈ checks.map (Check.execution test), scenario.Executes execution :=
  List.forall_mem_map.mpr ran.judged

theorem Checks.passes_dropLast {test : String} {dues : List Due} {scene final : Scene W}
    {checks : List (Check W)} {ending : Outcome Unit}
    (ran : scenario.Checks test dues scene checks ending final) :
    ∀ execution ∈ (checks.map (Check.execution test)).dropLast, execution.Passed := by
  rw [← List.map_dropLast, List.forall_mem_map]
  refine forall_mem_dropLast_of_isChain ?_ ran.chained
  rintro check next ⟨outcome, closes⟩
  exact ⟨outcome, closes.answered⟩

end Scenario

end Rehearsal
