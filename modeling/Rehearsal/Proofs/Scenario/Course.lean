import Mathlib.Data.List.Chain
import Rehearsal.Proofs.Scenario.Branching
import Rehearsal.Proofs.World.CallLog

/-!
The course that a run takes through its script: the actions that it visits, one after the other,
and what the last visit has to do with the result.
-/

set_option autoImplicit false

namespace Rehearsal

/-! ## Positions -/

/-- The state of a run whose next action is the one of some index. -/
def RunState.due (index length : Nat) : RunState :=
  if length < index then .succeeded else .running (index - 1)

theorem RunState.next_due {index due length : Nat} {nextIndex : Option Int} (begun : 1 ≤ index)
    (onward : 1 ≤ due) (leads : (due : Int) = nextIndex.getD (index + 1)) :
    RunState.next (index - 1) nextIndex length = .ok (.due due length) := by
  cases nextIndex with
  | none =>
    have next : due = index + 1 := by
      simp only [Option.getD_none] at leads
      omega
    subst next
    have place : index - 1 + 1 = index := by omega
    simp only [next, RunState.due, place, Nat.add_sub_cancel, Nat.lt_succ_iff]
  | some target =>
    obtain rfl : (due : Int) = target := by simpa using leads
    have place : ((due : Int) - 1).toNat = due - 1 := by omega
    have beyond : length ≤ due - 1 ↔ length < due := by omega
    have high : ¬ (due : Int) < 1 := by omega
    simp [next, RunState.due, place, beyond, high]

/-! ## Visits -/

/-- A step that a run handed to its retrier, and how that answered. -/
structure Visit (W : Type) where
  index : Nat
  action : Action
  before : Scene W
  answer : Outcome (Except StepFailure StepOutcome)
  after : Scene W

namespace Scenario

variable {W T : Type} [Scale T] (scenario : Scenario W T) (script : Script) (row : Option Row)
  (number : Option Nat)

def notes (action : Action) (given : Except StepFailure StepOutcome) : Activity (Scene W) Unit :=
  scenario.record fun attempts =>
    eventOf script.test action.describe action.payload number attempts given

structure Takes (visit : Visit W) : Prop where
  begun : 1 ≤ visit.index
  within : visit.index ≤ script.actions.length
  found : script.actions[visit.index - 1]? = some visit.action
  numbered : visit.action.header.index = visit.index
  retried : scenario.retry visit.action.describe (scenario.takeAction visit.action row)
    visit.before = (visit.answer, visit.after)

structure Concludes (visit : Visit W) (given : Except StepFailure StepOutcome)
    (ending : Outcome Unit) (final : Scene W) : Prop where
  answered : visit.answer = .ok given
  noted : scenario.notes script number visit.action given visit.after = (ending, final)

def Leads (visit next : Visit W) : Prop :=
  ∃ outcome, scenario.Concludes script number visit (.ok outcome) (.ok ()) next.before ∧
    (next.index : Int) = outcome.nextIndex.getD (visit.index + 1)

/-- What the last visit of a run makes of the run. -/
inductive Settles (last : Visit W) : Outcome RunState -> Scene W -> Prop where
  | passed {outcome : StepOutcome} {final : Scene W}
      (concludes : scenario.Concludes script number last (.ok outcome) (.ok ()) final)
      (beyond : (script.actions.length : Int) < outcome.nextIndex.getD (last.index + 1)) :
      Settles last (.ok .succeeded) final
  | failed {cause : StepFailure} {final : Scene W}
      (concludes : scenario.Concludes script number last (.error cause) (.ok ()) final) :
      Settles last (.ok (.failed cause)) final
  | unwritten {given : Except StepFailure StepOutcome} {fault : Fault} {final : Scene W}
      (concludes : scenario.Concludes script number last given (.failed (.fault fault)) final) :
      Settles last (.failed (.fault fault)) final
  | unanswered (unheld : scenario.retrier.policy.budget? = none)
      (answered : last.answer = .failed Retrier.beyondScale) :
      Settles last (.failed Retrier.beyondScale) last.after
  | hung (answered : last.answer = .stalled) : Settles last .stalled last.after
  -- The fuel is spent.
  | spent {outcome : StepOutcome} {final : Scene W}
      (concludes : scenario.Concludes script number last (.ok outcome) (.ok ()) final)
      (within : outcome.nextIndex.getD (last.index + 1) ≤ (script.actions.length : Int)) :
      Settles last .stalled final

/-- Visits from the one of some index on, with what the run ends in after them. -/
inductive Course : Nat -> Nat -> Scene W -> List (Visit W) -> Outcome RunState -> Scene W -> Prop
  where
  | spent {index : Nat} {scene : Scene W} (within : index ≤ script.actions.length) :
      Course 0 index scene [] .stalled scene
  | beyond {fuel index : Nat} {scene : Scene W} (beyond : script.actions.length < index) :
      Course fuel index scene [] (.ok .succeeded) scene
  | passed {fuel next : Nat} {visit : Visit W} {outcome : StepOutcome} {noted final : Scene W}
      {visits : List (Visit W)} {result : Outcome RunState}
      (taken : scenario.Takes script row visit)
      (concludes : scenario.Concludes script number visit (.ok outcome) (.ok ()) noted)
      (leads : (next : Int) = outcome.nextIndex.getD (visit.index + 1))
      (rest : Course fuel next noted visits result final) :
      Course (fuel + 1) visit.index visit.before (visit :: visits) result final
  | ends {fuel : Nat} {visit : Visit W} {result : Outcome RunState} {final : Scene W}
      (taken : scenario.Takes script row visit)
      (settled : scenario.Settles script number visit result final)
      (hung : result = .stalled → visit.answer = .stalled) :
      Course (fuel + 1) visit.index visit.before [visit] result final

variable {scenario script row number} {fuel : Nat} {visit : Visit W}

theorem runFrom_succeeded (scene : Scene W) :
    scenario.runFrom script row number fuel .succeeded scene = (.ok .succeeded, scene) := by
  cases fuel <;> rfl

theorem runFrom_of_takes (taken : scenario.Takes script row visit) :
    scenario.runFrom script row number (fuel + 1) (.running (visit.index - 1)) visit.before =
      match visit.answer with
      | .ok given =>
        match scenario.notes script number visit.action given visit.after with
        | (.ok (), noted) =>
          match given with
          | .error cause => (.ok (.failed cause), noted)
          | .ok outcome =>
            match RunState.next (visit.index - 1) outcome.nextIndex script.actions.length with
            | .ok state => scenario.runFrom script row number fuel state noted
            | .error failure => (.failed failure, noted)
        | (.failed failure, noted) => (.failed failure, noted)
        | (.stalled, noted) => (.stalled, noted)
      | .failed failure => (.failed failure, visit.after)
      | .stalled => (.stalled, visit.after) := by
  rw [runFrom]
  simp only [taken.found, takeStep, Activity.bind_run, taken.retried]
  rcases visit.answer with given | failure | _
  · rcases noted : scenario.notes script number visit.action given visit.after
      with ⟨_ | failure | _, final⟩
    all_goals
      have recorded := noted
      simp only [notes] at recorded
      simp only [recorded, noted]
    · cases given with
      | error cause => rfl
      | ok outcome =>
        cases leads : RunState.next (visit.index - 1) outcome.nextIndex script.actions.length <;>
          simp [leads, Activity.bind_run, Activity.ofExcept, Activity.done, Activity.fail]
  · rfl
  · rfl

/-- What an action is retried for yields an outcome that leads to an index of the script or
beyond it, not to one below. -/
theorem onward_of_takes (accepted : script.WellNumbered) (taken : scenario.Takes script row visit)
    {outcome : StepOutcome} (answered : visit.answer = .ok (.ok outcome)) :
    ∃ next : Nat, 1 ≤ next ∧ (next : Int) = outcome.nextIndex.getD (visit.index + 1) := by
  -- Whatever the retries were, the outcome is one that the action itself has yielded.
  have retried := taken.retried
  rw [answered] at retried
  have leads := Retrier.run_yields (scenario.takeAction_yields row visit.action) retried
  have leadsOn := accepted.leadsOn _ (List.mem_of_getElem? taken.found)
  cases named : outcome.nextIndex with
  | none => exact ⟨visit.index + 1, by omega, rfl⟩
  | some index =>
    obtain ⟨target, member, rfl⟩ := leads index named
    exact ⟨target, Action.targets_of_leadsOn leadsOn target member, rfl⟩

omit [Scale T] in
theorem record_failed (scenario : Scenario W T) (event : Nat -> Event) (scene : Scene W) :
    (∃ noted, scenario.record event scene = (.ok (), noted)) ∨
      ∃ fault noted, scenario.record event scene = (.failed (.fault fault), noted) := by
  unfold record
  cases scene.log with
  | none => exact .inl ⟨scene, rfl⟩
  | some log =>
    dsimp only
    split
    · exact .inl ⟨_, rfl⟩
    next fault _ => exact .inr ⟨fault, _, rfl⟩

omit [Scale T] in
theorem notes_failed (scenario : Scenario W T) (script : Script) (number : Option Nat)
    (action : Action) (given : Except StepFailure StepOutcome) (scene : Scene W) :
    (∃ noted, scenario.notes script number action given scene = (.ok (), noted)) ∨
      ∃ fault noted,
        scenario.notes script number action given scene = (.failed (.fault fault), noted) :=
  scenario.record_failed _ scene

theorem exists_takes (scenario : Scenario W T) (row : Option Row)
    (accepted : script.WellNumbered) {index : Nat} (begun : 1 ≤ index)
    (within : index ≤ script.actions.length) (scene : Scene W) :
    ∃ visit : Visit W, visit.index = index ∧ visit.before = scene ∧
      scenario.Takes script row visit := by
  have place : index - 1 < script.actions.length := by omega
  have found := List.getElem?_eq_getElem place
  have numbered := accepted.index_at found
  rw [Nat.sub_add_cancel begun] at numbered
  rcases retried : scenario.retry script.actions[index - 1].describe
    (scenario.takeAction script.actions[index - 1] row) scene with ⟨answer, after⟩
  exact ⟨⟨index, script.actions[index - 1], scene, answer, after⟩, rfl, rfl,
    ⟨begun, within, found, numbered, retried⟩⟩

theorem exists_course (scenario : Scenario W T) (row : Option Row) (number : Option Nat)
    (accepted : script.WellNumbered) (fuel : Nat) {index : Nat} (begun : 1 ≤ index)
    (scene : Scene W) :
    ∃ visits result final,
      scenario.runFrom script row number fuel (.due index script.actions.length) scene =
        (result, final) ∧
      scenario.Course script row number fuel index scene visits result final := by
  -- The run is due at an index from one on, as the script is well numbered: that is the invariant.
  induction fuel generalizing index scene with
  | zero =>
    rw [RunState.due]
    split
    next beyond => exact ⟨[], _, scene, runFrom_succeeded scene, .beyond beyond⟩
    next within => exact ⟨[], .stalled, scene, rfl, .spent (Nat.le_of_not_lt within)⟩
  | succ fuel ih =>
    rcases Nat.lt_or_ge script.actions.length index with beyond | within
    · rw [RunState.due, if_pos beyond]
      exact ⟨[], _, scene, runFrom_succeeded scene, .beyond beyond⟩
    rw [RunState.due, if_neg (Nat.not_lt.mpr within)]
    obtain ⟨visit, rfl, rfl, taken⟩ :=
      exists_takes scenario row accepted begun within scene
    rw [runFrom_of_takes taken]
    cases answered : visit.answer with
    | stalled => exact ⟨_, _, _, rfl, .ends taken (.hung answered) fun _ => answered⟩
    | failed failure =>
      obtain ⟨unheld, rfl⟩ := Retrier.run_failed (answered ▸ taken.retried)
      exact ⟨_, _, _, rfl, .ends taken (.unanswered unheld answered) nofun⟩
    | ok given =>
      rcases scenario.notes_failed script number visit.action given visit.after with
        ⟨between, noted⟩ | ⟨fault, between, noted⟩
      · simp only [noted]
        cases given with
        | error cause => exact ⟨_, _, _, rfl, .ends taken (.failed ⟨answered, noted⟩) nofun⟩
        | ok outcome =>
          obtain ⟨next, onward, leads⟩ := onward_of_takes accepted taken answered
          obtain ⟨visits, result, final, rest, course⟩ := ih onward between
          refine ⟨_, result, final, ?_, .passed taken ⟨answered, noted⟩ leads course⟩
          simp only [RunState.next_due begun onward leads, rest]
      · simp only [noted]
        exact ⟨_, _, _, rfl, .ends taken (.unwritten ⟨answered, noted⟩) nofun⟩

/-! ## What a course consists of -/

section

variable {index : Nat} {scene final : Scene W} {visits : List (Visit W)}
  {result : Outcome RunState} (course : scenario.Course script row number fuel index scene visits
    result final)

include course

theorem Course.taken : ∀ visit ∈ visits, scenario.Takes script row visit := by
  induction course with
  | spent => simp
  | beyond => simp
  | passed taken _ _ _ ih => exact List.forall_mem_cons.mpr ⟨taken, ih⟩
  | ends taken => simpa using taken

theorem Course.first : ∀ visit ∈ visits.head?, visit.index = index ∧ visit.before = scene := by
  cases course <;> simp

theorem Course.chained : visits.IsChain (scenario.Leads script number) := by
  induction course with
  | spent => exact .nil
  | beyond => exact .nil
  | ends => exact .singleton _
  | passed taken concludes leads rest ih =>
    refine List.isChain_cons.mpr ⟨?_, ih⟩
    intro next member
    obtain ⟨rfl, rfl⟩ := rest.first next member
    exact ⟨_, concludes, leads⟩

theorem Course.settled :
    ∀ last ∈ visits.getLast?, scenario.Settles script number last result final := by
  induction course with
  | spent => simp
  | beyond => simp
  | ends taken settled => simpa using settled
  | @passed fuel next visit outcome noted final visits result taken concludes leads rest ih =>
    cases visits with
    | cons second others => simpa [List.getLast?_cons_cons] using ih
    | nil =>
      -- No visit follows one that passed: there is no fuel for it, or the end is reached.
      rintro last ⟨⟩
      rw [List.getLast_singleton]
      cases rest with
      | spent within => exact .spent concludes (by omega)
      | beyond beyond => exact .passed concludes (by omega)

/-- Without any visit the fuel was spent or the end was reached; else the last visit settles the
result. -/
theorem Course.ending :
    (visits = [] ∧ index ≤ script.actions.length ∧ result = .stalled) ∨
      (visits = [] ∧ script.actions.length < index ∧ result = .ok .succeeded) ∨
      ∃ last, visits.getLast? = some last ∧
        scenario.Settles script number last result final := by
  cases reached : visits.getLast? with
  | some last => exact .inr (.inr ⟨last, rfl, course.settled last reached⟩)
  | none =>
    obtain rfl := List.getLast?_eq_none_iff.mp reached
    cases course with
    | spent within => exact .inl ⟨rfl, within, rfl⟩
    | beyond beyond => exact .inr (.inl ⟨rfl, beyond, rfl⟩)

theorem Course.beyond_end (beyond : script.actions.length < index) :
    visits = [] ∧ result = .ok .succeeded ∧ final = scene := by
  cases course with
  | spent within => omega
  | beyond => exact ⟨rfl, rfl, rfl⟩
  | passed taken => have within := taken.within; omega
  | ends taken => have within := taken.within; omega

theorem Course.spent_fuel (stalled : result = .stalled) :
    visits.length = fuel ∨ ∃ last ∈ visits.getLast?, last.answer = .stalled := by
  induction course with
  | spent => exact .inl rfl
  | beyond => cases stalled
  | @ends fuel visit result final taken settled hung => exact .inr ⟨visit, rfl, hung stalled⟩
  | @passed fuel next visit outcome noted final visits result taken concludes leads rest ih =>
    rcases ih stalled with spent | ⟨last, member, answered⟩
    · exact .inl (by simp [spent])
    · cases visits with
      | nil => cases member
      | cons second others =>
        exact .inr ⟨last, by simpa [List.getLast?_cons_cons] using member, answered⟩

end

/-! ## What the last visit settles -/

section

variable {last : Visit W} {result : Outcome RunState} {final : Scene W}

omit [Scale T] in
theorem Concludes.of_answer {given : Except StepFailure StepOutcome} {ending : Outcome Unit}
    (concludes : scenario.Concludes script number last given ending final) :
    last.answer ≠ .stalled ∧ ∀ failure, last.answer ≠ .failed failure := by
  simp [concludes.answered]

omit [Scale T] in
theorem Concludes.unique {given other : Except StepFailure StepOutcome}
    {ending otherEnding : Outcome Unit} {otherFinal : Scene W}
    (concludes : scenario.Concludes script number last given ending final)
    (alike : scenario.Concludes script number last other otherEnding otherFinal) :
    given = other ∧ ending = otherEnding := by
  have answer := concludes.answered.symm.trans alike.answered
  simp only [Outcome.ok.injEq] at answer
  subst answer
  have noted := concludes.noted.symm.trans alike.noted
  exact ⟨rfl, (Prod.mk.inj noted).1⟩

variable (settled : scenario.Settles script number last result final)

include settled

theorem Settles.succeeded_iff :
    result = .ok .succeeded ↔ ∃ outcome,
      scenario.Concludes script number last (.ok outcome) (.ok ()) final ∧
        (script.actions.length : Int) < outcome.nextIndex.getD (last.index + 1) := by
  cases settled with
  | passed concludes beyond => exact ⟨fun _ => ⟨_, concludes, beyond⟩, fun _ => rfl⟩
  | failed concludes => grind [Concludes.unique]
  | unwritten concludes => grind [Concludes.unique]
  | unanswered unheld answered => grind [Concludes.of_answer]
  | hung answered => grind [Concludes.of_answer]
  | spent concludes within => grind [Concludes.unique]

theorem Settles.failed_iff (cause : StepFailure) :
    result = .ok (.failed cause) ↔
      scenario.Concludes script number last (.error cause) (.ok ()) final := by
  cases settled with
  | passed concludes beyond => grind [Concludes.unique]
  | failed concludes => grind [Concludes.unique]
  | unwritten concludes => grind [Concludes.unique]
  | unanswered unheld answered => grind [Concludes.of_answer]
  | hung answered => grind [Concludes.of_answer]
  | spent concludes within => grind [Concludes.unique]

theorem Settles.broken_iff (failure : Failure) :
    result = .failed failure ↔
      (∃ given fault, failure = .fault fault ∧
        scenario.Concludes script number last given (.failed failure) final) ∨
      (scenario.retrier.policy.budget? = none ∧ failure = Retrier.beyondScale ∧
        last.answer = .failed failure ∧ last.after = final) := by
  cases settled with
  | passed concludes beyond => grind [Concludes.unique, Concludes.of_answer]
  | failed concludes => grind [Concludes.unique, Concludes.of_answer]
  | unwritten concludes => grind [Concludes.unique, Concludes.of_answer]
  | unanswered unheld answered => grind [Concludes.of_answer]
  | hung answered => grind [Concludes.of_answer]
  | spent concludes within => grind [Concludes.unique, Concludes.of_answer]

end

/-! ## Runs -/

/-- How the visits of a run account for its result. -/
structure Accounts (scenario : Scenario W T) (script : Script) (row : Option Row)
    (number : Option Nat) (scene : Scene W) (visits : List (Visit W)) (result : Outcome RunState)
    (final : Scene W) : Prop where
  taken : ∀ visit ∈ visits, scenario.Takes script row visit
  first : ∀ visit ∈ visits.head?, visit.index = 1 ∧ visit.before = scene
  chained : visits.IsChain (scenario.Leads script number)
  idle : script.actions = [] → visits = [] ∧ result = .ok .succeeded ∧ final = scene
  succeeded : result = .ok .succeeded ↔ script.actions = [] ∨
    ∃ last ∈ visits.getLast?, ∃ outcome,
      scenario.Concludes script number last (.ok outcome) (.ok ()) final ∧
        (script.actions.length : Int) < outcome.nextIndex.getD (last.index + 1)
  failed : ∀ cause, result = .ok (.failed cause) ↔
    ∃ last ∈ visits.getLast?, scenario.Concludes script number last (.error cause) (.ok ()) final
  -- A run breaks off where an answer cannot be written down, or where there is none because the
  -- clock cannot hold the time that a step may take.
  broken : ∀ failure, result = .failed failure ↔
    ∃ last ∈ visits.getLast?,
      (∃ given fault, failure = .fault fault ∧
        scenario.Concludes script number last given (.failed failure) final) ∨
      (scenario.retrier.policy.budget? = none ∧ failure = Retrier.beyondScale ∧
        last.answer = .failed failure ∧ last.after = final)
  onward : ∀ target, result ≠ .failed (.branchBelowOne target)
  settled : ∀ pointer, result ≠ .ok (.running pointer)
  stalled : result = .stalled → visits.length = scenario.fuel ∨
    ∃ last ∈ visits.getLast?, last.answer = .stalled

theorem Course.accounts {scene final : Scene W} {visits : List (Visit W)}
    {result : Outcome RunState}
    (course : scenario.Course script row number scenario.fuel 1 scene visits result final) :
    scenario.Accounts script row number scene visits result final where
  taken := course.taken
  first := course.first
  chained := course.chained
  idle := by
    intro idle
    exact course.beyond_end (by simp [idle])
  succeeded := by
    rcases course.ending with
      ⟨rfl, within, rfl⟩ | ⟨rfl, beyond, rfl⟩ | ⟨last, reached, settled⟩
    · simpa using List.ne_nil_of_length_pos within
    · simpa using List.length_eq_zero_iff.mp (Nat.lt_one_iff.mp beyond)
    · have visited : script.actions ≠ [] := by
        intro idle
        simp [(course.beyond_end (by simp [idle])).1] at reached
      simp [settled.succeeded_iff, visited, reached]
  failed := by
    intro cause
    rcases course.ending with ⟨rfl, -, rfl⟩ | ⟨rfl, -, rfl⟩ | ⟨last, reached, settled⟩
    · simp
    · simp
    · simp [settled.failed_iff, reached]
  broken := by
    intro failure
    rcases course.ending with ⟨rfl, -, rfl⟩ | ⟨rfl, -, rfl⟩ | ⟨last, reached, settled⟩
    · simp
    · simp
    · simp [settled.broken_iff, reached]
  onward := by
    rintro target rfl
    rcases course.ending with ⟨-, -, stalled⟩ | ⟨-, -, succeeded⟩ | ⟨last, -, settled⟩
    · cases stalled
    · cases succeeded
    · rcases (settled.broken_iff _).mp rfl with ⟨_, _, fault, -⟩ | ⟨-, fault, -⟩ <;> cases fault
  settled := by
    rintro pointer rfl
    rcases course.ending with ⟨-, -, stalled⟩ | ⟨-, -, succeeded⟩ | ⟨last, -, settled⟩
    · cases stalled
    · cases succeeded
    · cases settled
  stalled := course.spent_fuel

/-- A check that leads to `target` if the element is there. -/
def checkRecord (target : Nat) : Table Datum :=
  [("index", .int 1), ("operation", .text "check"), ("page", .text "login"),
   ("element", .text "user"), ("condition", .text "present"), ("if_true_next", .int target),
   ("if_false_next", .int 1)]

def checkAction (target : Nat) : Action :=
  { header :=
      { index := 1, page := some "login", element := some "user", wait := none, timeout := none }
    value := none, operation := .check .present target 1 }

def checkDatum (target : Nat) : Datum :=
  .object [("test_id", .text "entry"), ("actions", .list [.object (checkRecord target)])]

def checkScript (target : Nat) : Script :=
  { test := "entry", actions := [checkAction target], assertions := [] }

theorem read_checkDatum {target : Nat}
    (parsed : Script.parseRecords operations (some (.list [.object (checkRecord target)])) =
      .ok [checkAction target]) :
    Script.ofDatum (checkDatum target) = .ok (checkScript target) := by
  have read : Script.readParts
      [("test_id", .text "entry"), ("actions", .list [.object (checkRecord target)])] =
        .ok ([checkAction target], []) :=
    Script.readParts_single rfl parsed rfl rfl
  rw [checkDatum, Script.ofDatum, read]
  rfl

end Scenario

def Outcome.isFault {A : Type} (outcome : Outcome A) (fault : Fault) : Bool :=
  match outcome with
  | .failed (.fault met) => met == fault
  | _ => false

theorem Outcome.eq_of_isFault {A : Type} {outcome : Outcome A} {fault : Fault}
    (met : outcome.isFault fault = true) : outcome = .failed (.fault fault) := by
  unfold isFault at met
  split at met
  · rw [eq_of_beq met]
  · cases met

end Rehearsal
