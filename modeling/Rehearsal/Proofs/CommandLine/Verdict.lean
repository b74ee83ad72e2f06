import Rehearsal.Proofs.Scenario.BrokerRequests
import Rehearsal.Proofs.Scenario.Confirming
import Rehearsal.Proofs.Scenario.LoggedSessions
import Rehearsal.Proofs.Scenario.Straying

/-!
Verdicts. A run that was started, rehearsed and closed tells whether the test passed, and what it
tells is right. There is no verdict where the run could not be started, where the rehearsal came to
a failure that is none of the library's own, or where the broker's clients could not be stopped.
-/

set_option autoImplicit false

namespace Rehearsal

open Activity

/-- The page that a run of the test begins on: the one asked for, or else the test's own. -/
def Test.pageFor (test : Test) (asked : Option String) : Option String :=
  if named asked then asked else test.startPage.filter fun page => !page.isEmpty

namespace Scenario

variable {W T : Type} (scenario : Scenario W T)

/-! ## Starts and closes -/

variable [Scale T]

def ArrivesAt : Option String -> Scene W -> Scene W -> Prop
  | none, before, after => after = before
  | some page, before, after => scenario.navigateTo page before = (.ok (), after)

/-- The run is started, it arrives at its page, the test is replayed and every check passes. -/
def Succeeds (name : String) (startPage : Option String) (policy : Option RowPolicy)
    (scene : Scene W) : Prop :=
  ∃ opened arrived replayed outcomes final,
    scenario.start scene = (.ok (), opened) ∧ scenario.ArrivesAt startPage opened arrived ∧
      scenario.executeTest name policy arrived = (.ok (), replayed) ∧
      scenario.assertTest name true replayed = (.ok outcomes, final)

def EndsInVerdict (name : String) (asked startPage : Option String) (policy : Option RowPolicy)
    (scene : Scene W) : Prop :=
  ∃ passed final, scenario.runToEnd name asked policy scene = (.ok passed, final) ∧
    (passed = true ↔ scenario.Succeeds name startPage policy scene)

/-- The grade of a rehearsal that passes, or comes to one of the library's own failures. -/
inductive Grades (name : String) (startPage : Option String) (policy : Option RowPolicy)
    (opened : Scene W) : Bool -> Scene W -> Prop where
  | passed {final : Scene W}
      (rehearsed : scenario.rehearse name startPage policy opened = (.ok (), final)) :
      Grades name startPage policy opened true final
  | failed {failure : Failure} {after final : Scene W}
      (rehearsed : scenario.rehearse name startPage policy opened = (.failed failure, after))
      (own : failure.IsOwn) (shot : scenario.failureScreenshot after = (.ok (), final)) :
      Grades name startPage policy opened false final

/-- The rehearsal never comes to an end. -/
def Hangs (name : String) (startPage : Option String) (policy : Option RowPolicy)
    (scene : Scene W) : Prop :=
  ∃ opened after, scenario.start scene = (.ok (), opened) ∧
    scenario.rehearse name startPage policy opened = (.stalled, after)

variable {scenario} {test : Test} {name : String} {asked startPage : Option String}
  {policy : Option RowPolicy} {scene opened : Scene W}

/-- What is left of a rehearsal where it has arrived at its page. -/
def replayAndCheck (scenario : Scenario W T) (name : String) (policy : Option RowPolicy) :
    Activity (Scene W) Unit := do
  scenario.executeTest name policy
  discard (scenario.assertTest name true)

theorem rehearse_of_arrival {arrived : Scene W}
    (arrives : scenario.ArrivesAt startPage opened arrived) :
    scenario.rehearse name startPage policy opened = scenario.replayAndCheck name policy arrived := by
  cases startPage with
  | none =>
    cases arrives
    rfl
  | some page =>
    have navigated : scenario.navigateTo page opened = (.ok (), arrived) := arrives
    refine (bind_run ..).trans ?_
    rw [navigated]
    rfl

theorem rehearse_passes_iff {final : Scene W} :
    scenario.rehearse name startPage policy opened = (.ok (), final) ↔
      ∃ arrived replayed outcomes, scenario.ArrivesAt startPage opened arrived ∧
        scenario.executeTest name policy arrived = (.ok (), replayed) ∧
        scenario.assertTest name true replayed = (.ok outcomes, final) := by
  constructor
  · intro rehearsed
    have arrival : ∃ arrived, scenario.ArrivesAt startPage opened arrived := by
      cases startPage with
      | none => exact ⟨opened, rfl⟩
      | some page =>
        obtain ⟨_, arrived, navigated, -⟩ := (bind_ok ..).mp rehearsed
        exact ⟨arrived, navigated⟩
    obtain ⟨arrived, arrives⟩ := arrival
    rw [rehearse_of_arrival arrives] at rehearsed
    obtain ⟨_, replayed, executed, checked⟩ := (bind_ok ..).mp rehearsed
    obtain ⟨outcomes, _, asserted, ⟨⟩⟩ := (bind_ok ..).mp checked
    exact ⟨arrived, replayed, outcomes, arrives, executed, asserted⟩
  · rintro ⟨arrived, replayed, outcomes, arrives, executed, asserted⟩
    rw [rehearse_of_arrival arrives]
    refine (bind_ok ..).mpr ⟨(), replayed, executed, ?_⟩
    exact (bind_ok ..).mpr ⟨outcomes, final, asserted, rfl⟩

theorem rehearse_breaks {arrived after : Scene W} {failure : Failure}
    (arrives : scenario.ArrivesAt startPage opened arrived)
    (executed : scenario.executeTest name policy arrived = (.failed failure, after)) :
    scenario.rehearse name startPage policy opened = (.failed failure, after) := by
  rw [rehearse_of_arrival arrives, replayAndCheck, bind_run, executed]

theorem Grades.passed_iff {passed : Bool} {final : Scene W}
    (started : scenario.start scene = (.ok (), opened))
    (grades : scenario.Grades name startPage policy opened passed final) :
    passed = true ↔ scenario.Succeeds name startPage policy scene := by
  cases grades with
  | passed rehearsed =>
    obtain ⟨arrived, replayed, outcomes, rest⟩ := rehearse_passes_iff.mp rehearsed
    exact iff_of_true rfl ⟨opened, arrived, replayed, outcomes, final, started, rest⟩
  | failed rehearsed own shot =>
    refine iff_of_false nofun ?_
    rintro ⟨_, arrived, replayed, outcomes, last, begun, rest⟩
    cases started.symm.trans begun
    have passes := rehearse_passes_iff.mpr ⟨arrived, replayed, outcomes, rest⟩
    cases rehearsed.symm.trans passes

section

variable (found : scenario.catalog.test name = .ok test)

include found

theorem verdict_ok_iff {passed : Bool} {final : Scene W} :
    scenario.verdict name asked policy opened = (.ok passed, final) ↔
      scenario.Grades name (test.pageFor asked) policy opened passed final := by
  have begins : scenario.startPageOf name asked = .ok (test.pageFor asked) := by
    unfold startPageOf Test.pageFor
    split
    · rfl
    · rw [found]
      rfl
  unfold verdict
  rw [begins, ofExcept_ok_bind, bind_run, attempt_run]
  rcases ran : scenario.rehearse name (test.pageFor asked) policy opened with
    ⟨_ | failure | _, after⟩
  · constructor
    · rintro ⟨⟩
      exact .passed ran
    · intro grades
      cases grades with
      | passed rehearsed =>
        cases ran.symm.trans rehearsed
        rfl
      | failed rehearsed => cases ran.symm.trans rehearsed
  · dsimp only
    split
    next own =>
      refine (bind_ok ..).trans ⟨?_, fun grades => ?_⟩
      · rintro ⟨_, _, shot, ⟨⟩⟩
        exact .failed ran own shot
      · cases grades with
        | passed rehearsed => cases ran.symm.trans rehearsed
        | failed rehearsed _ shot =>
          cases ran.symm.trans rehearsed
          exact ⟨(), final, shot, rfl⟩
    next foreign =>
      refine iff_of_false nofun fun grades => ?_
      cases grades with
      | passed rehearsed => cases ran.symm.trans rehearsed
      | failed rehearsed own =>
        cases ran.symm.trans rehearsed
        exact foreign own
  · refine iff_of_false nofun fun grades => ?_
    cases grades with
    | passed rehearsed | failed rehearsed => cases ran.symm.trans rehearsed

theorem runToEnd_ok_iff {passed : Bool} {final : Scene W} :
    scenario.runToEnd name asked policy scene = (.ok passed, final) ↔
      ∃ opened judged, scenario.start scene = (.ok (), opened) ∧
        scenario.Grades name (test.pageFor asked) policy opened passed judged ∧
        scenario.close judged = (.ok (), final) := by
  unfold runToEnd
  rw [bind_ok]
  constructor
  · rintro ⟨_, opened, started, rest⟩
    obtain ⟨result, judged, tried, rest⟩ := (bind_ok ..).mp rest
    obtain ⟨_, _, closed, rest⟩ := (bind_ok ..).mp rest
    cases result with
    | error failure => cases rest
    | ok verdict =>
      cases rest
      refine ⟨opened, judged, started, (verdict_ok_iff found).mp ?_, closed⟩
      rw [attempt_run] at tried
      rcases ran : scenario.verdict name asked policy opened with ⟨_ | _ | _, _⟩ <;>
        rw [ran] at tried <;> cases tried
      rfl
  · rintro ⟨opened, judged, started, grades, closed⟩
    refine ⟨(), opened, started, (bind_ok ..).mpr ⟨.ok passed, judged, ?_, ?_⟩⟩
    · rw [attempt_run, (verdict_ok_iff found).mpr grades]
    · exact (bind_ok ..).mpr ⟨(), final, closed, rfl⟩

/-- A failure that is none of the library's own, in the reset before any row, leaves no verdict. -/
theorem unready_row_has_no_verdict {rows : List Row} (dataset : test.rows = some rows)
    {arrived final : Scene W} {turns : List (Turn W)} {failure : Failure}
    (started : scenario.start scene = (.ok (), opened))
    (arrives : scenario.ArrivesAt (test.pageFor asked) opened arrived)
    (replays : scenario.Replays test (policy.getD scenario.settings.onRowFailure) 1 rows arrived
      turns (.unready failure) final) (foreign : ¬ failure.IsOwn) :
    ¬ scenario.EndsInVerdict name asked (test.pageFor asked) policy scene := by
  rintro ⟨passed, last, ran, -⟩
  obtain ⟨_, judged, begun, grades, -⟩ := (runToEnd_ok_iff found).mp ran
  cases started.symm.trans begun
  have broke := rehearse_breaks arrives (executeTest_of_replay found dataset policy replays)
  cases grades with
  | passed rehearsed => cases rehearsed.symm.trans broke
  | failed rehearsed own =>
    cases rehearsed.symm.trans broke
    exact foreign own

theorem Grades.unique {passed other : Bool} {final last : Scene W}
    (grades : scenario.Grades name (test.pageFor asked) policy opened passed final)
    (alike : scenario.Grades name (test.pageFor asked) policy opened other last) :
    passed = other ∧ final = last := by
  have same := ((verdict_ok_iff found).mpr grades).symm.trans ((verdict_ok_iff found).mpr alike)
  simpa using same

end

/-! ## Runs of one check -/

end Scenario

end Rehearsal
