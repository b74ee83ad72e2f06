import Rehearsal.Failure

/-!
What a failure rests on: itself, its cause, the failures of the rows, and so on down to the first
error. Errors of the configuration are only to be found there if somebody raised one.
-/

set_option autoImplicit false

namespace Rehearsal.Failure

def grounds : Failure -> List Failure
  | .dataset _ _ failures => failures
  | failure => failure.cause?.toList

inductive RestsOn : Failure -> Failure -> Prop where
  | itself (failure : Failure) : RestsOn failure failure
  | ground {failure ground origin : Failure} (member : ground ∈ failure.grounds)
      (deeper : RestsOn ground origin) : RestsOn failure origin

/-- It rests on no error of the configuration, other than those that are excused. -/
def Excusable (excused : Failure -> Prop) (failure : Failure) : Prop :=
  ∀ origin, failure.RestsOn origin → origin.isConfiguration = true → excused origin

variable {excused : Failure -> Prop} {failure : Failure}

theorem Excusable.mono {more : Failure -> Prop} (excusable : failure.Excusable excused)
    (implied : ∀ origin, excused origin → more origin) : failure.Excusable more :=
  fun origin rests wrong => implied origin (excusable origin rests wrong)

theorem excusable_of_grounds (plain : failure.isConfiguration = true → excused failure)
    (grounded : ∀ ground ∈ failure.grounds, ground.Excusable excused) :
    failure.Excusable excused := by
  intro origin rests wrong
  cases rests with
  | itself => exact plain wrong
  | ground member deeper => exact grounded _ member origin deeper wrong

theorem excusable_plain (plain : failure.isConfiguration = false) (first : failure.grounds = []) :
    failure.Excusable excused :=
  excusable_of_grounds (fun wrong => by cases plain.symm.trans wrong) (by simp [first])

end Rehearsal.Failure

namespace Rehearsal

variable {excused : Failure -> Prop}

theorem StepFailure.excusable {failure : StepFailure} (cause : failure.cause.Excusable excused) :
    failure.toFailure.Excusable excused := by
  refine Failure.excusable_of_grounds nofun ?_
  simpa [toFailure, Failure.grounds, Failure.cause?] using cause

theorem ScriptFailure.excusable {failure : ScriptFailure}
    (step : failure.step.cause.Excusable excused) : failure.toFailure.Excusable excused := by
  refine Failure.excusable_of_grounds nofun ?_
  simpa [toFailure, Failure.grounds, Failure.cause?] using StepFailure.excusable step

theorem DatasetFailure.excusable {failure : DatasetFailure}
    (rows : ∀ row ∈ failure.failures, row.step.cause.Excusable excused) :
    failure.toFailure.Excusable excused := by
  refine Failure.excusable_of_grounds nofun ?_
  intro ground member
  simp only [toFailure, Failure.grounds, List.mem_map] at member
  obtain ⟨row, among, rfl⟩ := member
  exact ScriptFailure.excusable (rows row among)

end Rehearsal
