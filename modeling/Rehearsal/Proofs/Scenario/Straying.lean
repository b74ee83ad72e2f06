import Rehearsal.CommandLine.Run
import Rehearsal.Proofs.Scenario.Logging
import Rehearsal.Proofs.Scenario.Raising

/-!
Failures that go astray. A verdict is given for failures of the library's own kinds. In a rehearsal
almost all are: what a step meets is kept in the step's own failure, and what a row or a check comes
to in the failure of its test. The others come from what stands outside of the retried steps: their
time limit, the event log, and the page that is opened before a row.
-/

set_option autoImplicit false

namespace Rehearsal

open Activity

def Failure.IsOwn (failure : Failure) : Prop := failure.kind?.isSome = true

/-- An event of one of a script's records. -/
def Script.Reports (script : Script) (event : Event) : Prop :=
  event.test = script.test ∧
    event.record ∈ script.actions.map (·.payload) ++ script.assertions.map (·.payload)

namespace Scenario

variable {W T : Type} [Scale T] (scenario : Scenario W T)

/-- Failures that are not the library's own and still come out of the rehearsal of a test. -/
inductive Strays (test : Test) : Failure -> Prop where
  | beyondScale (unheld : scenario.retrier.policy.budget? = none) :
      Strays test Retrier.beyondScale
  | unwritten {event : Event} {step : Nat} (logs : scenario.settings.eventLog = true)
      (reports : test.script.Reports event)
      (unwritable : event.isWritable scenario.run step = false) :
      Strays test (.fault Fault.oversizedInt)
  | unloaded {page : String} {failure : Failure} (resets : test.resetsSession = true)
      (dataset : test.rows ≠ none) (starts : test.startPage = some page)
      (unloaded : scenario.Unloaded page failure) : Strays test failure

variable {scenario} {test : Test} {raises : Failure -> Prop}

/-! ## Steps and what is written of them -/

section

variable (listens : scenario.onRestart = [Scene.dropHandles])

include listens

variable {name : String} (found : scenario.catalog.test name = .ok test)

include found

end

end Scenario

end Rehearsal
