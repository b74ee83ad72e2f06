import Rehearsal.Proofs.Scenario.Executions
import Rehearsal.Proofs.Scenario.References

/-!
Sessions with an event log. A scenario that was started serves requests one after the other, and its
log gets one event for each execution, numbered from one, unless there is one that cannot be written.
-/

set_option autoImplicit false

namespace Rehearsal

/-- What a scenario is asked for, once it was started. -/
inductive Request where
  | visit (page : String)
  | replay (name : String) (asked : Option RowPolicy)
  | check (name : String) (perRow : Bool)

namespace Request

def test? : Request -> Option String
  | .visit _ => none
  | .replay name _ | .check name _ => some name

end Request

namespace Scenario

open Activity

variable {W T : Type} [Scale T] (scenario : Scenario W T)

def serve : Request -> Activity (Scene W) Unit
  | .visit page => scenario.navigateTo page
  | .replay name asked => scenario.executeTest name asked
  | .check name perRow => discard (scenario.assertTest name perRow)

/-- What is executed for a request: a list for each run of a script, and one for the checks. -/
inductive Serves : Request -> Scene W -> List (List (Execution W)) -> Scene W -> Prop where
  | visited {page : String} {scene : Scene W} :
      Serves (.visit page) scene [] (scenario.navigateTo page scene).2
  | unknown {request : Request} {name : String} {failure : Failure} {scene : Scene W}
      (about : request.test? = some name) (unknown : scenario.catalog.test name = .error failure) :
      Serves request scene [] scene
  | single {name : String} {asked : Option RowPolicy} {test : Test} {scene final : Scene W}
      {visits : List (Visit W)} {result : Outcome RunState}
      (found : scenario.catalog.test name = .ok test) (undriven : test.rows = none)
      (course : scenario.Course test.script none none scenario.fuel 1 scene visits result final) :
      Serves (.replay name asked) scene [visits.map (Visit.execution test.script none none)] final
  | replayed {name : String} {asked : Option RowPolicy} {test : Test} {rows : List Row}
      {scene final : Scene W} {tours : List (Tour W)} {finish : Finish}
      (found : scenario.catalog.test name = .ok test) (dataset : test.rows = some rows)
      (replays : scenario.Replays test (asked.getD scenario.settings.onRowFailure) 1 rows scene
        (tours.map (·.turn)) finish final)
      (toured : ∀ tour ∈ tours, scenario.Tours test tour) :
      Serves (.replay name asked) scene (tours.map (·.executions test)) final
  | checked {name : String} {perRow : Bool} {test : Test} {scene final : Scene W}
      {checks : List (Check W)} {ending : Outcome Unit}
      (found : scenario.catalog.test name = .ok test)
      (ran : scenario.Checks test.script.test (test.dueChecks perRow) scene checks ending final) :
      Serves (.check name perRow) scene [checks.map (Check.execution test.script.test)] final

/-- The requests of a session, one after the other. One that never ends is the last. -/
inductive Session : List Request -> Scene W -> List (List (Execution W)) -> Scene W -> Prop where
  | done {scene : Scene W} : Session [] scene [] scene
  | served {request : Request} {rest : List Request} {scene between final : Scene W}
      {runs later : List (List (Execution W))} {outcome : Outcome Unit}
      (ran : scenario.serve request scene = (outcome, between)) (ended : outcome ≠ .stalled)
      (serves : scenario.Serves request scene runs between)
      (onward : Session rest between later final) :
      Session (request :: rest) scene (runs ++ later) final
  | hung {request : Request} {rest : List Request} {scene final : Scene W}
      {runs : List (List (Execution W))}
      (ran : scenario.serve request scene = (.stalled, final))
      (serves : scenario.Serves request scene runs final) :
      Session (request :: rest) scene runs final

variable {scenario}

/-! ## Every session has its executions -/

section

variable (numbered : ∀ name test, scenario.catalog.test name = .ok test →
  test.script.WellNumbered)

include numbered

end

/-! ## What a session logs -/

theorem Serves.executes {request : Request} {scene final : Scene W}
    {runs : List (List (Execution W))} (serves : scenario.Serves request scene runs final) :
    ∀ run ∈ runs, (∀ execution ∈ run, scenario.Executes execution) ∧
      ∀ execution ∈ run.dropLast, execution.Passed := by
  cases serves with
  | visited | unknown => simp
  | single found undriven course =>
    exact List.forall_mem_singleton.mpr ⟨course.executes, course.passes_dropLast⟩
  | replayed found dataset replays toured =>
    exact List.forall_mem_map.mpr fun tour member =>
      ⟨(toured tour member).executes, (toured tour member).passes_dropLast⟩
  | checked found ran =>
    exact List.forall_mem_singleton.mpr ⟨ran.executes, ran.passes_dropLast⟩

theorem Session.executes {requests : List Request} {scene final : Scene W}
    {runs : List (List (Execution W))} (session : scenario.Session requests scene runs final) :
    ∀ run ∈ runs, (∀ execution ∈ run, scenario.Executes execution) ∧
      ∀ execution ∈ run.dropLast, execution.Passed := by
  induction session with
  | done => simp
  | served ran ended serves onward ih =>
    exact List.forall_mem_append.mpr ⟨serves.executes, ih⟩
  | hung ran serves => exact serves.executes

section

variable (listens : scenario.onRestart = [Scene.dropHandles])

include listens

theorem navigateTo_keeps_ledger (page : String) :
    (scenario.navigateTo page).Keeps Scene.ledger := by
  refine keeps_bind (retry_keeps_ledger listens _ (.visit page)) fun result => ?_
  cases result with
  | ok _ => exact keeps_pure _
  | error failure => exact keeps_throw _

theorem Serves.logs {request : Request} {scene final : Scene W}
    {runs : List (List (Execution W))} (serves : scenario.Serves request scene runs final) :
    Logs scene (eventsOf runs.flatten) final := by
  cases serves with
  | visited => exact logs_nothing (navigateTo_keeps_ledger listens _ scene)
  | unknown => exact logs_nothing rfl
  | single found undriven course => simpa using course.logs listens
  | @replayed _ _ test _ _ _ tours _ found dataset replays toured =>
    have logged := replays.logs listens rfl toured
    rwa [List.flatMap_def] at logged
  | checked found ran => simpa using ran.logs listens

theorem Session.logs {requests : List Request} {scene final : Scene W}
    {runs : List (List (Execution W))} (session : scenario.Session requests scene runs final) :
    Logs scene (eventsOf runs.flatten) final := by
  induction session with
  | done => exact logs_nothing rfl
  | served ran ended serves onward ih =>
    have logged := (serves.logs listens).trans ih
    rwa [← eventsOf_append, ← List.flatten_append] at logged
  | hung ran serves => exact serves.logs listens

end

/-! ## Faithful logs -/

def fresh : Scene (Unit × List (Called Rat)) := Scene.opening ((), []) (Files.empty "/")

end Scenario

end Rehearsal
