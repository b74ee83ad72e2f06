import Rehearsal.Scenario.Session

/-!
Looking for elements. The candidates of an element are tried in order, each until its time is up;
the first that matches is the one that is meant, and what was found is kept by page.
-/

set_option autoImplicit false

namespace Rehearsal.Scenario

variable {W T : Type}

/-- A candidate with its selector for a row, and where on the page that leads. -/
structure Lead where
  candidate : Candidate
  selector : String
  target : Target

def leads (scenario : Scenario W T) (page element : String) (row : Option Row) :
    Activity (Scene W) (List Lead) := do
  let live ← scenario.livePage
  let candidates ← Activity.ofExcept (scenario.catalog.candidates page element)
  return candidates.map fun candidate =>
    let selector := Selector.build candidate.strategy (scenario.fill row candidate.value)
    { candidate, selector, target := { page := live, selector, index := none } }

def hasMatch (scenario : Scenario W T) (target : Target) : Activity (Scene W) Bool := do
  return 0 < (← scenario.ask target .count)

variable [Scale T]

/-- Waits for a match of one candidate and takes a handle of the first. -/
def awaitLead (scenario : Scenario W T) (element : String) (timeout : T) (lead : Lead) :
    Activity (Scene W) (Option Handle) := do
  let polling := scenario.polling .waitTimeout timeout s!"{element} via {lead.selector}"
  polling.test scenario.clock scenario.fuel (scenario.hasMatch lead.target)
  scenario.ask lead.target.first .handle

def keep (_ : Scenario W T) (page element : String) (lead : Lead) (handle : Option Handle)
    (failed : Nat) : Activity (Scene W) Resolved := fun scene =>
  let resolved : Resolved :=
    { serial := scene.resolutions, page, element, candidate := lead.candidate
      selector := lead.selector, target := lead.target.first, handle, failedCandidates := failed }
  (.ok resolved, { scene with
    resolutions := scene.resolutions + 1
    handles := scene.handles.put page element resolved })

/-- Tries one candidate after the other. An unreachable session ends the search; any other
failure is noted, the latest last. -/
def tryLeads (scenario : Scenario W T) (page element : String) (timeout : T) :
    (noted : List (String × String)) -> List Lead -> Activity (Scene W) Resolved
  | noted, [] => throw (.notFound page element noted)
  | noted, lead :: rest => do
    match ← (scenario.awaitLead element timeout lead).attempt with
    | .ok handle => scenario.keep page element lead handle noted.length
    | .error failure =>
      if failure.kind? == some .sessionUnreachable then throw failure
      else tryLeads scenario page element timeout (noted ++ [(lead.selector, failure.message)]) rest

def discover (scenario : Scenario W T) (page element : String) (row : Option Row) (timeout : T) :
    Activity (Scene W) Resolved := do
  scenario.tryLeads page element timeout [] (← scenario.leads page element row)

/-- What is kept for an element, else what is found for it. -/
def resolve (scenario : Scenario W T) (page element : String) (row : Option Row) (timeout : T) :
    Activity (Scene W) Resolved := do
  match ← Activity.look fun scene => scene.handles.get? page element with
  | some resolved => return resolved
  | none => scenario.discover page element row timeout

def firstCount (scenario : Scenario W T) : List Lead -> Activity (Scene W) Nat
  | [] => return 0
  | lead :: rest => do
    let count ← scenario.ask lead.target .count
    if count == 0 then firstCount scenario rest else return count

/-- How many matches the first candidate that matches at all has right now. -/
def countMatches (scenario : Scenario W T) (page element : String) (row : Option Row) :
    Activity (Scene W) Nat := do
  scenario.firstCount (← scenario.leads page element row)

end Rehearsal.Scenario
