import Rehearsal.Proofs.Scenario.Lasting
import Rehearsal.Proofs.World.CallLog

/-!
Finds are fresh. An attempt at a record that names an element forgets the page once its wait is
over; what it then acts on or looks at it has found on the page as it is, for the row of the
attempt. What was kept before, by other attempts or by the wait itself, makes no difference to it.
-/

set_option autoImplicit false

namespace Rehearsal

open Activity

variable {W T : Type}

/-- Scenes that are the same but for what they keep of elements. -/
def Scene.Alike (scene other : Scene W) : Prop :=
  ∃ handles, other = scene.withFinds (handles, scene.resolutions)

namespace Scenario

variable {scenario : Scenario W T} {row : Option Row}

theorem alike_bears (scenario : Scenario W T) (row : Option Row) :
    scenario.Bears row Scene.Alike where
  alike := by
    rintro scene _ ⟨handles, rfl⟩
    rfl
  framed := by
    rintro scene other - changed - resolutions
    exact ⟨other.handles, by rw [resolutions]⟩
  kept := by
    rintro scene _ ⟨handles, rfl⟩ page element resolved - -
    exact ⟨handles.put resolved.page resolved.element resolved, rfl⟩
  reloaded := by
    rintro page scene _ ⟨handles, rfl⟩
    exact ⟨handles.invalidate page, rfl⟩
  dropped := by
    rintro scene _ ⟨handles, rfl⟩
    exact ⟨.empty, rfl⟩

variable [Scale T]

/-- The browser was asked for what was found after the scene `before`, and `after` is the scene in
which it is kept, under a number that none before it has. -/
structure FoundLive (scenario : Scenario W T) (page element : String) (row : Option Row)
    (timeout : T) (resolved : Resolved) (before after : Scene W) : Prop where
  found : scenario.FoundFor page element row resolved
  asked : ∃ lead asking answered, lead.target.first = resolved.target ∧
    scenario.awaitLead element timeout lead asking = (.ok resolved.handle, answered) ∧
    after = answered.kept resolved
  numbered : before.resolutions ≤ resolved.serial ∧ resolved.serial < after.resolutions

theorem tryLeads_live {page element : String} {timeout : T} {leads : List Lead}
    (named : ∀ lead ∈ leads, scenario.Names page element row lead.candidate lead.selector ∧
      lead.target.selector = lead.selector) {noted : List (String × String)}
    {before after : Scene W} {resolved : Resolved}
    (ran : scenario.tryLeads page element timeout noted leads before = (.ok resolved, after)) :
    scenario.FoundLive page element row timeout resolved before after := by
  induction leads generalizing noted before with
  | nil => cases ran
  | cons lead rest ih =>
    obtain ⟨first, later⟩ := List.forall_mem_cons.mp named
    have ignores : (scenario.awaitLead element timeout lead).IgnoresFinds :=
      awaitLead_ignores element timeout lead
    rw [tryLeads, bind_run, attempt] at ran
    rcases asked : scenario.awaitLead element timeout lead before
      with ⟨handle | failure | _, answered⟩
    all_goals
      have counted := (ignores.keeps before).2
      rw [asked] at ran counted
    · cases ran
      refine ⟨foundFor_kept _ first.1 first.2 _ _, ⟨lead, before, answered, rfl, asked, rfl⟩, ?_⟩
      exact ⟨Nat.le_of_eq counted.symm, Nat.lt_succ_self _⟩
    · -- The search goes on in a scene that keeps the same, so it is as if it began there.
      dsimp only at ran
      split at ran
      · cases ran
      · have found := ih later ran
        exact ⟨found.found, found.asked, counted ▸ found.numbered.1, found.numbered.2⟩
    · cases ran

theorem discover_live {page element : String} {timeout : T} {before after : Scene W}
    {resolved : Resolved}
    (ran : scenario.discover page element row timeout before = (.ok resolved, after)) :
    scenario.FoundLive page element row timeout resolved before after := by
  obtain ⟨leads, between, listed, tried⟩ := (bind_ok ..).mp ran
  have ignores : (scenario.leads page element row).IgnoresFinds := leads_ignores page element row
  have counted := (ignores.keeps before).2
  rw [listed] at counted
  have found := tryLeads_live (leads_named page element _ _ _ listed) tried
  exact ⟨found.found, found.asked, counted ▸ found.numbered.1, found.numbered.2⟩

/-- The attempt at a record waits, forgets the page, and takes a step. If the step goes by the
element of the record, it goes by what it looks for then and there; and it never makes a difference
to the step what was kept of elements when the wait was over. -/
def ActsAfresh (scenario : Scenario W T) (header : Header) (row : Option Row)
    (goesByElement : Bool) (attempt : Activity (Scene W) StepOutcome) : Prop :=
  ∃ step, attempt = (scenario.await header row >>= fun _ =>
      change (Scene.reloadPage (header.page.getD "")) >>= fun _ => step) ∧
    step.Respects Scene.Alike ∧
    (goesByElement = true → GoesBy Scene.Alike (scenario.discover (header.page.getD "")
      (header.element.getD "") row (scenario.effectiveTimeout header)) step)

/-- What an attempt finds for its step, once its wait is over, was found in the attempt itself; it
is none of what was kept by then. -/
def FindsAfresh (scenario : Scenario W T) (header : Header) (row : Option Row)
    (began : Scene W) : Prop :=
  ∀ waited resolved after, scenario.await header row began = (.ok (), waited) →
    scenario.discover (header.page.getD "") (header.element.getD "") row
      (scenario.effectiveTimeout header) (waited.reloadPage (header.page.getD "")) =
        (.ok resolved, after) →
    scenario.FoundLive (header.page.getD "") (header.element.getD "") row
      (scenario.effectiveTimeout header) resolved waited after ∧
    (began.Numbered → ∀ page element kept, waited.handles.get? page element = some kept →
      kept.serial < resolved.serial)

/-! ## Attempts -/

theorem resolve_of_forgotten {page element : String} {timeout : T} {scene : Scene W}
    (forgotten : scene.handles.get? page element = none) :
    scenario.resolve page element row timeout scene =
      scenario.discover page element row timeout scene := by
  simp only [resolve, bind_run, look_run, forgotten]

section

variable {header : Header} (targeted : header.hasTarget = true)
  {step : Activity (Scene W) StepOutcome}

include targeted

theorem prepared_run :
    scenario.prepared header row step = (scenario.await header row >>= fun _ =>
      change (Scene.reloadPage (header.page.getD "")) >>= fun _ => step) := by
  simp only [prepared, targeted, if_true]

theorem prepared_actsAfresh (goes : GoesBy Scene.Alike (scenario.resolveFor header row) step) :
    scenario.ActsAfresh header row true (scenario.prepared header row step) := by
  obtain ⟨plan, plans, rfl⟩ := goes
  have bears := scenario.alike_bears row
  refine ⟨_, ?_, plans.respects bears (discover_respects bears _ _ _), fun _ => ⟨plan, plans, rfl⟩⟩
  rw [prepared_run targeted]
  funext scene
  rw [bind_run, bind_run]
  rcases scenario.await header row scene with ⟨_ | _ | _, waited⟩
  · -- Nothing is kept of the page any more, so the lookup is a search.
    simp only [change_bind_run]
    refine plans.congr (resolve_of_forgotten ?_)
    rw [Scene.reloadPage, HandleTable.get?_invalidate]
    simp
  · rfl
  · rfl

theorem prepared_actsAfresh_of_apart (apart : step.Respects Scene.Alike) :
    scenario.ActsAfresh header row false (scenario.prepared header row step) :=
  ⟨step, prepared_run targeted, apart, nofun⟩

end

theorem takeAction_actsAfresh {action : Action} (targeted : action.header.hasTarget = true) :
    scenario.ActsAfresh action.header row action.goesByElement
      (scenario.takeAction action row) := by
  have bears := scenario.alike_bears row
  cases goes : action.goesByElement with
  | true => exact prepared_actsAfresh targeted (perform_goesBy bears goes)
  | false => exact prepared_actsAfresh_of_apart targeted (perform_respects_of_apart bears goes)

theorem takeAssertion_actsAfresh {assertion : Assertion}
    (targeted : assertion.header.hasTarget = true) :
    scenario.ActsAfresh assertion.header row assertion.aspect.isOfElement
      (scenario.takeAssertion assertion row) := by
  have bears := scenario.alike_bears row
  cases goes : assertion.aspect.isOfElement with
  | true => exact prepared_actsAfresh targeted (judge_goesBy bears goes)
  | false => exact prepared_actsAfresh_of_apart targeted (judge_respects_of_apart bears goes)

theorem findsAfresh (scenario : Scenario W T) (header : Header) (row : Option Row)
    (began : Scene W) : scenario.FindsAfresh header row began := by
  intro waited resolved after met searched
  have live := discover_live searched
  refine ⟨⟨live.found, live.asked, live.numbered⟩, fun numbered page element kept held => ?_⟩
  have awaits : (scenario.await header row).Ensures Scene.Numbered _ :=
    ensures_of_respects (await_lasts numbered_lasts header)
  have still := (awaits.of_run numbered met).1
  exact Nat.lt_of_lt_of_le (still page element kept held) live.numbered.1

/-! ## Runs -/

/-- Whatever a run begins with, each of its attempts acts afresh; and to count matches has nothing
to do with what is kept, be it by looking or by keeping. -/
theorem attempts_act_afresh {scenario : Scenario W T}
    (listens : scenario.onRestart = [Scene.dropHandles]) (script : Script) (row : Option Row)
    (number : Option Nat) (scene : Scene W) :
    (∀ action count began,
      scenario.RunBegins script row number action count began scenario.fuel 0 scene →
      action.header.hasTarget = true →
        scenario.ActsAfresh action.header row action.goesByElement
          (scenario.takeAction action row) ∧
        scenario.FindsAfresh action.header row began ∧ (scene.Numbered → began.Numbered)) ∧
    (∀ assertion count began,
      scenario.CheckBegins script.test row number assertion count began script.assertions scene →
      assertion.header.hasTarget = true →
        scenario.ActsAfresh assertion.header row assertion.aspect.isOfElement
          (scenario.takeAssertion assertion row) ∧
        scenario.FindsAfresh assertion.header row began ∧ (scene.Numbered → began.Numbered)) ∧
    ∀ page element, (scenario.countMatches page element row).IgnoresFinds := by
  refine ⟨?_, ?_, fun page element => countMatches_ignores page element row⟩
  · intro action count began begins targeted
    exact ⟨takeAction_actsAfresh targeted, scenario.findsAfresh action.header row began,
      begins.keeps numbered_lasts listens⟩
  · intro assertion count began begins targeted
    exact ⟨takeAssertion_actsAfresh targeted, scenario.findsAfresh assertion.header row began,
      begins.keeps numbered_lasts listens⟩

/-! ## A run over a page that something is kept of -/

/-- Once the element that is known has left the page, the one in its place is hovered over. -/
def hoverAction : Action :=
  { header :=
      { index := 1, page := some "login", element := some "user"
        wait := some { condition := .stale, timeout := none }, timeout := none }
    value := none, operation := .hover }

def hoverScript : Script := { test := "entry", actions := [hoverAction], assertions := [] }

def userKept : Resolved :=
  { serial := 0, page := "login", element := "user"
    candidate := { ordinal := 0, strategy := .id, value := "user" }
    selector := onePageTarget.selector, target := onePageTarget.first, handle := none
    failedCandidates := 0 }

def userKeptOpen : Scene (Unit × List (Called Rat)) := onePageOpen.kept userKept

/-- The wait goes by what was kept, and the step by what it finds. -/
theorem hover_acts_afresh :
    let scenario := onePage World.willing
    let began := noteAttempts 1 userKeptOpen
    scenario.RunBegins hoverScript none none hoverAction 1 began scenario.fuel 0 userKeptOpen ∧
      scenario.ActsAfresh hoverAction.header none true (scenario.takeAction hoverAction none) ∧
      scenario.FindsAfresh hoverAction.header none began ∧ began.Numbered ∧
      ∃ outcome last, scenario.takeAction hoverAction none began = (.ok outcome, last) ∧
        outcome.resolved.map Resolved.serial = some 1 := by
  intro scenario began
  have begins : scenario.RunBegins hoverScript none none hoverAction 1 began scenario.fuel 0
      userKeptOpen :=
    .here rfl ⟨_, [], userKeptOpen, rfl, .none, by decide, rfl, rfl⟩
  have numbered : userKeptOpen.Numbered := by
    intro page element kept held
    rcases HandleTable.get?_put_cases held with ⟨-, -, rfl⟩ | before
    · decide
    · cases before
  have listens : scenario.onRestart = [Scene.dropHandles] := rfl
  obtain ⟨attempts, -⟩ := attempts_act_afresh listens hoverScript none none userKeptOpen
  obtain ⟨acts, finds, keeps⟩ := attempts hoverAction 1 began begins rfl
  exact ⟨begins, acts, finds, keeps numbered, _, _, rfl, rfl⟩

end Scenario

end Rehearsal
