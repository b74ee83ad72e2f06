import Rehearsal.Proofs.Record.Targets
import Rehearsal.Proofs.Scenario.Ignoring

/-!
How elements are found and kept. What is kept of an element is read in one place only, where it is
looked up; all else that a step does is the same whatever is kept. So a relation between scenes that
lookups respect is respected by whole steps.
-/

set_option autoImplicit false

namespace Rehearsal

open Activity

variable {W T : Type}

/-- The scene after it has kept what was found. -/
def Scene.kept (resolved : Resolved) (scene : Scene W) : Scene W :=
  { scene with
    resolutions := scene.resolutions + 1
    handles := scene.handles.put resolved.page resolved.element resolved }

namespace Scenario

/-- The selector is that of one of the element's candidates, filled from the row. -/
def Names (scenario : Scenario W T) (page element : String) (row : Option Row)
    (candidate : Candidate) (selector : String) : Prop :=
  ∃ candidates, scenario.catalog.candidates page element = .ok candidates ∧
    candidate ∈ candidates ∧
    selector = Selector.build candidate.strategy (scenario.fill row candidate.value)

/-- What was found is the element that the row's own values name. -/
structure FoundFor (scenario : Scenario W T) (page element : String) (row : Option Row)
    (resolved : Resolved) : Prop where
  place : resolved.page = page ∧ resolved.element = element
  named : scenario.Names page element row resolved.candidate resolved.selector
  aimed : resolved.target.selector = resolved.selector

/-- A relation between scenes that at most differ in what they keep of elements. It survives all
that steps do for the row; only lookups may tell such scenes apart. -/
structure Bears (scenario : Scenario W T) (row : Option Row)
    (relation : Scene W -> Scene W -> Prop) : Prop where
  alike : ∀ scene other, relation scene other →
    other = scene.withFinds (other.handles, scene.resolutions)
  framed : ∀ scene other, relation scene other → ∀ changed : Scene W,
    changed.handles = scene.handles → changed.resolutions = scene.resolutions →
      relation changed (changed.withFinds (other.handles, scene.resolutions))
  kept : ∀ scene other, relation scene other → ∀ page element resolved,
    scenario.FoundFor page element row resolved → resolved.serial = scene.resolutions →
      relation (scene.kept resolved) (other.kept resolved)
  reloaded : ∀ page scene other, relation scene other →
    relation (scene.reloadPage page) (other.reloadPage page)
  dropped : ∀ scene other, relation scene other → relation scene.dropHandles other.dropHandles

/-- Related scenes keep the same of an element. -/
def AgreesAt (relation : Scene W -> Scene W -> Prop) (page element : String) : Prop :=
  ∀ scene other, relation scene other →
    other.handles.get? page element = scene.handles.get? page element

variable {scenario : Scenario W T} {row : Option Row} {relation : Scene W -> Scene W -> Prop}

theorem leads_named (page element : String) :
    (scenario.leads page element row).Yields fun leads => ∀ lead ∈ leads,
      scenario.Names page element row lead.candidate lead.selector ∧
        lead.target.selector = lead.selector := by
  refine yields_bind fun live => ?_
  cases known : scenario.catalog.candidates page element with
  | error failure => exact fun _ _ _ ran => by cases ran
  | ok candidates =>
    refine yields_pure fun lead member => ?_
    obtain ⟨candidate, listed, rfl⟩ := List.mem_map.mp member
    exact ⟨⟨candidates, known, listed, rfl⟩, rfl⟩

theorem foundFor_kept {page element : String} {lead : Lead} (serial : Nat)
    (named : scenario.Names page element row lead.candidate lead.selector)
    (aimed : lead.target.selector = lead.selector) (handle : Option Handle) (failed : Nat) :
    scenario.FoundFor page element row
      { serial, page, element, candidate := lead.candidate, selector := lead.selector
        target := lead.target.first, handle, failedCandidates := failed } :=
  ⟨⟨rfl, rfl⟩, named, aimed⟩

section

variable (bears : scenario.Bears row relation)

include bears

theorem respects_of_ignores {A : Type} {activity : Activity (Scene W) A}
    (ignores : activity.IgnoresFinds) : activity.Respects relation := by
  intro scene other related
  have same := ignores (other.handles, scene.resolutions) scene
  rw [← bears.alike scene other related] at same
  obtain ⟨handles, resolutions⟩ := ignores.keeps scene
  rw [same]
  exact ⟨rfl, bears.framed scene other related _ handles resolutions⟩

theorem reloadPage_respects (page : String) :
    (change (Scene.reloadPage page) : Activity (Scene W) Unit).Respects relation :=
  respects_change (bears.reloaded page)

theorem enter_respects (page : String) :
    (change (Scene.enter page) : Activity (Scene W) Unit).Respects relation :=
  respects_of_ignores bears (ignores_change fun _ _ => rfl)

theorem keep_respects {page element : String} {lead : Lead}
    (named : scenario.Names page element row lead.candidate lead.selector)
    (aimed : lead.target.selector = lead.selector) (handle : Option Handle) (failed : Nat) :
    (scenario.keep page element lead handle failed).Respects relation := by
  intro scene other related
  -- Both scenes give what is found the same number.
  have counted : other.resolutions = scene.resolutions := by
    rw [bears.alike scene other related]
    rfl
  unfold keep
  rw [counted]
  refine ⟨rfl, ?_⟩
  have kept := bears.kept scene other related page element _
    (foundFor_kept scene.resolutions named aimed handle failed) rfl
  rwa [Scene.kept, Scene.kept, counted] at kept

variable [Scale T]

theorem tryLeads_respects {page element : String} (timeout : T) {leads : List Lead}
    (named : ∀ lead ∈ leads, scenario.Names page element row lead.candidate lead.selector ∧
      lead.target.selector = lead.selector) (noted : List (String × String)) :
    (scenario.tryLeads page element timeout noted leads).Respects relation := by
  induction leads generalizing noted with
  | nil => exact respects_throw _
  | cons lead rest ih =>
    obtain ⟨first, later⟩ := List.forall_mem_cons.mp named
    have awaited : (scenario.awaitLead element timeout lead).attempt.IgnoresFinds :=
      ignores_attempt (awaitLead_ignores element timeout lead)
    refine respects_bind (respects_of_ignores bears awaited) fun tried => ?_
    cases tried with
    | ok handle => exact keep_respects bears first.1 first.2 handle _
    | error failure =>
      dsimp only
      split
      · exact respects_throw _
      · exact ih later _

theorem discover_respects (page element : String) (timeout : T) :
    (scenario.discover page element row timeout).Respects relation :=
  respects_bind_of_yields (respects_of_ignores bears (leads_ignores page element row))
    (leads_named page element) fun _ named => tryLeads_respects bears timeout named _

theorem resolve_respects {page element : String} (agrees : AgreesAt relation page element)
    (timeout : T) : (scenario.resolve page element row timeout).Respects relation := by
  refine respects_bind (respects_look agrees) fun known => ?_
  cases known with
  | some resolved => exact respects_pure _
  | none => exact discover_respects bears page element timeout

end

/-! ## Waiting -/

theorem testOf_ignores [Scale T] (scenario : Scenario W T) {condition : WaitCondition}
    (lasting : condition ≠ .stale) (page element : String) (row : Option Row) (timeout : T) :
    (scenario.testOf condition page element row timeout).IgnoresFinds ∧
      (scenario.testOf condition page element row timeout).Yields IgnoresFinds := by
  cases condition with
  | visible =>
    refine ⟨ignores_pure _, yields_pure (anyLead_ignores page element row ?_)⟩
    exact anyMatch_ignores isVisible_ignores
  | clickable =>
    refine ⟨ignores_pure _, yields_pure (anyLead_ignores page element row ?_)⟩
    exact anyMatch_ignores isClickable_ignores
  | present =>
    exact ⟨ignores_pure _, yields_pure (anyLead_ignores page element row hasMatch_ignores)⟩
  | invisible =>
    refine ⟨ignores_pure _, yields_pure (ignores_bind ?_ fun _ => ignores_pure _)⟩
    exact anyLead_ignores page element row (anyMatch_ignores isVisible_ignores)
  | stale => exact absurd rfl lasting
  | urlContains fragment => exact ⟨ignores_pure _, yields_pure (urlShows_ignores _)⟩
  | textPresent text =>
    refine ⟨ignores_pure _, yields_pure (anyLead_ignores page element row ?_)⟩
    exact anyMatch_ignores (showsText_ignores _)
  | custom script => exact ⟨ignores_pure _, yields_pure (scriptHolds_ignores _)⟩

end Scenario

/-- The record waits for its element to leave the page. -/
def Header.AwaitsLeaving (header : Header) : Prop :=
  ∃ wait, header.wait = some wait ∧ wait.condition = .stale

namespace Scenario

variable {scenario : Scenario W T} {row : Option Row} {relation : Scene W -> Scene W -> Prop}
  [Scale T] {header : Header}

/-- A wait reads what is kept of the element only where that has to leave. -/
theorem await_ignores (lasting : ¬ header.AwaitsLeaving) :
    (scenario.await header row).IgnoresFinds := by
  unfold Scenario.await
  split
  next => exact ignores_pure _
  next wait held =>
    have condition : wait.condition ≠ .stale := fun leaves => lasting ⟨wait, held, leaves⟩
    obtain ⟨chosen, tests⟩ := scenario.testOf_ignores condition (header.page.getD "")
      (header.element.getD "") row (scenario.effectiveTimeout header)
    exact ignores_bind_of_yields chosen tests fun _ tested => test_ignores tested

theorem await_of_leaving (leaving : header.AwaitsLeaving) :
    scenario.await header row = scenario.resolveFor header row >>= fun resolved =>
      (scenario.polling .waitTimeout (scenario.effectiveTimeout header)
        s!"wait 'stale' on {subjectOf header.element}").test scenario.clock scenario.fuel
          (scenario.isGone resolved.handle) := by
  obtain ⟨wait, held, leaves⟩ := leaving
  funext scene
  simp only [Scenario.await, held, leaves, testOf, bind_run, resolveFor]
  rcases scenario.resolve (header.page.getD "") (header.element.getD "") row
    (scenario.effectiveTimeout header) scene with ⟨_ | _ | _, last⟩ <;> rfl

theorem await_respects (bears : scenario.Bears row relation)
    (agrees : header.AwaitsLeaving →
      AgreesAt relation (header.page.getD "") (header.element.getD "")) :
    (scenario.await header row).Respects relation := by
  by_cases leaving : header.AwaitsLeaving
  · rw [await_of_leaving leaving]
    refine respects_bind (resolve_respects bears (agrees leaving) _) fun resolved => ?_
    exact respects_of_ignores bears (test_ignores (isGone_ignores _))
  · exact respects_of_ignores bears (await_ignores leaving)

end Scenario

end Rehearsal
