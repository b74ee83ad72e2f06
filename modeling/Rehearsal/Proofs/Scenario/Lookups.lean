import Rehearsal.Proofs.Activity.Sequence
import Rehearsal.Proofs.Catalog.References
import Rehearsal.Scenario.Replay

/-!
What a run looks up. Of the elements of a catalog it sees only those that the records of its test
seek: whatever another catalog says of all others, down to the probes whose errors a timeout hides,
a run over it is the same.
-/

set_option autoImplicit false

namespace Rehearsal

/-- Catalogs that a test cannot tell apart. -/
structure Catalog.AgreesFor (catalog other : Catalog) (test : Test) : Prop where
  params : other.params = catalog.params
  paths : ∀ page, other.pagePath page = catalog.pagePath page
  elements : ∀ page element, test.Seeks page element →
    other.candidates page element = catalog.candidates page element

namespace Scenario

variable {W T : Type}

/-- The scenario with other pages and tests. -/
def recast (scenario : Scenario W T) (pages : Table Page) (tests : Table Test) : Scenario W T :=
  { scenario with catalog := { pages, tests, params := scenario.catalog.params } }

variable {scenario : Scenario W T} {pages : Table Page} {tests : Table Test}

def SameElement (scenario : Scenario W T) (pages : Table Page) (tests : Table Test)
    (page element : String) : Prop :=
  (scenario.recast pages tests).catalog.candidates page element =
    scenario.catalog.candidates page element

def SameLookup (scenario : Scenario W T) (pages : Table Page) (tests : Table Test)
    (header : Header) (needsElement : Bool) : Prop :=
  header.seeksElement needsElement = true →
    scenario.SameElement pages tests (header.page.getD "") (header.element.getD "")

theorem tryLeads_recast [Scale T] (page element : String) (timeout : T)
    (noted : List (String × String)) (leads : List Lead) :
    (scenario.recast pages tests).tryLeads page element timeout noted leads =
      scenario.tryLeads page element timeout noted leads := by
  induction leads generalizing noted with
  | nil => rfl
  | cons lead rest ih =>
    simp only [tryLeads, ih]
    rfl

theorem firstCount_recast (leads : List Lead) :
    (scenario.recast pages tests).firstCount leads = scenario.firstCount leads := by
  induction leads with
  | nil => rfl
  | cons lead rest ih =>
    simp only [firstCount, ih]
    rfl

section

variable {page element : String} (same : scenario.SameElement pages tests page element)
  (row : Option Row)

include same

theorem leads_recast :
    (scenario.recast pages tests).leads page element row = scenario.leads page element row := by
  unfold leads
  rw [same]
  rfl

theorem anyLead_recast (test : Target -> Activity (Scene W) Bool) :
    (scenario.recast pages tests).anyLead page element row test =
      scenario.anyLead page element row test := by
  unfold anyLead
  rw [leads_recast same]

theorem countMatches_recast :
    (scenario.recast pages tests).countMatches page element row =
      scenario.countMatches page element row := by
  unfold countMatches
  simp only [leads_recast same, firstCount_recast]

theorem resolve_recast [Scale T] (timeout : T) :
    (scenario.recast pages tests).resolve page element row timeout =
      scenario.resolve page element row timeout := by
  unfold resolve discover
  simp only [leads_recast same, tryLeads_recast]

end

variable [Scale T]

theorem testOf_recast (condition : WaitCondition) {page element : String}
    (same : condition.needsElement = true → scenario.SameElement pages tests page element)
    (row : Option Row) (timeout : T) :
    (scenario.recast pages tests).testOf condition page element row timeout =
      scenario.testOf condition page element row timeout := by
  cases condition with
  | visible =>
    simp only [testOf, anyLead_recast (same rfl)]
    rfl
  | clickable =>
    simp only [testOf, anyLead_recast (same rfl)]
    rfl
  | present =>
    simp only [testOf, anyLead_recast (same rfl)]
    rfl
  | invisible =>
    simp only [testOf, anyLead_recast (same rfl)]
    rfl
  | textPresent text =>
    simp only [testOf, anyLead_recast (same rfl)]
    rfl
  | stale =>
    simp only [testOf, resolve_recast (same rfl)]
    rfl
  | urlContains fragment => rfl
  | custom script => rfl

section

variable {header : Header}
  (same : scenario.SameElement pages tests (header.page.getD "") (header.element.getD ""))
  (row : Option Row)

include same

theorem resolveFor_recast :
    (scenario.recast pages tests).resolveFor header row = scenario.resolveFor header row :=
  resolve_recast same row _

theorem onElement_recast (details : Table Datum)
    (interact : Target -> Patience T -> Activity (Scene W) Unit) :
    (scenario.recast pages tests).onElement header row details interact =
      scenario.onElement header row details interact := by
  unfold onElement
  rw [resolveFor_recast same]
  rfl

theorem seesElement_recast :
    (scenario.recast pages tests).seesElement header row = scenario.seesElement header row := by
  unfold seesElement
  rw [resolveFor_recast same]
  rfl

end

theorem await_recast {header : Header} {needsElement : Bool}
    (same : scenario.SameLookup pages tests header needsElement) (row : Option Row) :
    (scenario.recast pages tests).await header row = scenario.await header row := by
  unfold Scenario.await
  cases held : header.wait with
  | none => rfl
  | some wait =>
    have known : wait.condition.needsElement = true → scenario.SameElement pages tests
        (header.page.getD "") (header.element.getD "") := by
      intro needs
      exact same (by simp [Header.seeksElement, held, needs])
    dsimp only
    rw [testOf_recast wait.condition known]
    rfl

theorem prepared_recast {A : Type} {header : Header} {needsElement : Bool}
    (same : scenario.SameLookup pages tests header needsElement) (row : Option Row)
    (step : Activity (Scene W) A) :
    (scenario.recast pages tests).prepared header row step = scenario.prepared header row step := by
  unfold prepared
  rw [await_recast same]

theorem trigger_recast {header : Header} {needsElement : Bool}
    (same : scenario.SameLookup pages tests header needsElement) (row : Option Row) :
    (scenario.recast pages tests).trigger header row = scenario.trigger header row := by
  unfold trigger
  split
  · rfl
  next hasName =>
    rw [resolveFor_recast (same (by simp_all [Header.seeksElement]))]
    rfl

variable (paths : ∀ page, (scenario.recast pages tests).catalog.pagePath page =
  scenario.catalog.pagePath page)

include paths

-- Each operation that needs an element looks up the one that its header names, and no other.
theorem perform_recast {action : Action}
    (same : scenario.SameLookup pages tests action.header action.operation.needsElement)
    (row : Option Row) :
    (scenario.recast pages tests).perform action row = scenario.perform action row := by
  have known := fun (needs : action.operation.needsElement = true) =>
    same (by simp [Header.seeksElement, needs])
  unfold perform
  dsimp only
  split
  next kind => exact onElement_recast (known (kind ▸ rfl)) row _ _
  next kind => exact onElement_recast (known (kind ▸ rfl)) row _ _
  next kind => exact onElement_recast (known (kind ▸ rfl)) row _ _
  next kind => exact onElement_recast (known (kind ▸ rfl)) row _ _
  next kind => exact onElement_recast (known (kind ▸ rfl)) row _ _
  next kind => exact onElement_recast (known (kind ▸ rfl)) row _ _
  next kind => exact onElement_recast (known (kind ▸ rfl)) row _ _
  next kind =>
    unfold uploadFile
    simp only [onElement_recast (known (kind ▸ rfl))]
    rfl
  next kind =>
    unfold navigate
    rw [trigger_recast same, paths]
    rfl
  next kind =>
    unfold check
    rw [resolveFor_recast (known (kind ▸ rfl))]
    rfl
  all_goals rfl

theorem takeAction_recast {action : Action}
    (same : scenario.SameLookup pages tests action.header action.operation.needsElement)
    (row : Option Row) :
    (scenario.recast pages tests).takeAction action row = scenario.takeAction action row := by
  unfold takeAction
  rw [perform_recast paths same, prepared_recast same]

omit paths in
theorem takeAssertion_recast {assertion : Assertion}
    (same : scenario.SameLookup pages tests assertion.header assertion.aspect.needsElement)
    (row : Option Row) :
    (scenario.recast pages tests).takeAssertion assertion row =
      scenario.takeAssertion assertion row := by
  have judged : (scenario.recast pages tests).judge assertion row = scenario.judge assertion row := by
    have known := fun (needs : assertion.aspect.needsElement = true) =>
      same (by simp [Header.seeksElement, needs])
    have observed : (scenario.recast pages tests).observe assertion row =
        scenario.observe assertion row := by
      unfold observe
      dsimp only
      split
      next => rfl
      next kind => rw [countMatches_recast (known (kind ▸ rfl))]
      next kind => rw [seesElement_recast (known (kind ▸ rfl))]
      all_goals
        next kind =>
          rw [resolveFor_recast (known (kind ▸ rfl))]
          rfl
    unfold judge
    rw [observed]
    rfl
  unfold takeAssertion
  rw [judged, prepared_recast same]

/-! ## Runs -/

omit paths in
theorem restartSession_recast :
    (scenario.recast pages tests).restartSession = scenario.restartSession := by
  have launched : ∀ total left, (scenario.recast pages tests).launchAttempts total left =
      scenario.launchAttempts total left := by
    intro total left
    induction left with
    | zero => rfl
    | succ left ih =>
      simp only [launchAttempts, ih]
      rfl
  unfold restartSession startSession
  rw [launched]
  rfl

theorem openPage_recast (page : String) :
    (scenario.recast pages tests).openPage page = scenario.openPage page := by
  unfold openPage
  rw [paths]
  rfl

theorem retry_recast {A : Type} (description : String) (step : Activity (Scene W) A) :
    (scenario.recast pages tests).retry description step = scenario.retry description step := by
  have reopened : (scenario.recast pages tests).reopen = scenario.reopen := by
    unfold reopen
    simp only [openPage_recast paths, restartSession_recast]
  unfold retry retrier
  rw [reopened]
  rfl

theorem takeStep_recast (name description : String) (record : Table Datum) (row : Option Nat)
    (step : Activity (Scene W) StepOutcome) :
    (scenario.recast pages tests).takeStep name description record row step =
      scenario.takeStep name description record row step := by
  unfold takeStep
  rw [retry_recast paths]
  rfl

theorem runFrom_recast {script : Script} (row : Option Row) (number : Option Nat)
    (same : ∀ action ∈ script.actions,
      scenario.SameLookup pages tests action.header action.operation.needsElement)
    (fuel : Nat) (state : RunState) :
    (scenario.recast pages tests).runFrom script row number fuel state =
      scenario.runFrom script row number fuel state := by
  induction fuel generalizing state with
  | zero => cases state <;> rfl
  | succ fuel ih =>
    cases state with
    | running pointer =>
      simp only [runFrom]
      split
      next => rfl
      next action found =>
        have known := same action (List.mem_of_getElem? found)
        simp only [takeAction_recast paths known, takeStep_recast paths, ih]
    | _ => rfl

theorem checkAll_recast (name : String) (row : Option Row) (number : Option Nat)
    {assertions : List Assertion}
    (same : ∀ assertion ∈ assertions,
      scenario.SameLookup pages tests assertion.header assertion.aspect.needsElement) :
    (scenario.recast pages tests).checkAll name row number assertions =
      scenario.checkAll name row number assertions := by
  induction assertions with
  | nil => rfl
  | cons assertion rest ih =>
    obtain ⟨first, later⟩ := List.forall_mem_cons.mp same
    simp only [checkAll, takeAssertion_recast first, takeStep_recast paths, ih later]

variable {test : Test}
  (seen : ∀ page element, test.Seeks page element → scenario.SameElement pages tests page element)

include seen

theorem runRow_recast (row : Option Row) (number : Option Nat) :
    (scenario.recast pages tests).runRow test.script row number =
      scenario.runRow test.script row number := by
  have same : ∀ action ∈ test.script.actions,
      scenario.SameLookup pages tests action.header action.operation.needsElement :=
    fun action member seeks => seen _ _ (.inl ⟨action, member, seeks, rfl, rfl⟩)
  unfold runRow runScript
  simp only [runFrom_recast paths row number same]
  rfl

theorem runAssertions_recast (row : Option Row) (number : Option Nat) :
    (scenario.recast pages tests).runAssertions test.script row number =
      scenario.runAssertions test.script row number :=
  checkAll_recast paths _ row number fun assertion member seeks =>
    seen _ _ (.inr ⟨assertion, member, seeks, rfl, rfl⟩)

theorem replayRows_recast (policy : RowPolicy) (first : Nat) (failures : List ScriptFailure)
    (rows : List Row) :
    (scenario.recast pages tests).replayRows test policy first failures rows =
      scenario.replayRows test policy first failures rows := by
  have reset : (scenario.recast pages tests).resetFor test = scenario.resetFor test := by
    unfold resetFor
    simp only [openPage_recast paths, restartSession_recast]
  induction rows generalizing first failures with
  | nil => rfl
  | cons row rest ih => simp only [replayRows, reset, runRow_recast paths seen, ih]

theorem assertRows_recast (first : Nat) (rows : List Row) :
    (scenario.recast pages tests).assertRows test.script first rows =
      scenario.assertRows test.script first rows := by
  induction rows generalizing first with
  | nil => rfl
  | cons row rest ih => simp only [assertRows, runAssertions_recast paths seen, ih]

end Scenario

/-- A run over a catalog that its test cannot tell from the scenario's own is the same run. -/
theorem Catalog.AgreesFor.same_run {W T : Type} [Scale T] {scenario : Scenario W T}
    {other : Catalog} {test : Test} (agrees : scenario.catalog.AgreesFor other test)
    {name : String} (known : scenario.catalog.test name = .ok test)
    (alike : other.test name = .ok test) :
    (∀ asked, { scenario with catalog := other }.executeTest name asked =
      scenario.executeTest name asked) ∧
    ∀ perRow, { scenario with catalog := other }.assertTest name perRow =
      scenario.assertTest name perRow := by
  obtain ⟨pages, tests, params⟩ := other
  -- The parameters are the same, so the other catalog only has other pages and tests.
  obtain ⟨rfl, paths, seen⟩ := agrees
  change (scenario.recast pages tests).catalog.test name = .ok test at alike
  change (∀ asked, (scenario.recast pages tests).executeTest name asked = _) ∧
    ∀ perRow, (scenario.recast pages tests).assertTest name perRow = _
  constructor
  · intro asked
    unfold Scenario.executeTest
    rw [known, alike, Activity.ofExcept_ok_bind, Activity.ofExcept_ok_bind]
    simp only [Scenario.runRow_recast paths seen, Scenario.replayRows_recast paths seen]
    rfl
  · intro perRow
    unfold Scenario.assertTest
    rw [known, alike, Activity.ofExcept_ok_bind, Activity.ofExcept_ok_bind]
    simp only [Scenario.runAssertions_recast paths seen, Scenario.assertRows_recast paths seen]

end Rehearsal
