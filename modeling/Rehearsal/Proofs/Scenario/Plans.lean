import Rehearsal.Proofs.Scenario.Finding

/-!
The plans of steps. A step that goes by an element looks it up once, and with what it was given it
goes on; so it is a plan that is followed with some way of looking the element up. All other steps
have nothing to do with what is kept of elements, unless they drop it.
-/

set_option autoImplicit false

namespace Rehearsal

open Activity

namespace Activity

variable {S A B : Type}

theorem bind_eq_attempt (first : Activity S A) (next : A -> Activity S B) :
    first >>= next = first.attempt >>= fun found => Activity.ofExcept found >>= next := by
  funext state
  rw [bind_run, bind_run, attempt]
  rcases first state with ⟨_ | _ | _, between⟩ <;> rfl

end Activity

variable {W T A B : Type}

/-- What a step does, up to the way in which its element is looked up. That comes first but for
checks that leave the scene as it is, and apart from it the relation is respected. -/
inductive Plan (relation : Scene W -> Scene W -> Prop) :
    (Activity (Scene W) Resolved -> Activity (Scene W) A) -> Prop where
  | goesOn {next : Except Failure Resolved -> Activity (Scene W) A}
      (respects : ∀ found, (next found).Respects relation) :
      Plan relation fun lookup => lookup.attempt >>= next
  | checks {B : Type} {check : Activity (Scene W) B}
      {plan : B -> Activity (Scene W) Resolved -> Activity (Scene W) A} (still : check.Keeps id)
      (ignores : check.IgnoresFinds) (each : ∀ given, Plan relation (plan given)) :
      Plan relation fun lookup => check >>= fun given => plan given lookup
  | refuses (failure : Failure) : Plan relation fun _ => throw failure

namespace Plan

variable {relation : Scene W -> Scene W -> Prop}
  {plan : Activity (Scene W) Resolved -> Activity (Scene W) A}

theorem direct {next : Resolved -> Activity (Scene W) A}
    (respects : ∀ resolved, (next resolved).Respects relation) :
    Plan relation fun lookup => lookup >>= next := by
  have attempted : (fun lookup : Activity (Scene W) Resolved => lookup >>= next) =
      fun lookup => lookup.attempt >>= fun found => Activity.ofExcept found >>= next :=
    funext fun lookup => bind_eq_attempt lookup next
  rw [attempted]
  exact .goesOn fun found => respects_bind (respects_ofExcept found) respects

theorem bind (plans : Plan relation plan) {next : A -> Activity (Scene W) B}
    (respects : ∀ value, (next value).Respects relation) :
    Plan relation fun lookup => plan lookup >>= next := by
  induction plans with
  | goesOn goes =>
    simp only [bind_assoc]
    exact .goesOn fun found => respects_bind (goes found) respects
  | checks still ignores _ ih =>
    simp only [bind_assoc]
    exact .checks still ignores ih
  | refuses failure => exact .refuses failure

theorem respects {scenario : Scenario W T} {row : Option Row} (plans : Plan relation plan)
    (bears : scenario.Bears row relation) {lookup : Activity (Scene W) Resolved}
    (looks : lookup.Respects relation) : (plan lookup).Respects relation := by
  induction plans with
  | goesOn goes => exact respects_bind (respects_attempt looks) goes
  | checks _ ignores _ ih =>
    exact respects_bind (Scenario.respects_of_ignores bears ignores) ih
  | refuses failure => exact respects_throw failure

/-- Which way the element is looked up matters only in the scene that the step begins in. -/
theorem congr (plans : Plan relation plan) {lookup other : Activity (Scene W) Resolved}
    {scene : Scene W} (same : lookup scene = other scene) :
    plan lookup scene = plan other scene := by
  induction plans with
  | goesOn => simp only [bind_run, attempt, same]
  | @checks B check plan still _ _ ih =>
    simp only [bind_run]
    rcases ran : check scene with ⟨given | failure | _, after⟩
    · obtain rfl : after = scene := still.of_run ran
      exact ih given
    · rfl
    · rfl
  | refuses => rfl

end Plan

namespace Scenario

variable {scenario : Scenario W T} {row : Option Row} {relation : Scene W -> Scene W -> Prop}

/-- The step is a plan, followed with the lookup. -/
def GoesBy (relation : Scene W -> Scene W -> Prop) (lookup : Activity (Scene W) Resolved)
    (step : Activity (Scene W) A) : Prop :=
  ∃ plan, Plan relation plan ∧ step = plan lookup

section

variable (bears : scenario.Bears row relation)

include bears

theorem respects_of_goesBy {lookup : Activity (Scene W) Resolved} {step : Activity (Scene W) A}
    (goes : GoesBy relation lookup step) (looks : lookup.Respects relation) :
    step.Respects relation := by
  obtain ⟨plan, plans, rfl⟩ := goes
  exact plans.respects bears looks

theorem arrive_respects (page : String) :
    (change fun scene => (scene.reloadPage page).enter page :
      Activity (Scene W) Unit).Respects relation :=
  respects_change fun scene other related =>
    (enter_respects bears page _ _ (bears.reloaded page scene other related)).2

theorem dropHandles_respects :
    (change Scene.dropHandles : Activity (Scene W) Unit).Respects relation :=
  respects_change bears.dropped

theorem loadState_respects (key : String) : (scenario.loadState key).Respects relation := by
  have looked : (look fun scene : Scene W => scene.snapshots.get? key).Respects relation :=
    respects_of_ignores bears (ignores_look fun _ _ => rfl)
  refine respects_bind looked fun saved => ?_
  cases saved with
  | none => exact respects_pure _
  | some cookies =>
    refine respects_bind (respects_of_ignores bears (restoreCookies_ignores _)) fun _ => ?_
    exact respects_bind (dropHandles_respects bears) fun _ => respects_pure _

/-! ## Steps on an element -/

variable [Scale T] (header : Header)

theorem onElement_goesBy (details : Table Datum)
    {interact : Target -> Patience T -> Activity (Scene W) Unit}
    (ignores : ∀ target patience, (interact target patience).IgnoresFinds) :
    GoesBy relation (scenario.resolveFor header row)
      (scenario.onElement header row details interact) := by
  refine ⟨_, .direct fun resolved => ?_, rfl⟩
  refine respects_of_ignores bears (ignores_bind (ignores_discard livePage_ignores) fun _ => ?_)
  exact ignores_bind (ignores _ _) fun _ => ignores_pure _

theorem uploadFile_goesBy (action : Action) :
    GoesBy relation (scenario.resolveFor action.header row) (scenario.uploadFile action row) := by
  -- The element is looked up only if the file is there.
  let path := Path.ofText (scenario.valueFor action row)
  let plan := fun (files : Files) (present : Bool) (lookup : Activity (Scene W) Resolved) =>
    if !present then throw (.missingUpload path.text)
    else do
      let resolved ← lookup
      discard scenario.livePage
      scenario.upload resolved.target (files.absolute path) (scenario.patienceFor action.header)
      return StepOutcome.onElement resolved [("path", .text path.text)]
  have plans : ∀ files present, Plan relation (plan files present) := by
    intro files present
    cases present with
    | false => exact .refuses _
    | true =>
      refine .direct fun resolved => respects_of_ignores bears ?_
      refine ignores_bind (ignores_discard livePage_ignores) fun _ => ?_
      exact ignores_bind (upload_ignores _ _ _) fun _ => ignores_pure _
  refine ⟨_, .checks (keeps_look Scene.files) (ignores_look fun _ _ => rfl) fun files =>
    .checks (keeps_ofExcept _) (liftFault_ignores (files.contains path)) (plans files), ?_⟩
  rfl

/-- What follows the trigger of a navigation. -/
theorem arrival_respects (page path : String) (triggered : Table Datum) :
    (do
      (scenario.polling .waitTimeout (scenario.effectiveTimeout header)
        s!"URL containing '{path}'").test scenario.clock scenario.fuel (scenario.urlShows path)
      change fun scene => (scene.reloadPage page).enter page
      let url ← scenario.currentUrl
      return .passed ([("target_page", .text page)] ++ triggered ++ [("current_url", .text url)]) :
      Activity (Scene W) StepOutcome).Respects relation := by
  refine respects_bind (respects_of_ignores bears (test_ignores (urlShows_ignores path))) ?_
  refine fun _ => respects_bind (arrive_respects bears page) fun _ => ?_
  exact respects_of_ignores bears (ignores_bind currentUrl_ignores fun _ => ignores_pure _)

theorem navigate_respects_of_apart (nameless : named header.element = false) (page : String) :
    (scenario.navigate header row page).Respects relation := by
  have idle : scenario.trigger header row = pure [] := by simp [trigger, nameless]
  unfold navigate
  rw [idle]
  exact respects_bind (respects_ofExcept _) fun path => arrival_respects bears header page path []

theorem navigate_goesBy (hasElement : named header.element = true) (page : String) :
    GoesBy relation (scenario.resolveFor header row) (scenario.navigate header row page) := by
  -- It is the trigger that looks the element up, once the path of the page is known.
  have triggers : GoesBy relation (scenario.resolveFor header row)
      (scenario.trigger header row) := by
    refine ⟨_, .direct fun resolved => ?_, by simp only [trigger, hasElement]; rfl⟩
    refine respects_of_ignores bears (ignores_bind (ignores_discard livePage_ignores) fun _ => ?_)
    exact ignores_bind (click_ignores _ _ _) fun _ => ignores_pure _
  obtain ⟨plan, plans, followed⟩ := triggers
  exact ⟨_, .checks (keeps_ofExcept (scenario.catalog.pagePath page)) (ignores_ofExcept _)
    fun path => plans.bind (arrival_respects bears header page path),
    by simp only [navigate, followed]⟩

theorem check_goesBy (action : Action) (condition : Condition) (ifTrueNext ifFalseNext : Nat) :
    GoesBy relation (scenario.resolveFor action.header row)
      (scenario.check action row condition ifTrueNext ifFalseNext) := by
  refine ⟨_, .goesOn fun found => ?_, rfl⟩
  -- A check goes on where the element was not found, so the plan has to say how.
  cases found with
  | ok resolved =>
    exact respects_of_ignores bears
      (ignores_bind (conditionMet_ignores _ _) fun _ => ignores_pure _)
  | error failure =>
    dsimp only
    split
    · exact respects_pure _
    · exact respects_throw _

theorem seesElement_goesBy :
    GoesBy relation (scenario.resolveFor header row) (scenario.seesElement header row) := by
  refine ⟨_, .goesOn fun found => ?_, rfl⟩
  cases found with
  | ok resolved => exact respects_of_ignores bears (isVisible_ignores _)
  | error failure =>
    dsimp only
    split
    · exact respects_pure _
    · exact respects_throw _

end

end Scenario

/-! ## Whole records -/

/-- Whether the step of an action goes by the element that its record names. -/
def Action.goesByElement (action : Action) : Bool :=
  match action.operation with
  | .navigate _ => named action.header.element
  | operation => operation.needsElement

/-- All aspects are seen in an element but the address and the number of matches. -/
def Aspect.isOfElement : Aspect -> Bool
  | .url | .count => false
  | _ => true

namespace Scenario

variable {scenario : Scenario W T} {row : Option Row} {relation : Scene W -> Scene W -> Prop}
  [Scale T] (bears : scenario.Bears row relation)

include bears

theorem perform_goesBy {action : Action} (goes : action.goesByElement = true) :
    GoesBy relation (scenario.resolveFor action.header row) (scenario.perform action row) := by
  unfold Action.goesByElement at goes
  unfold perform
  cases kind : action.operation <;> simp only [kind, Operation.needsElement] at goes ⊢
  case enterText => exact onElement_goesBy bears _ _ fun _ _ => fillField_ignores _ _ _ _
  case click => exact onElement_goesBy bears _ _ fun _ _ => click_ignores _ _ _
  case doubleClick => exact onElement_goesBy bears _ _ fun _ _ => click_ignores _ _ _
  case selectOption => exact onElement_goesBy bears _ _ fun _ _ => selectOption_ignores _ _ _ _
  case hover => exact onElement_goesBy bears _ _ hover_ignores
  case clear => exact onElement_goesBy bears _ _ fun _ _ => clearField_ignores _ _ _
  case submit => exact onElement_goesBy bears _ _ submit_ignores
  case uploadFile => exact uploadFile_goesBy bears action
  case navigate page => exact navigate_goesBy bears _ goes page
  case check => exact check_goesBy bears action _ _ _
  all_goals cases goes

theorem perform_respects_of_apart {action : Action} (apart : action.goesByElement = false) :
    (scenario.perform action row).Respects relation := by
  unfold Action.goesByElement at apart
  unfold perform
  cases kind : action.operation <;> simp only [kind, Operation.needsElement] at apart ⊢
  case saveState => exact respects_of_ignores bears (saveState_ignores _)
  case loadState => exact loadState_respects bears _
  case produce =>
    exact respects_of_ignores bears (withBroker_ignores (produceMessage_ignores _ _ _ _))
  case consume =>
    exact respects_of_ignores bears (withBroker_ignores (consumeMessage_ignores _ _ _ _ _))
  case httpCall => exact respects_of_ignores bears (httpCall_ignores _ _ _ _ _)
  case navigate page => exact navigate_respects_of_apart bears _ apart page
  all_goals cases apart

theorem judge_goesBy {assertion : Assertion} (goes : assertion.aspect.isOfElement = true) :
    GoesBy relation (scenario.resolveFor assertion.header row)
      (scenario.judge assertion row) := by
  have observes : GoesBy relation (scenario.resolveFor assertion.header row)
      (scenario.observe assertion row) := by
    unfold observe
    cases kind : assertion.aspect <;> simp only [kind, Aspect.isOfElement] at goes ⊢
    case visible =>
      obtain ⟨plan, plans, followed⟩ := seesElement_goesBy bears assertion.header
      exact ⟨_, plans.bind fun _ => respects_pure _, by rw [followed]⟩
    case enabled =>
      refine ⟨_, .direct fun resolved => respects_of_ignores bears ?_, rfl⟩
      exact ignores_bind (isEnabled_ignores _) fun _ => ignores_pure _
    case text =>
      refine ⟨_, .direct fun resolved => respects_of_ignores bears ?_, rfl⟩
      exact ignores_bind (call_ignores _) fun _ => ignores_pure _
    case attributeValue =>
      refine ⟨_, .direct fun resolved => respects_of_ignores bears ?_, rfl⟩
      exact ignores_bind (call_ignores _) fun _ => ignores_pure _
    all_goals cases goes
  obtain ⟨plan, plans, followed⟩ := observes
  refine ⟨_, plans.bind fun actual => ?_, by simp only [judge, followed]; rfl⟩
  exact respects_bind (respects_ofExcept _) fun _ => respects_pure _

theorem judge_respects_of_apart {assertion : Assertion}
    (apart : assertion.aspect.isOfElement = false) :
    (scenario.judge assertion row).Respects relation := by
  refine respects_bind ?_ fun actual => respects_bind (respects_ofExcept _) fun _ => respects_pure _
  unfold observe
  cases kind : assertion.aspect <;> simp only [kind, Aspect.isOfElement] at apart ⊢
  case url =>
    exact respects_of_ignores bears (ignores_bind currentUrl_ignores fun _ => ignores_pure _)
  case count =>
    exact respects_of_ignores bears
      (ignores_bind (countMatches_ignores _ _ _) fun _ => ignores_pure _)
  all_goals cases apart

theorem prepared_respects {header : Header} {step : Activity (Scene W) A}
    (agrees : AgreesAt relation (header.page.getD "") (header.element.getD ""))
    (steps : step.Respects relation) : (scenario.prepared header row step).Respects relation := by
  refine respects_bind (await_respects bears fun _ => agrees) fun _ => ?_
  dsimp only
  split
  · exact respects_bind (reloadPage_respects bears _) fun _ => steps
  · exact steps

theorem takeAction_respects {action : Action}
    (agrees : AgreesAt relation (action.header.page.getD "") (action.header.element.getD "")) :
    (scenario.takeAction action row).Respects relation := by
  refine prepared_respects bears agrees ?_
  cases goes : action.goesByElement with
  | true =>
    exact respects_of_goesBy bears (perform_goesBy bears goes) (resolve_respects bears agrees _)
  | false => exact perform_respects_of_apart bears goes

theorem takeAssertion_respects {assertion : Assertion}
    (agrees : AgreesAt relation (assertion.header.page.getD "")
      (assertion.header.element.getD "")) :
    (scenario.takeAssertion assertion row).Respects relation := by
  refine prepared_respects bears agrees ?_
  cases goes : assertion.aspect.isOfElement with
  | true =>
    exact respects_of_goesBy bears (judge_goesBy bears goes) (resolve_respects bears agrees _)
  | false => exact judge_respects_of_apart bears goes

/-! ## Recovery -/

theorem openPage_respects (page : String) : (scenario.openPage page).Respects relation := by
  refine respects_bind (respects_ofExcept _) fun path => ?_
  refine respects_bind (respects_of_ignores bears livePage_ignores) fun live => ?_
  refine respects_bind (respects_of_ignores bears (call_ignores _)) fun _ => ?_
  refine respects_bind (respects_of_ignores bears (test_ignores (urlShows_ignores path))) ?_
  refine fun _ => respects_bind (arrive_respects bears page) fun _ => ?_
  exact respects_of_ignores bears (ignores_bind currentUrl_ignores fun _ => ignores_pure _)

section

variable (listens : scenario.onRestart = [Scene.dropHandles])

include listens

theorem restartSession_respects : scenario.restartSession.Respects relation := by
  refine respects_bind (respects_of_ignores bears (setSession_ignores _)) fun _ => ?_
  refine respects_bind (respects_of_ignores bears (launchAttempts_ignores _ _)) fun _ => ?_
  rw [listens]
  exact dropHandles_respects bears

theorem reopen_respects : scenario.reopen.Respects relation := by
  refine respects_bind (restartSession_respects bears listens) fun _ => ?_
  refine respects_bind (respects_of_ignores bears (ignores_look fun _ _ => rfl)) fun page => ?_
  cases page with
  | none => exact respects_pure _
  | some page => exact respects_discard (openPage_respects bears page)

end

end Scenario

end Rehearsal
