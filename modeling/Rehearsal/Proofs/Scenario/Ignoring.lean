import Rehearsal.Interpreter
import Rehearsal.Proofs.Activity.Likeness

/-!
What steps do apart from looking elements up. None of it has to do with what is kept of elements:
neither what it calls, nor what it saves or sends, nor what it does with an element that it is
given.
-/

set_option autoImplicit false

namespace Rehearsal

open Activity

variable {W T : Type}

/-- The scene with other finds: what is kept of elements, and how many were found. -/
def Scene.withFinds (finds : HandleTable Resolved × Nat) (scene : Scene W) : Scene W :=
  { scene with handles := finds.1, resolutions := finds.2 }

namespace Activity

variable {A : Type}

/-- An activity that has nothing to do with what was found, neither by looking nor by keeping. -/
def IgnoresFinds (activity : Activity (Scene W) A) : Prop := activity.Ignores Scene.withFinds

theorem IgnoresFinds.keeps {activity : Activity (Scene W) A} (ignores : activity.IgnoresFinds)
    (scene : Scene W) :
    (activity scene).2.handles = scene.handles ∧
      (activity scene).2.resolutions = scene.resolutions := by
  have same := ignores (scene.handles, scene.resolutions) scene
  have kept : activity scene = ((activity scene).1, (activity scene).2.withFinds _) := same
  rw [kept]
  exact ⟨rfl, rfl⟩

end Activity

namespace Scenario

variable {scenario : Scenario W T}

theorem anyOf_ignores {A : Type} {test : A -> Activity (Scene W) Bool}
    (tests : ∀ item, (test item).IgnoresFinds) (items : List A) :
    (anyOf test items).IgnoresFinds := by
  induction items with
  | nil => exact ignores_pure _
  | cons item rest ih =>
    refine ignores_bind (tests item) fun held => ?_
    cases held with
    | true => exact ignores_pure _
    | false => exact ih

theorem orElse_ignores {first second : Activity (Scene W) Unit} (before : first.IgnoresFinds)
    (after : second.IgnoresFinds) : (orElse first second).IgnoresFinds := by
  refine ignores_bind (ignores_attempt before) fun tried => ?_
  cases tried with
  | ok value => exact ignores_pure _
  | error failure =>
    dsimp only
    split
    · exact ignores_throw _
    · exact after

theorem liftFault_ignores {A : Type} (result : Except Fault A) :
    (liftFault result : Activity (Scene W) A).IgnoresFinds := ignores_ofExcept _

theorem call_ignores (call : Call T) : (scenario.call call).IgnoresFinds := by
  intro finds scene
  simp only [Scenario.call, Scene.withFinds]
  rcases scenario.world.perform call scene.world with ⟨_ | _, world⟩ <;> rfl

theorem livePage_ignores : scenario.livePage.IgnoresFinds := by
  refine ignores_bind (ignores_look fun _ _ => rfl) fun page => ?_
  cases page with
  | none => exact ignores_throw _
  | some page =>
    refine ignores_bind (ignores_look fun _ _ => rfl) fun closed => ?_
    cases closed with
    | true => exact ignores_throw _
    | false => exact ignores_pure _

theorem currentUrl_ignores : scenario.currentUrl.IgnoresFinds :=
  ignores_bind livePage_ignores fun _ => ignores_look fun _ _ => rfl

theorem urlShows_ignores (part : String) : (scenario.urlShows part).IgnoresFinds :=
  ignores_bind currentUrl_ignores fun _ => ignores_pure _

theorem sessionContext_ignores : scenario.sessionContext.IgnoresFinds := by
  refine ignores_bind (ignores_look fun _ _ => rfl) fun context => ?_
  cases context with
  | none => exact ignores_throw _
  | some context => exact ignores_pure _

theorem captureCookies_ignores : scenario.captureCookies.IgnoresFinds :=
  ignores_bind sessionContext_ignores fun _ => call_ignores _

theorem restoreCookies_ignores (cookies : List Datum) :
    (scenario.restoreCookies cookies).IgnoresFinds := by
  refine ignores_bind sessionContext_ignores fun context => ?_
  refine ignores_bind (call_ignores _) fun _ => ?_
  have reload : (scenario.livePage >>= fun page =>
      scenario.call (.reload page)).IgnoresFinds :=
    ignores_bind livePage_ignores fun _ => call_ignores _
  cases cookies with
  | nil => exact reload
  | cons cookie rest => exact ignores_bind (call_ignores _) fun _ => reload

theorem setSession_ignores (update : Session -> Session) :
    (change (Scene.setSession update) : Activity (Scene W) Unit).IgnoresFinds :=
  ignores_change fun _ _ => rfl

theorem setBroker_ignores (update : BrokerClients -> BrokerClients) :
    (change (Scene.setBroker update) : Activity (Scene W) Unit).IgnoresFinds :=
  ignores_change fun _ _ => rfl

/-! ## Looking at elements -/

theorem hasMatch_ignores (target : Target) : (scenario.hasMatch target).IgnoresFinds :=
  ignores_bind (call_ignores _) fun _ => ignores_pure _

theorem isVisible_ignores (target : Target) : (scenario.isVisible target).IgnoresFinds :=
  call_ignores _

theorem isEnabled_ignores (target : Target) : (scenario.isEnabled target).IgnoresFinds :=
  call_ignores _

theorem isClickable_ignores (target : Target) : (scenario.isClickable target).IgnoresFinds := by
  refine ignores_bind (isVisible_ignores target) fun visible => ?_
  cases visible with
  | true => exact isEnabled_ignores target
  | false => exact ignores_pure _

theorem showsText_ignores (text : String) (target : Target) :
    (scenario.showsText text target).IgnoresFinds :=
  ignores_bind (call_ignores _) fun _ => ignores_pure _

theorem anyMatch_ignores {test : Target -> Activity (Scene W) Bool}
    (tests : ∀ target, (test target).IgnoresFinds) (target : Target) :
    (scenario.anyMatch test target).IgnoresFinds :=
  ignores_bind (call_ignores _) fun _ => anyOf_ignores (fun _ => tests _) _

theorem firstCount_ignores (leads : List Lead) : (scenario.firstCount leads).IgnoresFinds := by
  induction leads with
  | nil => exact ignores_pure _
  | cons lead rest ih =>
    refine ignores_bind (call_ignores _) fun (count : Nat) => ?_
    split
    · exact ih
    · exact ignores_pure _

theorem isGone_ignores (handle : Option Handle) : (scenario.isGone handle).IgnoresFinds := by
  cases handle with
  | none => exact ignores_pure _
  | some handle =>
    refine ignores_bind (ignores_attempt (call_ignores _)) fun answer => ?_
    cases answer with
    | ok gone => exact ignores_pure _
    | error failure =>
      dsimp only
      split
      · exact ignores_throw _
      · exact ignores_pure _

theorem scriptHolds_ignores (script : String) : (scenario.scriptHolds script).IgnoresFinds := by
  refine ignores_bind livePage_ignores fun page => ?_
  refine ignores_bind (call_ignores _) fun answer => ?_
  split <;> exact ignores_pure _

theorem leads_ignores (page element : String) (row : Option Row) :
    (scenario.leads page element row).IgnoresFinds :=
  ignores_bind livePage_ignores fun _ =>
    ignores_bind (ignores_ofExcept _) fun _ => ignores_pure _

theorem anyLead_ignores (page element : String) (row : Option Row)
    {test : Target -> Activity (Scene W) Bool} (tests : ∀ target, (test target).IgnoresFinds) :
    (scenario.anyLead page element row test).IgnoresFinds :=
  ignores_bind (leads_ignores page element row) fun _ => anyOf_ignores (fun _ => tests _) _

/-- Counting matches has nothing to do with what was found. -/
theorem countMatches_ignores (page element : String) (row : Option Row) :
    (scenario.countMatches page element row).IgnoresFinds :=
  ignores_bind (leads_ignores page element row) fun _ => firstCount_ignores _

theorem conditionMet_ignores (target : Target) (condition : Condition) :
    (scenario.conditionMet target condition).IgnoresFinds := by
  cases condition with
  | present => exact ignores_pure _
  | visible => exact isVisible_ignores target
  | enabled => exact isEnabled_ignores target

/-! ## Messages and requests -/

theorem producer_ignores : scenario.producer.IgnoresFinds := by
  refine ignores_bind (ignores_look fun _ _ => rfl) fun known => ?_
  cases known with
  | some producer => exact ignores_pure _
  | none =>
    refine ignores_bind (call_ignores _) fun producer => ?_
    refine ignores_bind (setBroker_ignores _) fun _ => ?_
    exact ignores_bind (call_ignores _) fun _ => ignores_pure _

theorem produce_ignores (topic : String) (key value : Option String) :
    (scenario.produce topic key value).IgnoresFinds := by
  refine ignores_bind producer_ignores fun producer => ?_
  exact ignores_bind (call_ignores _) fun _ => call_ignores _

theorem consumer_ignores : scenario.consumer.IgnoresFinds := by
  refine ignores_bind (ignores_look fun _ _ => rfl) fun known => ?_
  cases known with
  | some consumer => exact ignores_pure _
  | none =>
    refine ignores_bind (call_ignores _) fun consumer => ?_
    refine ignores_bind (setBroker_ignores _) fun _ => ?_
    exact ignores_bind (call_ignores _) fun _ => ignores_pure _

theorem subscribe_ignores (topic : String) : (scenario.subscribe topic).IgnoresFinds := by
  refine ignores_bind (ignores_look fun _ _ => rfl) fun topics => ?_
  split
  · exact ignores_pure _
  · refine ignores_bind (setBroker_ignores _) fun _ => ?_
    refine ignores_bind consumer_ignores fun consumer => ?_
    exact ignores_bind (ignores_look fun _ _ => rfl) fun _ => call_ignores _

theorem keepCookies_ignores (request : Http.Request) (reply : Http.Reply) :
    (scenario.keepCookies request reply).IgnoresFinds :=
  ignores_bind (liftFault_ignores _) fun _ => ignores_change fun _ _ => rfl

theorem exchange_ignores (redirects : Nat) (request : Http.Request) :
    (scenario.exchange redirects request).IgnoresFinds := by
  induction redirects generalizing request with
  | zero => exact ignores_throw _
  | succ redirects ih =>
    refine ignores_bind (call_ignores _) fun (reply : Http.Reply) => ?_
    refine ignores_bind (keepCookies_ignores _ _) fun _ => ?_
    split
    next => exact ignores_pure _
    next =>
      refine ignores_bind (ignores_look fun _ _ => rfl) fun _ => ?_
      exact ignores_bind (liftFault_ignores _) fun next => ih next

theorem sendRequest_ignores (method url : String) (body : Option String)
    (headers : Http.Headers) : (scenario.sendRequest method url body headers).IgnoresFinds := by
  refine ignores_bind (ignores_look fun _ _ => rfl) fun _ => ?_
  refine ignores_bind (liftFault_ignores _) fun request => ?_
  refine ignores_bind (ignores_look fun _ _ => rfl) fun closed => ?_
  cases closed with
  | true => exact ignores_throw _
  | false => exact exchange_ignores _ _

theorem request_ignores (method url : String) (body : Option String) (headers : Http.Headers) :
    (scenario.request method url body headers).IgnoresFinds := by
  refine ignores_bind (ignores_attempt (sendRequest_ignores _ _ _ _)) fun answer => ?_
  split
  · split <;> exact ignores_throw _
  · exact ignores_throw _
  · split
    · exact ignores_pure _
    · exact ignores_bind (liftFault_ignores _) fun _ => ignores_throw _

theorem httpCall_ignores (row : Option Row) (method url : String) (body : Option String)
    (headers : Table String) :
    (scenario.httpCall row method url body headers).IgnoresFinds := by
  unfold httpCall
  split
  · exact ignores_throw _
  · exact ignores_bind (request_ignores _ _ _ _) fun _ => ignores_pure _

theorem saveState_ignores (key : String) : (scenario.saveState key).IgnoresFinds := by
  refine ignores_bind captureCookies_ignores fun cookies => ?_
  exact ignores_bind (ignores_change fun _ _ => rfl) fun _ => ignores_pure _

theorem withBroker_ignores {step : Activity (Scene W) StepOutcome} (steps : step.IgnoresFinds) :
    (scenario.withBroker step).IgnoresFinds := by
  unfold withBroker
  split
  · exact steps
  · exact ignores_pure _

theorem produceMessage_ignores (row : Option Row) (topic : String) (key message : Option String) :
    (scenario.produceMessage row topic key message).IgnoresFinds :=
  ignores_bind (produce_ignores _ _ _) fun _ => ignores_pure _

/-! ## Polling -/

variable [Scale T]

theorem run_ignores {A : Type} {polling : Polling T} {probe : Activity (Scene W) (Option A)}
    (probes : probe.IgnoresFinds) :
    (polling.run scenario.clock scenario.fuel probe).IgnoresFinds := by
  refine Polling.run_ignores ?_ ?_ _ probes
  · exact fun _ _ => rfl
  · exact fun _ _ _ => rfl

theorem test_ignores {polling : Polling T} {probe : Activity (Scene W) Bool}
    (probes : probe.IgnoresFinds) :
    (polling.test scenario.clock scenario.fuel probe).IgnoresFinds := by
  refine Polling.test_ignores ?_ ?_ _ probes
  · exact fun _ _ => rfl
  · exact fun _ _ _ => rfl

theorem fetch_ignores (span : T) : (scenario.fetch span).IgnoresFinds := by
  refine ignores_bind (ignores_look fun _ _ => rfl) fun consumer => ?_
  cases consumer with
  | none => exact ignores_pure _
  | some consumer =>
    dsimp only
    split
    · exact ignores_throw _
    · exact ignores_bind (call_ignores _) fun _ => ignores_pure _

theorem consumeMessage_ignores (header : Header) (row : Option Row) (topic key : String)
    (part : Option String) :
    (scenario.consumeMessage header row topic key part).IgnoresFinds := by
  refine ignores_bind (subscribe_ignores _) fun _ => ?_
  refine ignores_bind (run_ignores ?_) fun _ => ignores_pure _
  exact ignores_bind (fetch_ignores _) fun _ => ignores_pure _

theorem awaitLead_ignores (element : String) (timeout : T) (lead : Lead) :
    (scenario.awaitLead element timeout lead).IgnoresFinds :=
  ignores_bind (test_ignores (hasMatch_ignores _)) fun _ => call_ignores _

/-! ## Interactions -/

section

variable (target : Target) (patience : Patience T) (timeout : T)

omit [Scale T] in
theorem prepare_ignores (limit : Quantity T) : (scenario.prepare target limit).IgnoresFinds := by
  refine ignores_bind (call_ignores _) fun _ => ?_
  refine ignores_bind (call_ignores _) fun _ => ?_
  refine ignores_bind (call_ignores _) fun _ => ?_
  refine ignores_bind (isEnabled_ignores target) fun enabled => ?_
  cases enabled with
  | true => exact ignores_pure _
  | false => exact ignores_throw _

omit [Scale T] in
theorem holdsValue_ignores (value : String) :
    (scenario.holdsValue target value).IgnoresFinds :=
  ignores_bind (call_ignores _) fun _ => ignores_pure _

omit [Scale T] in
theorem showsOption_ignores (label : String) :
    (scenario.showsOption target label).IgnoresFinds :=
  ignores_bind (call_ignores _) fun _ => ignores_pure _

theorem click_ignores (double : Bool) : (scenario.click target double patience).IgnoresFinds :=
  ignores_bind (prepare_ignores target _) fun _ =>
    orElse_ignores (call_ignores _) (call_ignores _)

theorem hover_ignores : (scenario.hover target patience).IgnoresFinds :=
  ignores_bind (prepare_ignores target _) fun _ =>
    orElse_ignores (call_ignores _) (call_ignores _)

theorem confirm_ignores (shown : String) {test : Activity (Scene W) Bool}
    (tests : test.IgnoresFinds) : (scenario.confirm shown timeout test).IgnoresFinds :=
  test_ignores tests

theorem fillField_ignores (value : String) :
    (scenario.fillField target value patience timeout).IgnoresFinds := by
  refine ignores_bind (prepare_ignores target _) fun _ => ?_
  refine ignores_bind (call_ignores _) fun _ => ?_
  refine ignores_bind (call_ignores _) fun _ => ?_
  exact confirm_ignores _ _ (holdsValue_ignores target value)

theorem clearField_ignores : (scenario.clearField target patience timeout).IgnoresFinds := by
  refine ignores_bind (prepare_ignores target _) fun _ => ?_
  refine ignores_bind (call_ignores _) fun _ => ?_
  exact confirm_ignores _ _ (holdsValue_ignores target "")

theorem selectOption_ignores (label : String) :
    (scenario.selectOption target label patience timeout).IgnoresFinds := by
  refine ignores_bind (prepare_ignores target _) fun _ => ?_
  refine ignores_bind (orElse_ignores (call_ignores _) (call_ignores _)) fun _ => ?_
  exact confirm_ignores _ _ (showsOption_ignores target label)

theorem submit_ignores : (scenario.submit target patience).IgnoresFinds := by
  refine ignores_bind (prepare_ignores target _) fun _ => ?_
  refine ignores_bind (call_ignores _) fun (submitted : Bool) => ?_
  cases submitted with
  | true => exact ignores_pure _
  | false => exact call_ignores _

theorem upload_ignores (path : String) :
    (scenario.upload target path patience).IgnoresFinds :=
  ignores_bind (call_ignores _) fun _ => call_ignores _

end

/-! ## The session -/

omit [Scale T] in
theorem closeBrowser_ignores : scenario.closeBrowser.IgnoresFinds := by
  refine ignores_bind (ignores_look fun _ _ => rfl) fun browser => ?_
  refine ignores_bind (setSession_ignores _) fun _ => ?_
  cases browser with
  | none => exact ignores_pure _
  | some browser => exact ignores_discard (ignores_attempt (call_ignores _))

theorem launch_ignores : scenario.launch.IgnoresFinds := by
  -- What is left to do when the driver runs.
  have rest : (do
      let browser ← scenario.call (.launch scenario.settings.headless
        scenario.settings.browserArguments)
      change <| Scene.setSession fun session => { session with browser := some browser }
      let context ← scenario.call (.newContext browser)
      change <| Scene.setSession fun session => { session with context := some context }
      let page ← scenario.call (.newPage context)
      change <| Scene.setSession fun session => { session with page := some page }
      scenario.call (.setPatience page
        (scenario.limitOf scenario.settings.defaultTimeout))).IgnoresFinds := by
    refine ignores_bind (call_ignores _) fun _ => ?_
    refine ignores_bind (setSession_ignores _) fun _ => ?_
    refine ignores_bind (call_ignores _) fun _ => ?_
    refine ignores_bind (setSession_ignores _) fun _ => ?_
    refine ignores_bind (call_ignores _) fun _ => ?_
    exact ignores_bind (setSession_ignores _) fun _ => call_ignores _
  refine ignores_bind (ignores_look fun _ _ => rfl) fun driverRuns => ?_
  cases driverRuns with
  | true => exact rest
  | false =>
    exact ignores_bind (call_ignores _) fun _ =>
      ignores_bind (setSession_ignores _) fun _ => rest

theorem launchAttempts_ignores (total left : Nat) :
    (scenario.launchAttempts total left).IgnoresFinds := by
  induction left with
  | zero => exact ignores_pure _
  | succ left ih =>
    refine ignores_bind closeBrowser_ignores fun _ => ?_
    refine ignores_bind (ignores_attempt launch_ignores) fun tried => ?_
    cases tried with
    | ok value => exact ignores_pure _
    | error failure =>
      dsimp only
      split
      · exact ignores_throw _
      · exact ignores_bind (ignores_change fun _ _ => rfl) fun _ => ih

/-! ## Records -/

omit [Scale T] in
theorem record_ignores (event : Nat -> Event) : (scenario.record event).IgnoresFinds := by
  intro finds scene
  obtain ⟨_, _, _, _, _, _, counts, _, log, files, _, _, _⟩ := scene
  cases log with
  | none => rfl
  | some log =>
    simp only [record, Scene.withFinds]
    rcases log.add (event counts.lastAttempts) files with ⟨log, _ | files⟩ <;> rfl

end Scenario

end Rehearsal
