import Rehearsal.Interpreter
import Rehearsal.Proofs.Activity.Conduct
import Rehearsal.Proofs.Comparison.Coherence
import Rehearsal.Proofs.Failure.Grounds
import Rehearsal.Proofs.Record.Targets
import Rehearsal.Proofs.Scenario.BrokerRequests
import Rehearsal.Proofs.World.Transcript

/-!
The conduct of steps. A step calls, waits, and changes what was found on the pages and what was
saved or sent; it raises faults and failures that rest on nothing worse. What goes beyond that is
looked up, uploaded, requested or gone to, and is for each record to allow for.
-/

set_option autoImplicit false

namespace Rehearsal

open Activity

theorem Call.resource?_of_broker {T : Type} {call : Call T} (own : call.isToBroker = true) :
    call.resource? ≠ some .browser ∧ call.resource? ≠ some .handle := by
  cases call <;> first | exact absurd own Bool.false_ne_true | exact ⟨nofun, nofun⟩

namespace Scenario

variable {W T : Type}

/-- A conduct that allows for what any step may do. -/
structure Admits (scenario : Scenario W T) (conduct : Conduct (Scene W)) : Prop where
  called : ∀ call : Call T, call.resource? = none → ∀ scene, conduct.leads scene
    { scene with world := (scenario.world.perform call scene.world).2 }
  slept : ∀ span scene, conduct.leads scene (scenario.clock.sleep span scene)
  -- Resources are only taken hold of together with where they are held.
  found : ∀ page element (lead : Lead) failed,
    (scenario.ask lead.target.first .handle >>= fun handle =>
      scenario.keep page element lead handle failed).Follows conduct
  producers : scenario.settings.brokerEnabled = true → scenario.producer.Follows conduct
  consumers : scenario.settings.brokerEnabled = true → scenario.consumer.Follows conduct
  topics : ∀ topic scene, conduct.leads scene
    (scene.setBroker fun broker => { broker with topics := broker.topics ++ [topic] })
  reloaded : ∀ page scene, conduct.leads scene (scene.reloadPage page)
  dropped : ∀ scene, conduct.leads scene scene.dropHandles
  cookieJar : ∀ scene cookieJar, conduct.leads scene { scene with cookieJar }
  grounded : ∀ failure : Failure, failure.isConfiguration = false →
    (∀ ground ∈ failure.grounds, conduct.raises ground) → conduct.raises failure

/-- A conduct that does not care how resources are come by. -/
structure Permits (scenario : Scenario W T) (conduct : Conduct (Scene W)) : Prop where
  called : ∀ call : Call T, call.resource? ≠ some .browser → ∀ scene, conduct.leads scene
    { scene with world := (scenario.world.perform call scene.world).2 }
  slept : ∀ span scene, conduct.leads scene (scenario.clock.sleep span scene)
  handles : ∀ scene handles, conduct.leads scene { scene with handles }
  resolutions : ∀ scene resolutions, conduct.leads scene { scene with resolutions }
  snapshots : ∀ scene snapshots, conduct.leads scene { scene with snapshots }
  broker : ∀ scene broker, conduct.leads scene { scene with broker }
  cookieJar : ∀ scene cookieJar, conduct.leads scene { scene with cookieJar }
  grounded : ∀ failure : Failure, failure.isConfiguration = false →
    (∀ ground ∈ failure.grounds, conduct.raises ground) → conduct.raises failure

/-- An element that the catalog does not have may be reported. -/
def MayLack (scenario : Scenario W T) (conduct : Conduct (Scene W)) (page element : String) :
    Prop :=
  ∀ failure, scenario.catalog.candidates page element = .error failure → conduct.raises failure

def AllowsLookup (scenario : Scenario W T) (conduct : Conduct (Scene W)) (header : Header)
    (needsElement : Bool) : Prop :=
  header.seeksElement needsElement = true →
    scenario.MayLack conduct (header.page.getD "") (header.element.getD "")

/-- A conduct that allows for what one action does beyond other steps. -/
structure Allows (scenario : Scenario W T) (conduct : Conduct (Scene W)) (action : Action) :
    Prop where
  lookup : scenario.AllowsLookup conduct action.header action.operation.needsElement
  target : ∀ page, action.operation = .navigate page →
    (∀ scene, conduct.leads scene (scene.enter page)) ∧
      ∀ failure, scenario.catalog.pagePath page = .error failure → conduct.raises failure
  upload : action.operation = .uploadFile → ∀ path, conduct.raises (.missingUpload path)
  request : scenario.hasHttp = false → ∀ method url body headers,
    action.operation = .httpCall method url body headers → conduct.raises .noHttpClient
  save : ∀ key, action.operation = .saveState key →
    ∀ scene snapshots, conduct.leads scene { scene with snapshots }

variable {scenario : Scenario W T} {conduct : Conduct (Scene W)}

namespace Permits

variable (permits : scenario.Permits conduct)

include permits

theorem call_follows (call : Call T) (apart : call.resource? ≠ some .browser) :
    (scenario.call call).Follows conduct := by
  intro scene
  have led := permits.called call apart scene
  unfold Scenario.call
  split
  next ran => exact ⟨by rwa [ran] at led, nofun⟩
  next fault _ ran =>
    refine ⟨by rwa [ran] at led, fun failure raised => ?_⟩
    cases raised
    exact permits.grounded _ rfl (by simp [Failure.grounds, Failure.cause?])

theorem keep_follows (page element : String) (lead : Lead) (handle : Option Handle)
    (failed : Nat) : (scenario.keep page element lead handle failed).Follows conduct := by
  intro scene
  refine ⟨?_, nofun⟩
  exact conduct.onward (permits.resolutions scene (scene.resolutions + 1)) (permits.handles _ _)

theorem broker_follows (call : Call T) (own : call.isToBroker = true) :
    (scenario.call call).Follows conduct :=
  permits.call_follows call (Call.resource?_of_broker own).1

theorem admits : scenario.Admits conduct where
  called call plain := permits.called call fun concerns => by cases plain.symm.trans concerns
  slept := permits.slept
  found page element lead failed :=
    follows_bind (permits.call_follows _ nofun) fun _ =>
      permits.keep_follows page element lead _ failed
  producers _ := producer_follows permits.broker_follows fun _ _ => permits.broker _ _
  consumers _ := consumer_follows permits.broker_follows fun _ _ => permits.broker _ _
  topics _ _ := permits.broker _ _
  reloaded _ _ := permits.handles _ _
  dropped _ := permits.handles _ _
  cookieJar := permits.cookieJar
  grounded := permits.grounded

theorem closeBroker_follows : scenario.closeBroker.Follows conduct :=
  Scenario.closeBroker_follows permits.broker_follows fun _ _ => permits.broker _ _

end Permits

theorem Admits.plain (admits : scenario.Admits conduct) {failure : Failure}
    (plain : failure.isConfiguration = false) (first : failure.grounds = []) :
    conduct.raises failure :=
  admits.grounded failure plain (by simp [first])

theorem Admits.lost (admits : scenario.Admits conduct) {failure : Failure}
    (allowed : conduct.raises failure) : conduct.raises (.sessionLost failure) :=
  admits.grounded _ rfl (by simpa [Failure.grounds, Failure.cause?] using allowed)

theorem Admits.suits [Scale T] (admits : scenario.Admits conduct) {polling : Polling T}
    (plain : polling.kind.isConfiguration = false) :
    polling.Suits scenario.clock conduct where
  sleeps := admits.slept
  expires := by
    intro cause noted
    refine admits.grounded _ ?_ ?_
    · simpa [Polling.timeoutFailure, Failure.isConfiguration, Failure.kind?] using plain
    · simpa [Polling.timeoutFailure, Failure.grounds, Failure.cause?] using noted
  loses := by
    intro failure allowed
    unfold Polling.asUnreachable
    split
    · exact allowed
    · exact admits.lost allowed

theorem anyOf_follows {A : Type} {test : A -> Activity (Scene W) Bool}
    (tests : ∀ item, (test item).Follows conduct) (items : List A) :
    (anyOf test items).Follows conduct := by
  induction items with
  | nil => exact follows_pure _
  | cons item rest ih =>
    refine follows_bind (tests item) fun held => ?_
    cases held with
    | true => exact follows_pure _
    | false => exact ih

theorem orElse_follows {first second : Activity (Scene W) Unit} (before : first.Follows conduct)
    (after : second.Follows conduct) : (orElse first second).Follows conduct := by
  refine follows_bind_attempt before (fun _ => follows_pure _) fun failure allowed => ?_
  dsimp only
  split
  · exact follows_throw allowed
  · exact after

variable (admits : scenario.Admits conduct)

include admits

theorem liftFault_follows {A : Type} (result : Except Fault A) :
    (liftFault result : Activity (Scene W) A).Follows conduct := by
  refine follows_ofExcept fun failure failed => ?_
  cases result with
  | ok value => cases failed
  | error fault =>
    cases failed
    exact admits.plain rfl rfl

theorem call_follows (call : Call T) (plain : call.resource? = none) :
    (scenario.call call).Follows conduct := by
  intro scene
  have led := admits.called call plain scene
  unfold Scenario.call
  split
  next ran => exact ⟨by rwa [ran] at led, nofun⟩
  next fault _ ran =>
    refine ⟨by rwa [ran] at led, fun failure raised => ?_⟩
    cases raised
    exact admits.plain rfl rfl

theorem livePage_follows : scenario.livePage.Follows conduct := by
  refine follows_bind (follows_look _) fun page => ?_
  cases page with
  | none => exact follows_throw (admits.plain rfl rfl)
  | some page =>
    refine follows_bind (follows_look _) fun closed => ?_
    cases closed with
    | true => exact follows_throw (admits.plain rfl rfl)
    | false => exact follows_pure _

theorem currentUrl_follows : scenario.currentUrl.Follows conduct :=
  follows_bind (livePage_follows admits) fun _ => follows_look _

theorem urlShows_follows (part : String) : (scenario.urlShows part).Follows conduct :=
  follows_bind (currentUrl_follows admits) fun _ => follows_pure _

theorem sessionContext_follows : scenario.sessionContext.Follows conduct := by
  refine follows_bind (follows_look _) fun context => ?_
  cases context with
  | none => exact follows_throw (admits.plain rfl rfl)
  | some context => exact follows_pure _

theorem captureCookies_follows : scenario.captureCookies.Follows conduct :=
  follows_bind (sessionContext_follows admits) fun _ => call_follows admits _ rfl

theorem restoreCookies_follows (cookies : List Datum) :
    (scenario.restoreCookies cookies).Follows conduct := by
  refine follows_bind (sessionContext_follows admits) fun context => ?_
  refine follows_bind (call_follows admits _ rfl) fun _ => ?_
  have reload : (scenario.livePage >>= fun page =>
      scenario.call (.reload page)).Follows conduct :=
    follows_bind (livePage_follows admits) fun _ => call_follows admits _ rfl
  cases cookies with
  | nil => exact reload
  | cons cookie rest => exact follows_bind (call_follows admits _ rfl) fun _ => reload

/-! ## Looking at elements -/

theorem hasMatch_follows (target : Target) : (scenario.hasMatch target).Follows conduct :=
  follows_bind (call_follows admits _ rfl) fun _ => follows_pure _

theorem isVisible_follows (target : Target) : (scenario.isVisible target).Follows conduct :=
  call_follows admits _ rfl

theorem isEnabled_follows (target : Target) : (scenario.isEnabled target).Follows conduct :=
  call_follows admits _ rfl

theorem isClickable_follows (target : Target) : (scenario.isClickable target).Follows conduct := by
  refine follows_bind (isVisible_follows admits target) fun visible => ?_
  cases visible with
  | true => exact isEnabled_follows admits target
  | false => exact follows_pure _

theorem showsText_follows (text : String) (target : Target) :
    (scenario.showsText text target).Follows conduct :=
  follows_bind (call_follows admits _ rfl) fun _ => follows_pure _

theorem anyMatch_follows {test : Target -> Activity (Scene W) Bool}
    (tests : ∀ target, (test target).Follows conduct) (target : Target) :
    (scenario.anyMatch test target).Follows conduct :=
  follows_bind (call_follows admits _ rfl) fun _ => anyOf_follows (fun _ => tests _) _

theorem firstCount_follows (leads : List Lead) : (scenario.firstCount leads).Follows conduct := by
  induction leads with
  | nil => exact follows_pure _
  | cons lead rest ih =>
    refine follows_bind (call_follows admits _ rfl) fun (count : Nat) => ?_
    split
    · exact ih
    · exact follows_pure _

theorem isGone_follows (handle : Option Handle) : (scenario.isGone handle).Follows conduct := by
  cases handle with
  | none => exact follows_pure _
  | some handle =>
    refine follows_bind_attempt (call_follows admits _ rfl) (fun _ => follows_pure _) ?_
    intro failure allowed
    dsimp only
    split
    · exact follows_throw (admits.lost allowed)
    · exact follows_pure _

theorem scriptHolds_follows (script : String) : (scenario.scriptHolds script).Follows conduct := by
  refine follows_bind (livePage_follows admits) fun page => ?_
  refine follows_bind (call_follows admits _ rfl) fun answer => ?_
  split <;> exact follows_pure _

section

variable {page element : String} (lacks : scenario.MayLack conduct page element)
  (row : Option Row)

include lacks

theorem leads_follows : (scenario.leads page element row).Follows conduct :=
  follows_bind (livePage_follows admits) fun _ =>
    follows_bind (follows_ofExcept lacks) fun _ => follows_pure _

theorem anyLead_follows {test : Target -> Activity (Scene W) Bool}
    (tests : ∀ target, (test target).Follows conduct) :
    (scenario.anyLead page element row test).Follows conduct :=
  follows_bind (leads_follows admits lacks row) fun _ => anyOf_follows (fun _ => tests _) _

theorem countMatches_follows : (scenario.countMatches page element row).Follows conduct :=
  follows_bind (leads_follows admits lacks row) fun _ => firstCount_follows admits _

end

/-! ## Messages and requests -/

section

variable (enabled : scenario.settings.brokerEnabled = true)

include enabled

theorem produce_follows (topic : String) (key value : Option String) :
    (scenario.produce topic key value).Follows conduct := by
  refine follows_bind (admits.producers enabled) fun producer => ?_
  exact follows_bind (call_follows admits _ rfl) fun _ => call_follows admits _ rfl

theorem subscribe_follows (topic : String) : (scenario.subscribe topic).Follows conduct := by
  refine follows_bind (follows_look _) fun topics => ?_
  split
  · exact follows_pure _
  · refine follows_bind (follows_change fun scene => admits.topics _ scene) fun _ => ?_
    refine follows_bind (admits.consumers enabled) fun consumer => ?_
    exact follows_bind (follows_look _) fun _ => call_follows admits _ rfl

end

theorem keepCookies_follows (request : Http.Request) (reply : Http.Reply) :
    (scenario.keepCookies request reply).Follows conduct :=
  follows_bind (liftFault_follows admits _) fun _ =>
    follows_change fun _ => admits.cookieJar _ _

theorem exchange_follows (redirects : Nat) (request : Http.Request) :
    (scenario.exchange redirects request).Follows conduct := by
  induction redirects generalizing request with
  | zero => exact follows_throw (admits.plain rfl rfl)
  | succ redirects ih =>
    refine follows_bind (call_follows admits _ rfl) fun (reply : Http.Reply) => ?_
    refine follows_bind (keepCookies_follows admits _ _) fun _ => ?_
    split
    next => exact follows_pure _
    next =>
      refine follows_bind (follows_look _) fun _ => ?_
      exact follows_bind (liftFault_follows admits _) fun next => ih next

theorem sendRequest_follows (method url : String) (body : Option String)
    (headers : Http.Headers) : (scenario.sendRequest method url body headers).Follows conduct := by
  refine follows_bind (follows_look _) fun _ => ?_
  refine follows_bind (liftFault_follows admits _) fun request => ?_
  refine follows_bind (follows_look _) fun closed => ?_
  cases closed with
  | true => exact follows_throw (admits.plain rfl rfl)
  | false => exact exchange_follows admits _ _

theorem request_follows (method url : String) (body : Option String) (headers : Http.Headers) :
    (scenario.request method url body headers).Follows conduct := by
  refine follows_bind_attempt (sendRequest_follows admits _ _ _ _) ?_ ?_
  · intro reply
    dsimp only
    split
    · exact follows_pure _
    · refine follows_bind (liftFault_follows admits _) fun _ => ?_
      exact follows_throw (admits.plain rfl rfl)
  · intro failure allowed
    split
    next fault named =>
      cases named
      split
      · refine follows_throw (admits.grounded _ rfl ?_)
        simpa [Failure.grounds, Failure.cause?] using allowed
      · exact follows_throw allowed
    next named =>
      cases named
      exact follows_throw allowed
    next named => cases named

theorem saveState_follows (key : String)
    (saves : ∀ scene snapshots, conduct.leads scene { scene with snapshots }) :
    (scenario.saveState key).Follows conduct := by
  refine follows_bind (captureCookies_follows admits) fun cookies => ?_
  exact follows_bind (follows_change fun _ => saves _ _) fun _ => follows_pure _

theorem loadState_follows (key : String) : (scenario.loadState key).Follows conduct := by
  refine follows_bind (follows_look _) fun saved => ?_
  cases saved with
  | none => exact follows_pure _
  | some cookies =>
    refine follows_bind (restoreCookies_follows admits _) fun _ => ?_
    exact follows_bind (follows_change admits.dropped) fun _ => follows_pure _

omit admits in
theorem withBroker_follows {step : Activity (Scene W) StepOutcome}
    (steps : scenario.settings.brokerEnabled = true → step.Follows conduct) :
    (scenario.withBroker step).Follows conduct := by
  unfold withBroker
  split
  next enabled => exact steps enabled
  next => exact follows_pure _

theorem produceMessage_follows (enabled : scenario.settings.brokerEnabled = true)
    (row : Option Row) (topic : String) (key message : Option String) :
    (scenario.produceMessage row topic key message).Follows conduct :=
  follows_bind (produce_follows admits enabled _ _ _) fun _ => follows_pure _

theorem conditionMet_follows (target : Target) (condition : Condition) :
    (scenario.conditionMet target condition).Follows conduct := by
  cases condition with
  | present => exact follows_pure _
  | visible => exact isVisible_follows admits target
  | enabled => exact isEnabled_follows admits target

theorem prepare_follows (target : Target) (limit : Quantity T) :
    (scenario.prepare target limit).Follows conduct := by
  refine follows_bind (call_follows admits _ rfl) fun _ => ?_
  refine follows_bind (call_follows admits _ rfl) fun _ => ?_
  refine follows_bind (call_follows admits _ rfl) fun _ => ?_
  refine follows_bind (isEnabled_follows admits target) fun enabled => ?_
  cases enabled with
  | true => exact follows_pure _
  | false => exact follows_throw (admits.plain rfl rfl)

theorem holdsValue_follows (target : Target) (value : String) :
    (scenario.holdsValue target value).Follows conduct :=
  follows_bind (call_follows admits _ rfl) fun _ => follows_pure _

theorem showsOption_follows (target : Target) (label : String) :
    (scenario.showsOption target label).Follows conduct :=
  follows_bind (call_follows admits _ rfl) fun _ => follows_pure _

theorem reloadPage_follows (page : String) :
    (change (Scene.reloadPage page) : Activity (Scene W) Unit).Follows conduct :=
  follows_change (admits.reloaded page)

/-! ## Finding elements -/

variable [Scale T]

theorem fetch_follows (span : T) : (scenario.fetch span).Follows conduct := by
  refine follows_bind (follows_look _) fun consumer => ?_
  cases consumer with
  | none => exact follows_pure _
  | some consumer =>
    dsimp only
    split
    · exact follows_throw (admits.plain rfl rfl)
    · exact follows_bind (call_follows admits _ rfl) fun _ => follows_pure _

theorem consumeMessage_follows (enabled : scenario.settings.brokerEnabled = true)
    (header : Header) (row : Option Row) (topic key : String) (part : Option String) :
    (scenario.consumeMessage header row topic key part).Follows conduct := by
  refine follows_bind (subscribe_follows admits enabled _) fun _ => ?_
  refine follows_bind ?_ fun _ => follows_pure _
  refine Polling.run_follows (admits.suits rfl) _ ?_
  exact follows_bind (fetch_follows admits _) fun _ => follows_pure _

theorem tryLeads_follows (page element : String) (timeout : T) (noted : List (String × String))
    (leads : List Lead) :
    (scenario.tryLeads page element timeout noted leads).Follows conduct := by
  induction leads generalizing noted with
  | nil => exact follows_throw (admits.plain rfl rfl)
  | cons lead rest ih =>
    -- The handle is taken in the last call of the attempt, and kept right after that.
    refine follows_bind_attempt_of_bind ?_ fun failure allowed => ?_
    · dsimp only
      rw [awaitLead, bind_assoc]
      exact follows_bind (Polling.test_follows (admits.suits rfl) _ (hasMatch_follows admits _))
        fun _ => admits.found page element lead _
    · dsimp only
      split
      · exact follows_throw allowed
      · exact ih _

section

variable {page element : String} (lacks : scenario.MayLack conduct page element)
  (row : Option Row) (timeout : T)

include lacks

theorem resolve_follows : (scenario.resolve page element row timeout).Follows conduct := by
  refine follows_bind (follows_look _) fun known => ?_
  cases known with
  | some resolved => exact follows_pure _
  | none =>
    exact follows_bind (leads_follows admits lacks row) fun _ =>
      tryLeads_follows admits _ _ _ _ _

end

theorem testOf_follows (condition : WaitCondition) {page element : String}
    (lacks : condition.needsElement = true → scenario.MayLack conduct page element)
    (row : Option Row) (timeout : T) :
    (scenario.testOf condition page element row timeout).Follows conduct ∧
      (scenario.testOf condition page element row timeout).Yields
        fun test => test.Follows conduct := by
  cases condition with
  | visible =>
    refine ⟨follows_pure _, yields_pure (anyLead_follows admits (lacks rfl) row ?_)⟩
    exact anyMatch_follows admits (isVisible_follows admits)
  | clickable =>
    refine ⟨follows_pure _, yields_pure (anyLead_follows admits (lacks rfl) row ?_)⟩
    exact anyMatch_follows admits (isClickable_follows admits)
  | present =>
    refine ⟨follows_pure _, yields_pure (anyLead_follows admits (lacks rfl) row ?_)⟩
    exact hasMatch_follows admits
  | invisible =>
    refine ⟨follows_pure _, yields_pure (follows_bind ?_ fun _ => follows_pure _)⟩
    refine anyLead_follows admits (lacks rfl) row ?_
    exact anyMatch_follows admits (isVisible_follows admits)
  | textPresent text =>
    refine ⟨follows_pure _, yields_pure (anyLead_follows admits (lacks rfl) row ?_)⟩
    exact anyMatch_follows admits (showsText_follows admits _)
  | stale =>
    -- This one looks the element up before the test is made, the test itself only at its handle.
    constructor
    · exact follows_bind (resolve_follows admits (lacks rfl) row timeout) fun _ =>
        follows_pure _
    · exact yields_bind fun resolved => yields_pure (isGone_follows admits _)
  | urlContains fragment => exact ⟨follows_pure _, yields_pure (urlShows_follows admits _)⟩
  | custom script => exact ⟨follows_pure _, yields_pure (scriptHolds_follows admits _)⟩

/-! ## Interactions -/

section

variable (target : Target) (patience : Patience T) (timeout : T)

theorem click_follows (double : Bool) :
    (scenario.click target double patience).Follows conduct :=
  follows_bind (prepare_follows admits target _) fun _ =>
    orElse_follows (call_follows admits _ rfl) (call_follows admits _ rfl)

theorem hover_follows : (scenario.hover target patience).Follows conduct :=
  follows_bind (prepare_follows admits target _) fun _ =>
    orElse_follows (call_follows admits _ rfl) (call_follows admits _ rfl)

theorem confirm_follows (shown : String) {test : Activity (Scene W) Bool}
    (tests : test.Follows conduct) : (scenario.confirm shown timeout test).Follows conduct :=
  Polling.test_follows (admits.suits rfl) _ tests

theorem fillField_follows (value : String) :
    (scenario.fillField target value patience timeout).Follows conduct := by
  refine follows_bind (prepare_follows admits target _) fun _ => ?_
  refine follows_bind (call_follows admits _ rfl) fun _ => ?_
  refine follows_bind (call_follows admits _ rfl) fun _ => ?_
  exact confirm_follows admits _ _ (holdsValue_follows admits target value)

theorem clearField_follows : (scenario.clearField target patience timeout).Follows conduct := by
  refine follows_bind (prepare_follows admits target _) fun _ => ?_
  refine follows_bind (call_follows admits _ rfl) fun _ => ?_
  exact confirm_follows admits _ _ (holdsValue_follows admits target "")

theorem selectOption_follows (label : String) :
    (scenario.selectOption target label patience timeout).Follows conduct := by
  refine follows_bind (prepare_follows admits target _) fun _ => ?_
  refine follows_bind ?_ fun _ => ?_
  · exact orElse_follows (call_follows admits _ rfl) (call_follows admits _ rfl)
  exact confirm_follows admits _ _ (showsOption_follows admits target label)

theorem submit_follows : (scenario.submit target patience).Follows conduct := by
  refine follows_bind (prepare_follows admits target _) fun _ => ?_
  refine follows_bind (call_follows admits _ rfl) fun (submitted : Bool) => ?_
  cases submitted with
  | true => exact follows_pure _
  | false => exact call_follows admits _ rfl

theorem upload_follows (path : String) :
    (scenario.upload target path patience).Follows conduct :=
  follows_bind (call_follows admits _ rfl) fun _ => call_follows admits _ rfl

end

/-! ## Steps -/

section

variable {header : Header}
  (lacks : scenario.MayLack conduct (header.page.getD "") (header.element.getD ""))
  (row : Option Row)

include lacks

theorem resolveFor_follows : (scenario.resolveFor header row).Follows conduct :=
  resolve_follows admits lacks row _

theorem onElement_follows (details : Table Datum)
    {interact : Target -> Patience T -> Activity (Scene W) Unit}
    (interacts : ∀ target patience, (interact target patience).Follows conduct) :
    (scenario.onElement header row details interact).Follows conduct := by
  refine follows_bind (resolveFor_follows admits lacks row) fun resolved => ?_
  refine follows_bind (follows_discard (livePage_follows admits)) fun _ => ?_
  exact follows_bind (interacts _ _) fun _ => follows_pure _

theorem seesElement_follows : (scenario.seesElement header row).Follows conduct := by
  refine follows_bind_attempt (resolveFor_follows admits lacks row) ?_ ?_
  · exact fun resolved => isVisible_follows admits _
  · intro failure allowed
    dsimp only
    split
    · exact follows_pure _
    · exact follows_throw allowed

end

theorem await_follows {header : Header} {needsElement : Bool}
    (lookup : scenario.AllowsLookup conduct header needsElement) (row : Option Row) :
    (scenario.await header row).Follows conduct := by
  unfold Scenario.await
  split
  next => exact follows_pure _
  next wait held =>
    have lacks : wait.condition.needsElement = true →
        scenario.MayLack conduct (header.page.getD "") (header.element.getD "") := by
      intro needs
      exact lookup (by simp [Header.seeksElement, held, needs])
    obtain ⟨chosen, tests⟩ := testOf_follows admits wait.condition lacks row
      (scenario.effectiveTimeout header)
    exact follows_bind_of_yields chosen tests fun _ tested =>
      Polling.test_follows (admits.suits rfl) _ tested

theorem trigger_follows {header : Header} {needsElement : Bool}
    (lookup : scenario.AllowsLookup conduct header needsElement) (row : Option Row) :
    (scenario.trigger header row).Follows conduct := by
  unfold trigger
  split
  · exact follows_pure _
  next hasName =>
    have lacks := lookup (by simp_all [Header.seeksElement])
    refine follows_bind (resolveFor_follows admits lacks row) fun resolved => ?_
    refine follows_bind (follows_discard (livePage_follows admits)) fun _ => ?_
    exact follows_bind (click_follows admits _ _ _) fun _ => follows_pure _

variable {action : Action} (allows : scenario.Allows conduct action) (row : Option Row)

include allows

theorem uploadFile_follows (uploads : action.operation = .uploadFile) :
    (scenario.uploadFile action row).Follows conduct := by
  have lacks := allows.lookup (by simp [Header.seeksElement, uploads, Operation.needsElement])
  let path := Path.ofText (scenario.valueFor action row)
  refine follows_bind (follows_look _) fun files => ?_
  refine follows_bind (liftFault_follows admits _) fun present => ?_
  have uploaded := onElement_follows admits lacks row [("path", .text path.text)]
    fun target patience => upload_follows admits target patience (files.absolute path)
  cases present with
  | false => exact follows_throw (allows.upload uploads _)
  | true => exact uploaded

theorem navigate_follows {page : String} (goes : action.operation = .navigate page) :
    (scenario.navigate action.header row page).Follows conduct := by
  obtain ⟨enters, unknown⟩ := allows.target page goes
  refine follows_bind (follows_ofExcept unknown) fun path => ?_
  refine follows_bind (trigger_follows admits allows.lookup row) fun triggered => ?_
  refine follows_bind (Polling.test_follows (admits.suits rfl) _
    (urlShows_follows admits path)) fun _ => ?_
  refine follows_bind (follows_change fun scene => ?_) fun _ => ?_
  · exact conduct.onward (admits.reloaded page scene) (enters _)
  · exact follows_bind (currentUrl_follows admits) fun _ => follows_pure _

theorem check_follows {condition : Condition} {ifTrueNext ifFalseNext : Nat}
    (checks : action.operation = .check condition ifTrueNext ifFalseNext) :
    (scenario.check action row condition ifTrueNext ifFalseNext).Follows conduct := by
  have lacks := allows.lookup (by simp [Header.seeksElement, checks, Operation.needsElement])
  refine follows_bind_attempt (resolveFor_follows admits lacks row) ?_ ?_
  · exact fun resolved => follows_bind (conditionMet_follows admits _ _) fun _ => follows_pure _
  · intro failure allowed
    dsimp only
    split
    · exact follows_pure _
    · exact follows_throw allowed

omit [Scale T] in
theorem httpCall_follows {method url : String} {body : Option String} {headers : Table String}
    (requests : action.operation = .httpCall method url body headers) :
    (scenario.httpCall row method url body headers).Follows conduct := by
  unfold httpCall
  split
  next missing =>
    exact follows_throw (allows.request (by simpa using missing) _ _ _ _ requests)
  next =>
    exact follows_bind (request_follows admits _ _ _ _) fun _ => follows_pure _

theorem perform_follows : (scenario.perform action row).Follows conduct := by
  have lookup := allows.lookup
  have lacks := fun (needs : action.operation.needsElement = true) =>
    lookup (by simp [Header.seeksElement, needs])
  unfold perform
  split
  next kind =>
    exact onElement_follows admits (lacks (kind ▸ rfl)) row _ fun target patience =>
      fillField_follows admits target patience _ _
  next kind =>
    exact onElement_follows admits (lacks (kind ▸ rfl)) row _ fun target patience =>
      click_follows admits target patience _
  next kind =>
    exact onElement_follows admits (lacks (kind ▸ rfl)) row _ fun target patience =>
      click_follows admits target patience _
  next kind =>
    exact onElement_follows admits (lacks (kind ▸ rfl)) row _ fun target patience =>
      selectOption_follows admits target patience _ _
  next kind => exact onElement_follows admits (lacks (kind ▸ rfl)) row _ (hover_follows admits)
  next kind =>
    exact onElement_follows admits (lacks (kind ▸ rfl)) row _ fun target patience =>
      clearField_follows admits target patience _
  next kind => exact onElement_follows admits (lacks (kind ▸ rfl)) row _ (submit_follows admits)
  next kind => exact uploadFile_follows admits allows row kind
  next kind => exact navigate_follows admits allows row kind
  next kind => exact check_follows admits allows row kind
  next kind => exact saveState_follows admits _ (allows.save _ kind)
  next => exact loadState_follows admits _
  next => exact withBroker_follows fun enabled => produceMessage_follows admits enabled _ _ _ _
  next => exact withBroker_follows fun enabled => consumeMessage_follows admits enabled _ _ _ _ _
  next kind => exact httpCall_follows admits allows row kind

/-! ## Records -/

omit allows in
theorem prepared_follows {A : Type} {header : Header} {needsElement : Bool}
    (lookup : scenario.AllowsLookup conduct header needsElement) (row : Option Row)
    {step : Activity (Scene W) A} (steps : step.Follows conduct) :
    (scenario.prepared header row step).Follows conduct := by
  refine follows_bind (await_follows admits lookup row) fun _ => ?_
  dsimp only
  split
  · exact follows_bind (reloadPage_follows admits _) fun _ => steps
  · exact steps

theorem takeAction_follows : (scenario.takeAction action row).Follows conduct :=
  prepared_follows admits allows.lookup row (perform_follows admits allows row)

omit allows in
theorem judge_follows {assertion : Assertion}
    (lookup : scenario.AllowsLookup conduct assertion.header assertion.aspect.needsElement)
    (row : Option Row) : (scenario.judge assertion row).Follows conduct := by
  have lacks := fun (needs : assertion.aspect.needsElement = true) =>
    lookup (by simp [Header.seeksElement, needs])
  refine follows_bind ?_ fun actual => follows_bind (follows_ofExcept ?_) fun _ => follows_pure _
  · unfold observe
    dsimp only
    split
    next => exact follows_bind (currentUrl_follows admits) fun _ => follows_pure _
    next kind =>
      exact follows_bind (countMatches_follows admits (lacks (kind ▸ rfl)) row) fun _ =>
        follows_pure _
    next kind =>
      exact follows_bind (seesElement_follows admits (lacks (kind ▸ rfl)) row) fun _ =>
        follows_pure _
    all_goals
      next kind =>
        exact follows_bind (resolveFor_follows admits (lacks (kind ▸ rfl)) row) fun _ =>
          follows_bind (call_follows admits _ rfl) fun _ => follows_pure _
  · intro failure refused
    cases Comparison.check_error refused <;> exact admits.plain rfl rfl

omit allows in
theorem takeAssertion_follows {assertion : Assertion}
    (lookup : scenario.AllowsLookup conduct assertion.header assertion.aspect.needsElement)
    (row : Option Row) : (scenario.takeAssertion assertion row).Follows conduct :=
  prepared_follows admits lookup row (judge_follows admits lookup row)

/-! ## Recovery -/

omit allows in
theorem openPage_follows {page : String} (enters : ∀ scene, conduct.leads scene (scene.enter page))
    (unknown : ∀ failure, scenario.catalog.pagePath page = .error failure →
      conduct.raises failure) : (scenario.openPage page).Follows conduct := by
  refine follows_bind (follows_ofExcept unknown) fun path => ?_
  refine follows_bind (livePage_follows admits) fun live => ?_
  refine follows_bind (call_follows admits _ rfl) fun _ => ?_
  refine follows_bind (Polling.test_follows (admits.suits rfl) _
    (urlShows_follows admits path)) fun _ => ?_
  refine follows_bind (follows_change fun scene => ?_) fun _ => ?_
  · exact conduct.onward (admits.reloaded page scene) (enters _)
  · exact follows_bind (currentUrl_follows admits) fun _ => follows_pure _

end Scenario

end Rehearsal
