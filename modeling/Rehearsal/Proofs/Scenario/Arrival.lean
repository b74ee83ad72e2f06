import Rehearsal.Proofs.Scenario.Conduct
import Rehearsal.Proofs.Time.PollHistory
import Rehearsal.Proofs.World.CallLog

/-!
What the steps of a script leave as it is, and going to a page. A step changes the world, what was
found on the pages, and what it saved or sent; only going to a page also changes which page the
scenario is on. A scenario is on a page from when the browser was seen to show its address; up to
then, and if that never happens, it is where it was.
-/

set_option autoImplicit false

namespace Rehearsal

open Activity

namespace Scene

variable {W V : Type}

def Worldless (view : Scene W -> V) : Prop :=
  ∀ scene world, view { scene with world } = view scene

/-- A view that shows nothing of what steps change, other than the page that the scenario is on. -/
structure Blind (view : Scene W -> V) : Prop where
  world : Worldless view
  handles : ∀ scene handles, view { scene with handles } = view scene
  resolutions : ∀ scene resolutions, view { scene with resolutions } = view scene
  snapshots : ∀ scene snapshots, view { scene with snapshots } = view scene
  broker : ∀ scene broker, view { scene with broker } = view scene
  cookieJar : ∀ scene cookieJar, view { scene with cookieJar } = view scene

theorem blind_session : Blind (session (W := W)) :=
  ⟨fun _ _ => rfl, fun _ _ => rfl, fun _ _ => rfl, fun _ _ => rfl, fun _ _ => rfl, fun _ _ => rfl⟩

theorem blind_counts : Blind (counts (W := W)) :=
  ⟨fun _ _ => rfl, fun _ _ => rfl, fun _ _ => rfl, fun _ _ => rfl, fun _ _ => rfl, fun _ _ => rfl⟩

theorem blind_currentPage : Blind (currentPage (W := W)) :=
  ⟨fun _ _ => rfl, fun _ _ => rfl, fun _ _ => rfl, fun _ _ => rfl, fun _ _ => rfl, fun _ _ => rfl⟩

end Scene

namespace Scenario

variable {W T V : Type} {view : Scene W -> V} (scenario : Scenario W T)

/-! ## What only looks and calls -/

theorem livePage_keeps : scenario.livePage.Keeps view := by
  refine keeps_bind (keeps_look _) fun page => ?_
  cases page with
  | none => exact keeps_throw _
  | some page =>
    refine keeps_bind (keeps_look _) fun closed => ?_
    cases closed with
    | true => exact keeps_throw _
    | false => exact keeps_pure _

theorem currentUrl_keeps : scenario.currentUrl.Keeps view :=
  keeps_bind scenario.livePage_keeps fun _ => keeps_look _

theorem urlShows_keeps (part : String) : (scenario.urlShows part).Keeps view :=
  keeps_bind scenario.currentUrl_keeps fun _ => keeps_pure _

section

variable (worldless : Scene.Worldless view)

include worldless

theorem call_keeps (call : Call T) : (scenario.call call).Keeps view := by
  intro scene
  unfold Scenario.call
  split <;> exact worldless _ _

theorem clock_keeps (span : T) (scene : Scene W) :
    view (scenario.clock.sleep span scene) = view scene := worldless _ _

theorem test_keeps [Scale T] (polling : Polling T) {probe : Activity (Scene W) Bool}
    (probes : probe.Keeps view) :
    (polling.test scenario.clock scenario.fuel probe).Keeps view :=
  Polling.test_keeps (scenario.clock_keeps worldless) _ probes

end

/-! ## Steps -/

variable (blind : Scene.Blind view)

include blind

theorem permits_keeping : scenario.Permits (.keeping view) where
  called _ _ scene := blind.world scene _
  slept _ scene := blind.world scene _
  handles := blind.handles
  resolutions := blind.resolutions
  snapshots := blind.snapshots
  broker := blind.broker
  cookieJar := blind.cookieJar
  grounded _ _ _ := trivial

theorem reloadPage_keeps (page : String) :
    (change (Scene.reloadPage page) : Activity (Scene W) Unit).Keeps view :=
  keeps_change fun _ => blind.handles _ _

variable [Scale T]

omit blind [Scale T] in
theorem allowsLookup_keeping (header : Header) (needsElement : Bool) :
    scenario.AllowsLookup (.keeping view) header needsElement := fun _ _ _ => trivial

theorem await_keeps (header : Header) (row : Option Row) :
    (scenario.await header row).Keeps view :=
  Conduct.follows_keeping.mp
    (await_follows (scenario.permits_keeping blind).admits (scenario.allowsLookup_keeping header true) row)

theorem trigger_keeps (header : Header) (row : Option Row) :
    (scenario.trigger header row).Keeps view :=
  Conduct.follows_keeping.mp
    (trigger_follows (scenario.permits_keeping blind).admits (scenario.allowsLookup_keeping header true)
      row)

theorem takeAction_keeps (action : Action) (row : Option Row)
    (enters : ∀ page, action.operation = .navigate page →
      ∀ scene, view (scene.enter page) = view scene) :
    (scenario.takeAction action row).Keeps view := by
  have allows : scenario.Allows (.keeping view) action :=
    ⟨scenario.allowsLookup_keeping _ _, fun page goes => ⟨enters page goes, fun _ _ => trivial⟩,
      fun _ _ => trivial, fun _ _ _ _ _ _ => trivial, fun _ _ => blind.snapshots⟩
  exact Conduct.follows_keeping.mp
    (takeAction_follows (scenario.permits_keeping blind).admits allows row)

theorem takeAssertion_keeps (assertion : Assertion) (row : Option Row) :
    (scenario.takeAssertion assertion row).Keeps view :=
  Conduct.follows_keeping.mp
    (takeAssertion_follows (scenario.permits_keeping blind).admits (scenario.allowsLookup_keeping _ _) row)

end Scenario

/-! ## Going to a page -/

namespace Scenario

variable {W T A B : Type} (scenario : Scenario W T)

structure IsLive (scene : Scene W) (live : PageId) : Prop where
  held : scene.session.page = some live
  opened : scenario.world.isClosed scene.world live = false

/-- The session's page is open, and its address has the path of the page in it. -/
def Shows (page : String) (scene : Scene W) : Prop :=
  ∃ path live, scenario.catalog.pagePath page = .ok path ∧ scenario.IsLive scene live ∧
    Text.contains (scenario.world.url scene.world live) path = true

variable {scenario} {page path : String}

/-! ## Looking at the page -/

theorem livePage_of_live {scene : Scene W} {live : PageId} (lives : scenario.IsLive scene live) :
    scenario.livePage scene = (.ok live, scene) := by
  simp [livePage, bind_run, lives.held, lives.opened]

theorem live_or_closed (scenario : Scenario W T) (scene : Scene W) :
    (∃ live, scenario.IsLive scene live) ∨ scenario.livePage scene = (.failed .noPage, scene) := by
  cases held : scene.session.page with
  | none => exact .inr (by simp [livePage, bind_run, held])
  | some live =>
    cases closed : scenario.world.isClosed scene.world live with
    | false => exact .inl ⟨live, held, closed⟩
    | true => exact .inr (by simp [livePage, bind_run, held, closed])

theorem currentUrl_of_live {scene : Scene W} {live : PageId} (lives : scenario.IsLive scene live) :
    scenario.currentUrl scene = (.ok (scenario.world.url scene.world live), scene) := by
  simp [currentUrl, bind_run, livePage_of_live lives]

theorem urlShows_found {part : String} {scene after : Scene W}
    (found : scenario.urlShows part scene = (.ok true, after)) :
    after = scene ∧ ∃ live, scenario.IsLive scene live ∧
      Text.contains (scenario.world.url scene.world live) part = true := by
  rcases scenario.live_or_closed scene with ⟨live, lives⟩ | closed
  · simp only [urlShows, bind_run, currentUrl_of_live lives, pure_run, Prod.mk.injEq,
      Outcome.ok.injEq] at found
    exact ⟨found.2.symm, live, lives, found.1⟩
  · simp [urlShows, currentUrl, bind_run, closed] at found

/-! ## Arrivals -/

variable [Scale T]

/-- The scenario is on another page once polling the address has found the page's path, and only
the page's handles are dropped with that. -/
def Arrives (scenario : Scenario W T) (page : String) (before after : Scene W) : Prop :=
  ∃ path polling asking probed, scenario.catalog.pagePath page = .ok path ∧
    asking.currentPage = before.currentPage ∧
    Polling.test polling scenario.clock scenario.fuel (scenario.urlShows path) asking =
      (.ok (), probed) ∧
    after = (probed.reloadPage page).enter page

/-- An activity that passes has arrived at a page; otherwise it is where it was. -/
def GoesTo (scenario : Scenario W T) (page : String) (activity : Activity (Scene W) A) : Prop :=
  ∀ before, (∀ value after, activity before = (.ok value, after) →
      scenario.Arrives page before after) ∧
    ((∀ value, (activity before).1 ≠ .ok value) →
      (activity before).2.currentPage = before.currentPage)

theorem Arrives.currentPage {before after : Scene W} (arrives : scenario.Arrives page before after) :
    after.currentPage = some page := by
  obtain ⟨_, _, _, probed, -, -, -, rfl⟩ := arrives
  rfl

theorem Arrives.shows {before after : Scene W} (arrives : scenario.Arrives page before after) :
    scenario.Shows page after := by
  obtain ⟨path, polling, asking, probed, known, -, tested, rfl⟩ := arrives
  -- The last probe leaves the scene as polling does, and entering the page changes nothing of it
  -- that the browser shows.
  obtain ⟨between, found⟩ := polling.test_found _ tested
  obtain ⟨rfl, live, lives, contains⟩ := urlShows_found found
  exact ⟨path, live, known, ⟨lives.held, lives.opened⟩, contains⟩

theorem Arrives.of_kept {before between after : Scene W}
    (kept : between.currentPage = before.currentPage)
    (arrives : scenario.Arrives page between after) : scenario.Arrives page before after := by
  obtain ⟨path, polling, asking, probed, known, same, rest⟩ := arrives
  exact ⟨path, polling, asking, probed, known, same.trans kept, rest⟩

/-- Going to a page that the scenario is on already does not lead away from it. -/
theorem GoesTo.remains {activity : Activity (Scene W) A} (goes : scenario.GoesTo page activity)
    {before : Scene W} (here : before.currentPage = some page) :
    (activity before).2.currentPage = some page := by
  obtain ⟨arrives, stays⟩ := goes before
  rcases ran : activity before with ⟨value | failure | _, after⟩ <;> rw [ran] at stays
  · exact (arrives value after ran).currentPage
  · exact (stays (by simp)).trans here
  · exact (stays (by simp)).trans here

theorem goesTo_throw (failure : Failure) :
    scenario.GoesTo page (throw failure : Activity (Scene W) A) := by
  intro scene
  simp

theorem goesTo_bind {first : Activity (Scene W) A} {next : A -> Activity (Scene W) B}
    (before : first.Keeps Scene.currentPage) (goes : ∀ value, scenario.GoesTo page (next value)) :
    scenario.GoesTo page (first >>= next) := by
  intro scene
  have kept := before scene
  rw [bind_run]
  rcases ran : first scene with ⟨value | failure | _, between⟩ <;> rw [ran] at kept
  · obtain ⟨arrives, stays⟩ := goes value between
    exact ⟨fun given after passed => (arrives given after passed).of_kept kept,
      fun unmet => (stays unmet).trans kept⟩
  · exact ⟨by simp, fun _ => kept⟩
  · exact ⟨by simp, fun _ => kept⟩

theorem goesTo_pagePath {next : String -> Activity (Scene W) A}
    (goes : ∀ path, scenario.catalog.pagePath page = .ok path → scenario.GoesTo page (next path)) :
    scenario.GoesTo page (Activity.ofExcept (scenario.catalog.pagePath page) >>= next) := by
  cases known : scenario.catalog.pagePath page with
  | error failure => exact goesTo_throw failure
  | ok path => exact goes path known

/-- Waits until the browser shows the path of a page, and enters the page. -/
def settle (scenario : Scenario W T) (polling : Polling T) (page path : String)
    (report : String -> StepOutcome) : Activity (Scene W) StepOutcome := do
  polling.test scenario.clock scenario.fuel (scenario.urlShows path)
  change fun scene => (scene.reloadPage page).enter page
  return report (← scenario.currentUrl)

/-- After the last probe has seen the path, the address can still be told. -/
theorem settle_goesTo (known : scenario.catalog.pagePath page = .ok path) (polling : Polling T)
    (report : String -> StepOutcome) :
    scenario.GoesTo page (scenario.settle polling page path report) := by
  intro scene
  have kept := scenario.test_keeps Scene.blind_currentPage.world polling
    (scenario.urlShows_keeps path) scene
  rw [settle, bind_run]
  rcases tested : polling.test scenario.clock scenario.fuel (scenario.urlShows path) scene
    with ⟨_ | failure | _, probed⟩ <;> rw [tested] at kept
  · have arrived : scenario.Arrives page scene ((probed.reloadPage page).enter page) :=
      ⟨path, polling, scene, probed, known, rfl, tested, rfl⟩
    obtain ⟨_, live, -, lives, -⟩ := arrived.shows
    simp only [bind_run, change_run, currentUrl_of_live lives, pure_run]
    refine ⟨fun value after passed => ?_, fun unmet => absurd rfl (unmet _)⟩
    cases passed
    exact arrived
  · exact ⟨by simp, fun _ => kept⟩
  · exact ⟨by simp, fun _ => kept⟩

variable (scenario page)

theorem openPage_goesTo : scenario.GoesTo page (scenario.openPage page) := by
  refine goesTo_pagePath fun path known => ?_
  refine goesTo_bind scenario.livePage_keeps fun live => ?_
  refine goesTo_bind (scenario.call_keeps Scene.blind_currentPage.world _) fun _ => ?_
  exact settle_goesTo known _ fun url => .passed [("page", .text page), ("current_url", .text url)]

theorem openPage_keeps {V : Type} (view : Scene W -> V) (worldless : Scene.Worldless view)
    (enters : ∀ scene, view ((scene.reloadPage page).enter page) = view scene) :
    (scenario.openPage page).Keeps view := by
  refine keeps_bind (keeps_ofExcept _) fun path => ?_
  refine keeps_bind scenario.livePage_keeps fun live => ?_
  refine keeps_bind (scenario.call_keeps worldless _) fun _ => ?_
  refine keeps_bind (scenario.test_keeps worldless _ (scenario.urlShows_keeps path)) fun _ => ?_
  refine keeps_bind (keeps_change enters) fun _ => ?_
  exact keeps_bind scenario.currentUrl_keeps fun _ => keeps_pure _

/-- Where nothing is found yet, going to a page finds nothing either. -/
theorem openPage_handles {scene after : Scene W} {outcome : StepOutcome}
    (unfound : scene.handles = .empty)
    (passed : scenario.openPage page scene = (.ok outcome, after)) : after.handles = .empty := by
  have dropped : ∀ handles : HandleTable Resolved,
      (handles.invalidate page).invalidate page = handles.invalidate page := by
    intro handles
    simp [HandleTable.invalidate, Table.remove]
  -- The page's own handles are gone in the end, and those of other pages are as before.
  obtain ⟨_, _, _, probed, -, -, -, rfl⟩ := (scenario.openPage_goesTo page scene).1 _ _ passed
  have others := (scenario.openPage_keeps page (fun scene : Scene W => scene.handles.invalidate page)
    (fun _ _ => rfl) fun scene => dropped scene.handles).of_run passed
  change (probed.handles.invalidate page).invalidate page = _ at others
  change probed.handles.invalidate page = _
  rw [← dropped, others, unfound]
  rfl

theorem navigate_goesTo (header : Header) (row : Option Row) :
    scenario.GoesTo page (scenario.navigate header row page) := by
  refine goesTo_pagePath fun path known => ?_
  refine goesTo_bind (scenario.trigger_keeps Scene.blind_currentPage header row) fun triggered => ?_
  exact settle_goesTo known _ fun url =>
    .passed ([("target_page", .text page)] ++ triggered ++ [("current_url", .text url)])

theorem prepared_goesTo {step : Activity (Scene W) A} (goes : scenario.GoesTo page step)
    (header : Header) (row : Option Row) : scenario.GoesTo page (scenario.prepared header row step) := by
  refine goesTo_bind (scenario.await_keeps Scene.blind_currentPage header row) fun _ => ?_
  dsimp only
  split
  · exact goesTo_bind (reloadPage_keeps Scene.blind_currentPage _) fun _ => goes
  · exact goes

theorem takeAction_goesTo {action : Action} (leads : action.operation = .navigate page)
    (row : Option Row) : scenario.GoesTo page (scenario.takeAction action row) := by
  refine scenario.prepared_goesTo page ?_ _ _
  unfold perform
  simp only [leads]
  exact scenario.navigate_goesTo page _ _

/-! ## Visits -/

theorem settle_keeps_log {log : W -> List (Called T)} (logs : scenario.world.IsLog log)
    (polling : Polling T) (path : String) (report : String -> StepOutcome) :
    (scenario.settle polling page path report).Keeps fun scene => log scene.world := by
  refine keeps_bind (polling.test_keeps ?_ _ (scenario.urlShows_keeps path)) fun _ => ?_
  · exact fun span scene => logs.slept span scene.world
  · exact keeps_bind (keeps_change fun _ => rfl) fun _ =>
      keeps_bind scenario.currentUrl_keeps fun _ => keeps_pure _

/-- A page that lives is visited once and then only looked at; one that is closed is left alone. -/
theorem openPage_visits {log : W -> List (Called T)} (logs : scenario.world.IsLog log)
    {path : String} (known : scenario.catalog.pagePath page = .ok path) (scene : Scene W) :
    (∀ live, scenario.IsLive scene live → ∃ fault?,
      log (scenario.openPage page scene).2.world = log scene.world ++
        [⟨.visit live (scenario.settings.baseUrl ++ path)
          (scenario.limitOf scenario.settings.navigationTimeout), fault?⟩]) ∧
    ((∀ live, ¬ scenario.IsLive scene live) →
      scenario.openPage page scene = (.failed .noPage, scene)) := by
  have opens : scenario.openPage page scene = (scenario.livePage >>= fun live =>
      scenario.call (.visit live (scenario.settings.baseUrl ++ path)
        (scenario.limitOf scenario.settings.navigationTimeout)) >>= fun _ =>
      scenario.settle (scenario.polling .waitTimeout
        (Scale.ofSeconds scenario.settings.navigationTimeout) s!"page '{page}'") page path
        fun url => .passed [("page", .text page), ("current_url", .text url)]) scene := by
    unfold openPage
    rw [known]
    rfl
  rw [opens, bind_run]
  rcases scenario.live_or_closed scene with ⟨live, lives⟩ | closed
  · refine ⟨fun other alike => ?_, fun closed => absurd lives (closed live)⟩
    obtain rfl : live = other := Option.some.inj (lives.held.symm.trans alike.held)
    simp only [livePage_of_live lives, bind_run]
    rcases call_cases logs (.visit live (scenario.settings.baseUrl ++ path)
      (scenario.limitOf scenario.settings.navigationTimeout)) scene
      with ⟨answer, after, visited, grown⟩ | ⟨fault, after, visited, grown⟩
    · rw [visited]
      exact ⟨none, (scenario.settle_keeps_log page logs _ _ _ after).trans grown⟩
    · rw [visited]
      exact ⟨some fault, grown⟩
  · refine ⟨fun live lives => ?_, fun _ => by rw [closed]⟩
    cases (livePage_of_live lives).symm.trans closed

end Scenario

end Rehearsal
