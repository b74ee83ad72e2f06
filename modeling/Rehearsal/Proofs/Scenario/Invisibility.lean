import Rehearsal.Proofs.Scenario.Sighting

/-!
What a wait for an element to be out of sight has seen when it passes. Its last look went through
all candidates, and found none of the first matches of each in sight. Matches beyond those that a
condition looks at may be in sight all the same.
-/

set_option autoImplicit false

namespace Rehearsal

open Activity

/-- One item after the other, each from where the one before it ended. -/
inductive Through {A S : Type} (step : A -> S -> S -> Prop) : List A -> S -> S -> Prop where
  | none {state : S} : Through step [] state state
  | next {item : A} {rest : List A} {first between last : S} (here : step item first between)
      (others : Through step rest between last) : Through step (item :: rest) first last

theorem Through.mono {A S : Type} {step wider : A -> S -> S -> Prop} {items : List A}
    {first last : S} (through : Through step items first last)
    (widens : ∀ item before after, step item before after → wider item before after) :
    Through wider items first last := by
  induction through with
  | none => exact .none
  | next here _ ih => exact .next (widens _ _ _ here) ih

theorem Polling.test_of_found {S : Type} {test : Activity S Bool} {state last : S}
    (found : Finds (probing test) state (.found ()) last) : test state = (.ok true, last) := by
  cases found with
  | found ran =>
    obtain ⟨passed, between, tested, after⟩ := (bind_ok ..).mp ran
    cases passed with
    | true =>
      cases after
      exact tested
    | false => cases after

namespace Scenario

variable {W T : Type} {scenario : Scenario W T} {live : PageId} {holds : W -> Prop}
  {shown : W -> Display} {page element : String} {row : Option Row}
  {candidates : List Candidate} {scene final : Scene W} {header : Header} {wait : Wait}

/-! ## Looks in vain -/

/-- All matches were counted, and as many as a condition looks at answered that they are hidden. -/
def Hides (scenario : Scenario W T) (target : Target) (before after : Scene W) : Prop :=
  ∃ count counted, scenario.ask target .count before = (.ok count, counted) ∧
    Through (fun index before after =>
        scenario.ask (target.nth index) .isVisible before = (.ok false, after))
      (List.range (min count mostMatches)) counted after

theorem anyOf_false {A : Type} {test : A -> Activity (Scene W) Bool} {items : List A}
    (denied : anyOf test items scene = (.ok false, final)) :
    Through (fun item before after => test item before = (.ok false, after)) items scene
      final := by
  induction items generalizing scene with
  | nil =>
    cases denied
    exact .none
  | cons item rest ih =>
    obtain ⟨held, between, tested, after⟩ := (bind_ok ..).mp denied
    cases held with
    | true => cases after
    | false => exact .next tested (ih after)

theorem hides_of_anyMatch {target : Target}
    (denied : scenario.anyMatch scenario.isVisible target scene = (.ok false, final)) :
    scenario.Hides target scene final := by
  obtain ⟨count, counted, asked, among⟩ := (bind_ok ..).mp denied
  exact ⟨count, counted, asked, anyOf_false among⟩

theorem leads_ok {found : List Lead}
    (ran : scenario.leads page element row scene = (.ok found, final)) :
    ∃ live candidates, scenario.IsLive scene live ∧
      scenario.catalog.candidates page element = .ok candidates ∧
      found = candidates.map (scenario.leadOf live row) ∧ final = scene := by
  rcases scenario.live_or_closed scene with ⟨live, lives⟩ | closed
  · cases listed : scenario.catalog.candidates page element with
    | error failure =>
      simp [leads, bind_run, livePage_of_live lives, listed, Activity.ofExcept] at ran
    | ok candidates =>
      rw [leads_of_live lives listed] at ran
      cases ran
      exact ⟨live, candidates, lives, rfl, rfl, rfl⟩
  · simp [leads, bind_run, closed] at ran

/-- A look that finds nothing in sight, candidate by candidate. -/
theorem hides_of_probe
    (passed : Aim.invisible.probe scenario page element row scene = (.ok true, final)) :
    ∃ live candidates, scenario.IsLive scene live ∧
      scenario.catalog.candidates page element = .ok candidates ∧
      Through (fun candidate => scenario.Hides (scenario.leadOf live row candidate).target)
        candidates scene final := by
  obtain ⟨shows, between, looked, negated⟩ := (bind_ok ..).mp passed
  obtain ⟨found, leading, led, denied⟩ := (bind_ok ..).mp looked
  obtain ⟨live, candidates, lives, listed, rfl, rfl⟩ := leads_ok led
  cases shows with
  | true => cases negated
  | false =>
    cases negated
    rw [anyOf_map] at denied
    have hides := (anyOf_false denied).mono fun _ _ _ => hides_of_anyMatch
    exact ⟨live, candidates, lives, listed, hides⟩

/-! ## Pages -/

variable [Scale T]

theorem looks_rest (displays : scenario.world.Displays live holds shown)
    (slept : ∀ span state, holds state → holds (scenario.world.clock.sleep span state))
    (listed : scenario.catalog.candidates page element = .ok candidates) {aim : Aim}
    {polling : Polling T} {deadline : T} {earlier : List (Look (Scene W) Unit)}
    (looks : polling.Looks scenario.clock
      (Polling.probing (aim.probe scenario page element row)) deadline scene earlier final)
    (rests : scene.Rests live holds) : final.Rests live holds := by
  induction looks with
  | none => exact rests
  | @again scene after _ _ _ found _ _ _ ih =>
    -- What is shown may change from look to look, but not while one lasts.
    have tests : (aim.probe scenario page element row).Settles
        (Scene.Faces live holds shown (shown scene.world))
        (.ok (aim.seenOn scenario row (shown scene.world) candidates)) :=
      aim.probe_settles displays row listed
    obtain ⟨kept, -⟩ := Polling.finds_settled tests ⟨rests.1, rests.2, rfl⟩ found
    exact ih ⟨kept.1, slept _ _ kept.2.1⟩

omit [Scale T] in
theorem hidden_of_found (displays : scenario.world.Displays live holds shown)
    (listed : scenario.catalog.candidates page element = .ok candidates)
    (rests : scene.Rests live holds)
    (found : Polling.Finds
      (Polling.probing (Aim.invisible.probe scenario page element row)) scene (.found ()) final) :
    ∀ candidate ∈ candidates, ∀ matched ∈
      (shown scene.world (scenario.selectorOf row candidate)).take mostMatches,
      matched.visible = false := by
  have tests : (Aim.invisible.probe scenario page element row).Settles
      (Scene.Faces live holds shown (shown scene.world))
      (.ok (Aim.invisible.seenOn scenario row (shown scene.world) candidates)) :=
    Aim.invisible.probe_settles displays row listed
  obtain ⟨-, same⟩ := Polling.finds_settled tests ⟨rests.1, rests.2, rfl⟩ found
  cases seen : Aim.invisible.seenOn scenario row (shown scene.world) candidates with
  | false =>
    rw [seen] at same
    cases same
  | true =>
    simpa [Aim.seenOn, Sign.seenIn] using seen

/-! ## Waits -/

/-- When a wait for an element to be out of sight passes, none of the first ten matches of any
candidate was in sight at its last look: that look asked for all of these, and on a page that is
the same throughout a look it is so. -/
theorem invisible_wait_passed (waits : header.wait = some wait)
    (invisible : wait.condition = .invisible)
    (passed : scenario.await header row scene = (.ok (), final)) :
    ∃ live candidates earlier began,
      scenario.IsLive began live ∧
      scenario.catalog.candidates (header.page.getD "") (header.element.getD "") =
        .ok candidates ∧
      (scenario.waitPolling header wait).Concludes scenario.clock
        (Polling.probing (Aim.invisible.probe scenario (header.page.getD "")
          (header.element.getD "") row))
        (Scale.add (scenario.clock.now scene) (scenario.effectiveTimeout header)) scene earlier
        ⟨began, .found ()⟩ final ∧
      Through (fun candidate => scenario.Hides (scenario.leadOf live row candidate).target)
        candidates began final ∧
      ∀ {page : PageId} {holds : W -> Prop} {shown : W -> Display},
        scenario.world.Displays page holds shown →
        (∀ span state, holds state → holds (scenario.world.clock.sleep span state)) →
        scene.Rests page holds →
        ∀ candidate ∈ candidates, ∀ matched ∈
          (shown began.world (scenario.selectorOf row candidate)).take 10,
          matched.visible = false := by
  have aimed : wait.condition = Aim.invisible.condition := invisible
  rw [await_aim scenario row waits aimed, Polling.test_eq_run] at passed
  rcases (scenario.waitPolling header wait).run_of_history scenario.clock scenario.fuel
    (Polling.probing (Aim.invisible.probe scenario (header.page.getD "")
      (header.element.getD "") row)) scene with
    ⟨earlier, ⟨began, finding⟩, after, concludes, -, ended⟩ | ⟨_, _, -, stalled⟩
  · rw [ended] at passed
    cases finding with
    | nothing | erred failure | lost failure => simp [Polling.verdict] at passed
    | found =>
      obtain rfl : after = final := congrArg Prod.snd passed
      obtain ⟨live, candidates, lives, listed, through⟩ :=
        hides_of_probe (Polling.test_of_found concludes.finds)
      refine ⟨live, candidates, earlier, began, lives, listed, concludes, through, ?_⟩
      intro page holds shown displays slept rests
      have stays := looks_rest displays slept listed concludes.looks rests
      exact hidden_of_found displays listed stays concludes.finds
  · rw [stalled] at passed
    cases passed

/-- An element that is in sight for one second. -/
def fading (now : Rat) : Display := fun selector =>
  if selector = Selector.build .id "new" then
    [{ visible := now < 1, enabled := true, text := "Loading" }]
  else []

theorem invisible_wait_passed_when_faded :
    ∃ (candidates : List Candidate) (began final : Scene Rat),
      (watching fading).await (watchFor .invisible) none watchingOpen = (.ok (), final) ∧
      candidates.length = 2 ∧ final.world = 1 ∧
      ∀ candidate ∈ candidates, ∀ matched ∈
        (fading began.world ((watching fading).selectorOf none candidate)).take 10,
        matched.visible = false := by
  have passed : ((watching fading).await (watchFor .invisible) none watchingOpen).1.value? =
      some () := by decide +kernel
  have late : ((watching fading).await (watchFor .invisible) none watchingOpen).2.world = 1 := by
    decide +kernel
  have ran := run_of_outcome (Outcome.of_value? passed)
  obtain ⟨live, candidates, earlier, began, -, listed, -, -, hidden⟩ :=
    invisible_wait_passed rfl rfl ran
  have two : candidates.length = 2 := by
    cases listed
    rfl
  exact ⟨candidates, began, _, ran, two, late,
    hidden (World.displays_displaying fading) (fun _ _ _ => trivial) ⟨rfl, trivial⟩⟩

/-- Ten rows that are hidden, and one behind them that is in sight. -/
def crowd : Display := fun selector =>
  if selector = Selector.build .id "new" then
    List.replicate 10 { visible := false, enabled := true, text := "" } ++
      [{ visible := true, enabled := true, text := "" }]
  else []

theorem eleventh_match_is_overlooked :
    (watching fun _ => crowd).world.Displays ⟨0⟩ (fun _ => True) (fun _ => crowd) ∧
      ((watching fun _ => crowd).await (watchFor .invisible) none watchingOpen).1 = .ok () ∧
      ∃ candidates, (watching fun _ => crowd).catalog.candidates "login" "user" = .ok candidates ∧
        ∃ candidate ∈ candidates,
          ∃ matched ∈ crowd ((watching fun _ => crowd).selectorOf none candidate),
            matched.visible = true := by
  have passed : ((watching fun _ => crowd).await (watchFor .invisible) none watchingOpen).1.value? =
      some () := by decide +kernel
  refine ⟨World.displays_displaying _, Outcome.of_value? passed, _, rfl, _, .tail _ (.head _), ?_⟩
  exact List.any_eq_true.mp (by decide +kernel)

end Scenario

end Rehearsal
