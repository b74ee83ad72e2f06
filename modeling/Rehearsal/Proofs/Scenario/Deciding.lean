import Rehearsal.Proofs.Catalog.AuthoredOrder
import Rehearsal.Proofs.Catalog.References
import Rehearsal.Proofs.Scenario.Attempt
import Rehearsal.Proofs.Scenario.Isolation

/-!
What a check decides on a page that does not change. It goes by the first candidate of its element
that has a match, and by the first match of that one; that nothing matches decides it as well. An
assertion that the element is visible decides in the same way.
-/

set_option autoImplicit false

namespace Rehearsal

open Activity

namespace PageView

/-- What cannot be counted has no match. -/
def hasMatch (view : PageView) (selector : String) : Bool :=
  match view selector none .count with
  | .ok count => 0 < count
  | .error _ => false

/-- Whether the first match of a selector is as a condition asks for. -/
def meets (view : PageView) (selector : String) : Condition -> Bool
  | .present => true
  | .visible => (view selector (some 0) .isVisible).toOption.getD false
  | .enabled => (view selector (some 0) .isEnabled).toOption.getD false

/-- The session lasts while the matches of a selector are counted, and the first of them can be
looked at. -/
structure IsReadable (view : PageView) (selector : String) : Prop where
  live : ∀ fault, view selector none .count = .error fault →
    Failure.saysLost fault.message = false
  handle : view.hasMatch selector = true →
    ∃ handle, view selector (some 0) .handle = .ok handle
  visible : view.hasMatch selector = true →
    ∃ shown, view selector (some 0) .isVisible = .ok shown
  enabled : view.hasMatch selector = true →
    ∃ enabled, view selector (some 0) .isEnabled = .ok enabled

end PageView

namespace Scenario

section

variable {W T : Type}

def chosen? (scenario : Scenario W T) (row : Option Row) (view : PageView)
    (candidates : List Candidate) : Option Candidate :=
  candidates.find? fun candidate => view.hasMatch (scenario.selectorOf row candidate)

def decides (scenario : Scenario W T) (row : Option Row) (view : PageView)
    (candidates : List Candidate) (condition : Condition) : Bool :=
  (scenario.chosen? row view candidates).any fun candidate =>
    view.meets (scenario.selectorOf row candidate) condition

/-- A record is about an element on a page that does not change. -/
structure Regards (scenario : Scenario W T) (live : PageId) (view : PageView) (holds : W -> Prop)
    (header : Header) (row : Option Row) (candidates : List Candidate) (scene : Scene W) :
    Prop where
  steady : scenario.world.Steady live view holds
  rests : scene.Rests live holds
  targeted : header.hasTarget = true
  waitless : header.wait = none
  listed : scenario.catalog.candidates (header.page.getD "") (header.element.getD "") =
    .ok candidates
  readable : ∀ candidate ∈ candidates, view.IsReadable (scenario.selectorOf row candidate)

/-- What looking for an element comes to: its first candidate that has a match, if there is one. -/
inductive Picks (scenario : Scenario W T) (live : PageId) (view : PageView) (holds : W -> Prop)
    (page element : String) (row : Option Row) (candidates : List Candidate) :
    Except Failure Resolved -> Scene W -> Prop where
  | picked {chosen : Candidate} {resolved : Resolved} {after : Scene W}
      (first : scenario.chosen? row view candidates = some chosen)
      (candidate : resolved.candidate = chosen)
      (target : resolved.target =
        { page := live, selector := scenario.selectorOf row chosen, index := some 0 })
      (rests : after.Rests live holds) :
      Picks scenario live view holds page element row candidates (.ok resolved) after
  | missed {noted : List (String × String)} {after : Scene W}
      (none : scenario.chosen? row view candidates = none) (rests : after.Rests live holds) :
      Picks scenario live view holds page element row candidates
        (.error (.notFound page element noted)) after

/-- What a check has to report. -/
structure Reports (scenario : Scenario W T) (row : Option Row) (view : PageView)
    (page element : String) (candidates : List Candidate) (condition : Condition)
    (ifTrueNext ifFalseNext : Nat) (outcome : StepOutcome) : Prop where
  ok : outcome.ok = true
  next : outcome.nextIndex = some (Action.branch ifTrueNext ifFalseNext
    (scenario.decides row view candidates condition) : Int)
  details : outcome.details = [("condition", .text condition.label),
    ("met", .bool (scenario.decides row view candidates condition))]
  found : ∀ chosen, scenario.chosen? row view candidates = some chosen →
    outcome.warnings = [] ∧ ∃ resolved, outcome.resolved = some resolved ∧
      resolved.candidate = chosen
  missed : scenario.chosen? row view candidates = none →
    outcome.resolved = none ∧
      outcome.warnings = [s!"No valid locator found for {element} on page {page}"]

variable {scenario : Scenario W T} {live : PageId} {view : PageView} {holds : W -> Prop}
  {page element : String} {row : Option Row} {candidate : Candidate}
  {candidates : List Candidate} {scene : Scene W} {header : Header}

theorem chosen?_sound {chosen : Candidate}
    (first : scenario.chosen? row view candidates = some chosen) :
    chosen ∈ candidates ∧ view.hasMatch (scenario.selectorOf row chosen) = true := by
  have found := List.find?_some first
  exact ⟨List.mem_of_find?_eq_some first, found⟩

theorem chosen?_cons (candidate : Candidate) (rest : List Candidate) :
    scenario.chosen? row view (candidate :: rest) =
      if view.hasMatch (scenario.selectorOf row candidate) then some candidate
      else scenario.chosen? row view rest := by
  rw [chosen?, List.find?_cons]
  cases view.hasMatch (scenario.selectorOf row candidate) <;> rfl

variable [Scale T]

theorem awaited_of_match (matched : view.hasMatch (scenario.selectorOf row candidate) = true)
    (polling : Polling T) :
    scenario.awaited row view candidate polling =
      view.ask (scenario.selectorOf row candidate) (some 0) .handle := by
  rw [PageView.hasMatch] at matched
  split at matched
  next count counted =>
    have shown : scenario.signOf row view .present candidate = .ok true := by
      rw [signOf, Sign.look, PageView.count, PageView.ask, counted]
      exact congrArg Except.ok matched
    rw [awaited, shown]
    rfl
  next => cases matched

theorem awaited_of_none (readable : view.IsReadable (scenario.selectorOf row candidate))
    (unmatched : view.hasMatch (scenario.selectorOf row candidate) = false) (polling : Polling T) :
    ∃ cause, scenario.awaited row view candidate polling =
      .error (polling.timeoutFailure cause) := by
  rw [PageView.hasMatch] at unmatched
  -- A count of none and a count that fails are both waited for until the time is up.
  split at unmatched
  next count counted =>
    have shown : scenario.signOf row view .present candidate = .ok false := by
      rw [signOf, Sign.look, PageView.count, PageView.ask, counted]
      exact congrArg Except.ok unmatched
    exact ⟨none, by rw [awaited, shown]; rfl⟩
  next fault refused =>
    have glitched : scenario.signOf row view .present candidate = .error (.fault fault) := by
      rw [signOf, Sign.look, PageView.count, PageView.ask, refused]
      rfl
    have glitch : (Failure.fault fault).IsGlitch := ⟨fault, rfl, readable.live fault refused⟩
    exact ⟨_, by rw [awaited, glitched, settled_glitch polling glitch]; rfl⟩

variable (steady : scenario.world.Steady live view holds)

include steady

theorem tryLeads_picks {found : Nat} {timeout : T} (noted : List (String × String))
    (readable : ∀ candidate ∈ candidates, view.IsReadable (scenario.selectorOf row candidate))
    (stays : scene.Stays live found holds)
    (ended : (scenario.tryLeads page element timeout noted
      (candidates.map (scenario.leadOf live row)) scene).1 ≠ .stalled) :
    ∃ result after, scenario.tryLeads page element timeout noted
        (candidates.map (scenario.leadOf live row)) scene = (.ofExcept result, after) ∧
      scenario.Picks live view holds page element row candidates result after := by
  -- A page that rests after each candidate is what the induction goes by.
  induction candidates generalizing noted scene with
  | nil => exact ⟨_, scene, rfl, .missed rfl stays.1⟩
  | cons candidate rest ih =>
    obtain ⟨here, others⟩ := List.forall_mem_cons.mp readable
    obtain ⟨after, kept, ran⟩ := tryLeads_settled
      (awaitLead_settles steady element timeout row candidate) stays ended
    rw [List.map_cons, ran] at ended ⊢
    cases matched : view.hasMatch (scenario.selectorOf row candidate) with
    | true =>
      obtain ⟨handle, given⟩ := here.handle matched
      rw [awaited_of_match matched, PageView.ask, given]
      have first : scenario.chosen? row view (candidate :: rest) = some candidate := by
        rw [chosen?_cons, if_pos matched]
      exact ⟨.ok _, _, rfl, .picked first rfl rfl kept.1⟩
    | false =>
      -- The candidate is given up as missed, however that came.
      obtain ⟨cause, missed⟩ := awaited_of_none here matched
        (scenario.leadPolling element timeout (scenario.leadOf live row candidate))
      rw [missed] at ended ⊢
      obtain ⟨result, final, went, picks⟩ := ih _ others kept ended
      refine ⟨result, final, went, ?_⟩
      have onward : scenario.chosen? row view (candidate :: rest) =
          scenario.chosen? row view rest := by
        rw [chosen?_cons, if_neg (by simp [matched])]
      cases picks with
      | picked first named target rests =>
        exact .picked (onward.trans first) named target rests
      | missed none rests => exact .missed (onward.trans none) rests

end

/-! ## Records -/

section

variable {W T : Type} [Scale T] {scenario : Scenario W T} {live : PageId} {view : PageView}
  {holds : W -> Prop} {row : Option Row} {candidates : List Candidate} {scene : Scene W}
  {header : Header} (regards : scenario.Regards live view holds header row candidates scene)

include regards

omit [Scale T] in
/-- What was found before does not count any more. -/
theorem Regards.seeks :
    scenario.Seeks (header.page.getD "") (header.element.getD "") live candidates
      (scene.reloadPage (header.page.getD "")) where
  lives := ⟨regards.rests.1, regards.steady.opened scene.world regards.rests.2⟩
  listed := regards.listed
  uncached := by
    rw [Scene.reloadPage, HandleTable.get?_invalidate]
    simp

theorem Regards.prepared_run {A : Type} (step : Activity (Scene W) A) :
    scenario.prepared header row step scene = step (scene.reloadPage (header.page.getD "")) := by
  have awaits : scenario.await header row = pure () := by
    rw [await, regards.waitless]
  simp only [prepared, awaits, regards.targeted, if_true]
  rfl

theorem Regards.picks
    (ended : (scenario.resolveFor header row (scene.reloadPage (header.page.getD ""))).1 ≠
      .stalled) :
    ∃ result after,
      scenario.resolveFor header row (scene.reloadPage (header.page.getD "")) =
        (.ofExcept result, after) ∧
      scenario.Picks live view holds (header.page.getD "") (header.element.getD "") row candidates
        result after := by
  rw [resolveFor, regards.seeks.run] at ended ⊢
  have stays : (scene.reloadPage (header.page.getD "")).Stays live scene.resolutions holds :=
    ⟨regards.rests, rfl⟩
  exact tryLeads_picks regards.steady [] regards.readable stays ended

end

section

variable {W T : Type} {scenario : Scenario W T} {live : PageId} {view : PageView}
  {holds : W -> Prop} {scene : Scene W}

theorem ask_answered (steady : scenario.world.Steady live view holds)
    (rests : scene.Rests live holds) {selector : String} {index : Option Nat} {asked : Query}
    {answer : asked.Answer} (known : view selector index asked = .ok answer) :
    ∃ after, scenario.ask { page := live, selector, index } asked scene = (.ok answer, after) := by
  obtain ⟨after, performed, -⟩ := steady.answered selector index asked scene.world rests.2
  exact ⟨_, by rw [ask, call, performed, known]⟩

theorem conditionMet_answered (steady : scenario.world.Steady live view holds)
    (rests : scene.Rests live holds) {selector : String} (readable : view.IsReadable selector)
    (matched : view.hasMatch selector = true) (condition : Condition) :
    ∃ after, scenario.conditionMet { page := live, selector, index := some 0 } condition scene =
      (.ok (view.meets selector condition), after) := by
  cases condition with
  | present => exact ⟨scene, rfl⟩
  | visible =>
    obtain ⟨shown, known⟩ := readable.visible matched
    obtain ⟨after, asked⟩ := ask_answered steady rests known
    exact ⟨after, by rw [PageView.meets, known]; exact asked⟩
  | enabled =>
    obtain ⟨enabled, known⟩ := readable.enabled matched
    obtain ⟨after, asked⟩ := ask_answered steady rests known
    exact ⟨after, by rw [PageView.meets, known]; exact asked⟩

end

section

variable {W T : Type} [Scale T] {scenario : Scenario W T} {live : PageId} {view : PageView}
  {holds : W -> Prop} {row : Option Row} {candidates : List Candidate} {scene : Scene W}

theorem takeAction_decides {action : Action} {condition : Condition}
    {ifTrueNext ifFalseNext : Nat}
    (checks : action.operation = .check condition ifTrueNext ifFalseNext)
    (regards : scenario.Regards live view holds action.header row candidates scene)
    (ended : (scenario.resolveFor action.header row
      (scene.reloadPage (action.header.page.getD ""))).1 ≠ .stalled) :
    ∃ outcome final, scenario.takeAction action row scene = (.ok outcome, final) ∧
      scenario.Reports row view (action.header.page.getD "") (action.header.element.getD "")
        candidates condition ifTrueNext ifFalseNext outcome := by
  obtain ⟨result, after, resolves, picks⟩ := regards.picks ended
  rw [takeAction, regards.prepared_run, perform, checks]
  dsimp only
  rw [check, bind_run, attempt_run, resolves]
  -- The check passes in either case: it is its branch that tells them apart.
  cases picks with
  | @picked chosen resolved after first named target rests =>
    obtain ⟨member, matched⟩ := chosen?_sound first
    have decides : scenario.decides row view candidates condition =
        view.meets (scenario.selectorOf row chosen) condition := by
      rw [Scenario.decides, first, Option.any_some]
    obtain ⟨last, met⟩ := conditionMet_answered regards.steady rests
      (regards.readable chosen member) matched condition
    dsimp only [Outcome.ofExcept]
    rw [target, bind_run, met]
    refine ⟨_, last, rfl, ?_⟩
    constructor
    · rfl
    · rw [decides]
    · rw [decides]
      rfl
    · intro other same
      rw [first, Option.some.injEq] at same
      exact ⟨rfl, resolved, rfl, named.trans same⟩
    · intro none
      cases first.symm.trans none
  | @missed noted after none rests =>
    have decides : scenario.decides row view candidates condition = false := by
      rw [Scenario.decides, none, Option.any_none]
    refine ⟨_, after, rfl, ?_⟩
    constructor
    · rfl
    · rw [decides]
    · rw [decides]
      rfl
    · intro chosen first
      cases none.symm.trans first
    · exact fun _ => ⟨rfl, rfl⟩

theorem takeAssertion_decides {assertion : Assertion} (aspect : assertion.aspect = .visible)
    (operator : assertion.operator = .isTrue)
    (regards : scenario.Regards live view holds assertion.header row candidates scene)
    (ended : (scenario.resolveFor assertion.header row
      (scene.reloadPage (assertion.header.page.getD ""))).1 ≠ .stalled) :
    (scenario.takeAssertion assertion row scene).1 ≠ .stalled ∧
      ((∃ outcome, (scenario.takeAssertion assertion row scene).1 = .ok outcome) ↔
        scenario.decides row view candidates .visible = true) := by
  have seen : ∃ after, scenario.seesElement assertion.header row
      (scene.reloadPage (assertion.header.page.getD "")) =
        (.ok (scenario.decides row view candidates .visible), after) := by
    obtain ⟨result, after, resolves, picks⟩ := regards.picks ended
    rw [seesElement, bind_run, attempt_run, resolves]
    cases picks with
    | @picked chosen resolved after first named target rests =>
      obtain ⟨member, matched⟩ := chosen?_sound first
      obtain ⟨last, met⟩ := conditionMet_answered regards.steady rests
        (regards.readable chosen member) matched .visible
      refine ⟨last, ?_⟩
      dsimp only [Outcome.ofExcept]
      rw [target, Scenario.decides, first, Option.any_some]
      exact met
    | @missed noted after none rests =>
      refine ⟨after, ?_⟩
      rw [Scenario.decides, none, Option.any_none]
      rfl
  obtain ⟨after, seen⟩ := seen
  rw [takeAssertion, regards.prepared_run, judge, bind_run, observe, aspect]
  dsimp only
  rw [bind_run, seen, operator]
  cases scenario.decides row view candidates .visible with
  | true => exact ⟨Outcome.ok_ne_stalled _, iff_of_true ⟨_, rfl⟩ rfl⟩
  | false =>
    refine ⟨Outcome.failed_ne_stalled _, iff_of_false ?_ Bool.false_ne_true⟩
    rintro ⟨outcome, passed⟩
    cases passed

theorem resolve_ended_of_check {action : Action} {condition : Condition}
    {ifTrueNext ifFalseNext : Nat}
    (checks : action.operation = .check condition ifTrueNext ifFalseNext)
    (regards : scenario.Regards live view holds action.header row candidates scene)
    (ended : (scenario.takeAction action row scene).1 ≠ .stalled) :
    (scenario.resolveFor action.header row
      (scene.reloadPage (action.header.page.getD ""))).1 ≠ .stalled := by
  rw [takeAction, regards.prepared_run, perform, checks] at ended
  exact attempt_ended (bind_ended ended)

theorem resolve_ended_of_assertion {assertion : Assertion} (aspect : assertion.aspect = .visible)
    (regards : scenario.Regards live view holds assertion.header row candidates scene)
    (ended : (scenario.takeAssertion assertion row scene).1 ≠ .stalled) :
    (scenario.resolveFor assertion.header row
      (scene.reloadPage (assertion.header.page.getD ""))).1 ≠ .stalled := by
  rw [takeAssertion, regards.prepared_run] at ended
  have observed := bind_ended ended
  rw [observe, aspect] at observed
  exact attempt_ended (bind_ended (bind_ended observed))

end

section

variable {W : Type} {scenario : Scenario W Rat} {live : PageId} {view : PageView}
  {holds : W -> Prop} {row : Option Row} {candidates : List Candidate} {scene : Scene W}
  {header : Header}

theorem Regards.resolve_ends
    (regards : scenario.Regards live view holds header row candidates scene)
    (timed : scenario.KeepsTime) (spaced : 0 < scenario.pollInterval)
    (enough : scenario.pollLimit (scenario.effectiveTimeout header) ≤ scenario.fuel) :
    (scenario.resolveFor header row (scene.reloadPage (header.page.getD ""))).1 ≠ .stalled := by
  rw [resolveFor, regards.seeks.run]
  exact tryLeads_ends timed spaced enough _ _ _

end

/-- A check decides by the first match of the first candidate that has one, in the order of their
ordinals, and passes in either case; it warns if there is none. An assertion that the element is
visible passes exactly if a check of that is met. In exact time both come to an end. -/
theorem checks_decide_by_page :
    (∀ {W T : Type} [Scale T] {scenario : Scenario W T} {live : PageId} {view : PageView}
        {holds : W -> Prop} {row : Option Row} {candidates : List Candidate} {scene : Scene W},
      (∀ {action : Action} {condition : Condition} {ifTrueNext ifFalseNext : Nat},
        action.operation = .check condition ifTrueNext ifFalseNext →
        scenario.Regards live view holds action.header row candidates scene →
        (scenario.takeAction action row scene).1 ≠ .stalled →
          ∃ outcome final, scenario.takeAction action row scene = (.ok outcome, final) ∧
            scenario.Reports row view (action.header.page.getD "") (action.header.element.getD "")
              candidates condition ifTrueNext ifFalseNext outcome) ∧
      ∀ {assertion : Assertion}, assertion.aspect = .visible → assertion.operator = .isTrue →
        scenario.Regards live view holds assertion.header row candidates scene →
        (scenario.takeAssertion assertion row scene).1 ≠ .stalled →
          ((∃ outcome, (scenario.takeAssertion assertion row scene).1 = .ok outcome) ↔
            scenario.decides row view candidates .visible = true)) ∧
    (∀ {files : Files} {base : Path} {fields : Table Datum} {catalog : Catalog}
        {page element : String} {candidates : List Candidate},
      Catalog.ofFields files base fields = .ok catalog →
      catalog.candidates page element = .ok candidates →
        candidates.Pairwise fun earlier later => earlier.ordinal ≤ later.ordinal) ∧
    ∀ {W : Type} {scenario : Scenario W Rat} {live : PageId} {view : PageView}
        {holds : W -> Prop} {row : Option Row} {candidates : List Candidate} {scene : Scene W},
      scenario.KeepsTime → 0 < scenario.pollInterval →
        (∀ {action : Action} {condition : Condition} {ifTrueNext ifFalseNext : Nat},
          action.operation = .check condition ifTrueNext ifFalseNext →
          scenario.Regards live view holds action.header row candidates scene →
          scenario.pollLimit (scenario.effectiveTimeout action.header) ≤ scenario.fuel →
            (scenario.takeAction action row scene).1 ≠ .stalled) ∧
        ∀ {assertion : Assertion}, assertion.aspect = .visible → assertion.operator = .isTrue →
          scenario.Regards live view holds assertion.header row candidates scene →
          scenario.pollLimit (scenario.effectiveTimeout assertion.header) ≤ scenario.fuel →
            (scenario.takeAssertion assertion row scene).1 ≠ .stalled := by
  refine ⟨?_, ?_, ?_⟩
  · intro W T _ scenario live view holds row candidates scene
    refine ⟨?_, ?_⟩
    · intro action condition ifTrueNext ifFalseNext checks regards ended
      exact takeAction_decides checks regards (resolve_ended_of_check checks regards ended)
    · intro assertion aspect operator regards ended
      exact (takeAssertion_decides aspect operator regards
        (resolve_ended_of_assertion aspect regards ended)).2
  · intro files base fields catalog page element candidates read listed
    exact (Catalog.ranked_of_ofFields read listed).2
  · intro W scenario live view holds row candidates scene timed spaced
    refine ⟨?_, ?_⟩
    · intro action condition ifTrueNext ifFalseNext checks regards enough
      obtain ⟨outcome, final, ran, -⟩ :=
        takeAction_decides checks regards (regards.resolve_ends timed spaced enough)
      rw [ran]
      exact Outcome.ok_ne_stalled _
    · intro assertion aspect operator regards enough
      exact (takeAssertion_decides aspect operator regards
        (regards.resolve_ends timed spaced enough)).1

/-- The first candidate has a selector that the browser does not understand; the matches of the
second are enabled but hidden. -/
def hiddenSecond : PageView
  | selector, _, asked =>
    if selector = Selector.build .id "old" then .error ⟨.browser, "Unexpected token"⟩
    else match asked with
      | .count => .ok 2
      | .handle => .ok none
      | .isVisible => .ok false
      | .isEnabled => .ok true
      | _ => .error World.pageClosed

def secondHidden : Scenario (Rat × List (Called Rat)) Rat :=
  secondMatches.inWorld (answering hiddenSecond).recorded

def aimed : Header :=
  { index := 1, page := some "login", element := some "user", wait := none, timeout := none }

def deciding (condition : Condition) : Action :=
  { header := aimed, value := none, operation := .check condition 5 2 }

def asserting : Assertion :=
  { header := aimed, expected := none, operator := .isTrue, aspect := .visible }

theorem hiddenSecond_readable (selector : String) : hiddenSecond.IsReadable selector := by
  have unlost : Failure.saysLost "Unexpected token" = false := by decide +kernel
  by_cases old : selector = Selector.build .id "old"
  · have unmatched : ¬ hiddenSecond.hasMatch selector = true := by
      simp [PageView.hasMatch, hiddenSecond, old]
    refine ⟨?_, (absurd · unmatched), (absurd · unmatched), (absurd · unmatched)⟩
    intro fault refused
    simp only [hiddenSecond, old, if_true, Except.error.injEq] at refused
    rw [← refused]
    exact unlost
  · refine ⟨?_, fun _ => ⟨none, ?_⟩, fun _ => ⟨false, ?_⟩, fun _ => ⟨true, ?_⟩⟩
    · simp [hiddenSecond, old]
    all_goals simp [hiddenSecond, old]

def oldAndNew : List Candidate :=
  [{ ordinal := 0, strategy := .id, value := "old" },
    { ordinal := 1, strategy := .id, value := "new" }]

theorem secondHidden_regards :
    secondHidden.Regards ⟨0⟩ hiddenSecond (fun _ => True) aimed none oldAndNew
      secondMatchesOpen where
  steady := answering_steady hiddenSecond
  rests := ⟨rfl, trivial⟩
  targeted := rfl
  waitless := rfl
  listed := rfl
  readable := fun _ _ => hiddenSecond_readable _

theorem enabled_check_passes_over_broken_candidate :
    (∃ outcome final, secondHidden.takeAction (deciding .enabled) none secondMatchesOpen =
        (.ok outcome, final) ∧ outcome.nextIndex = some 5) ∧
      ¬ (∃ outcome, (secondHidden.takeAssertion asserting none secondMatchesOpen).1 =
        .ok outcome) ∧
      ∃ (catalog : Catalog) (candidates : List Candidate),
        catalog.candidates "login" "user" = .ok candidates ∧
        candidates.Pairwise fun earlier later => earlier.ordinal ≤ later.ordinal := by
  have spaced : 0 < secondHidden.pollInterval := secondMatches_pollInterval.symm ▸ one_pos
  have timed : secondHidden.KeepsTime := answering_keepsTime hiddenSecond
  have enough : secondHidden.pollLimit (secondHidden.effectiveTimeout aimed) ≤ secondHidden.fuel :=
    secondMatches_waitLimit
  obtain ⟨decided, ranked, ends⟩ := checks_decide_by_page
  refine ⟨?_, ?_, ?_⟩
  · have checks : (deciding .enabled).operation = .check .enabled 5 2 := rfl
    have regards : secondHidden.Regards ⟨0⟩ hiddenSecond (fun _ => True)
        (deciding .enabled).header none oldAndNew secondMatchesOpen := secondHidden_regards
    have ended := (ends timed spaced).1 checks regards enough
    obtain ⟨outcome, final, ran, decides⟩ := decided.1 checks regards ended
    have met : secondHidden.decides none hiddenSecond oldAndNew .enabled = true := by
      decide +kernel
    have next := decides.next
    rw [met] at next
    exact ⟨outcome, final, ran, next⟩
  · have regards : secondHidden.Regards ⟨0⟩ hiddenSecond (fun _ => True) asserting.header none
        oldAndNew secondMatchesOpen := secondHidden_regards
    have ended := (ends timed spaced).2 rfl rfl regards enough
    have unmet : secondHidden.decides none hiddenSecond oldAndNew .visible = false := by
      decide +kernel
    rw [decided.2 rfl rfl regards ended, unmet]
    exact Bool.false_ne_true
  · obtain ⟨catalog, read, listed⟩ := Catalog.ofFields_placedByIndex 0 1
    exact ⟨catalog, _, listed, ranked read listed⟩

end Scenario

end Rehearsal
