import Rehearsal.Proofs.Scenario.Accounting
import Rehearsal.Proofs.Scenario.Arrival
import Rehearsal.Proofs.Scenario.Freshness
import Rehearsal.Proofs.Scenario.RowReplay

/-!
Which rows of a dataset the handles come from that a replay goes by. A step finds its element for
its own row. A wait for an element to leave goes by what is kept, and that may be of an earlier row
until the row drops the page or finds the element itself.
-/

set_option autoImplicit false

namespace Rehearsal

open Activity

variable {W T : Type}

/-- A record with a target forgets the page of it after its wait. -/
def Scene.forgetFor (header : Header) (scene : Scene W) : Scene W :=
  if header.hasTarget then scene.reloadPage (header.page.getD "") else scene

namespace Scenario

variable [Scale T]

/-- What an attempt at an action goes by, among what is kept or found of elements: its wait, where
the element has to leave the page, and its step. -/
inductive Consults (scenario : Scenario W T) (action : Action) (row : Option Row)
    (began : Scene W) (resolved : Resolved) : Prop where
  | waiting {after : Scene W} (leaving : action.header.AwaitsLeaving)
      (looked : scenario.resolveFor action.header row began = (.ok resolved, after))
  | acting {waited after : Scene W} (goes : action.goesByElement = true)
      (met : scenario.await action.header row began = (.ok (), waited))
      (looked : scenario.resolveFor action.header row (waited.forgetFor action.header) =
        (.ok resolved, after))

/-- An attempt at an action began while the row had its turn. -/
def HasAttempt (scenario : Scenario W T) (test : Test) (turn : Turn W) (action : Action)
    (count : Nat) (began : Scene W) : Prop :=
  scenario.RunBegins test.script (some turn.row) (some turn.number) action count began
    scenario.fuel 0 turn.ready

/-- It was found since the row's turn began, and it is the element that the row's values name. -/
structure IsOwn (scenario : Scenario W T) (turn : Turn W) (header : Header)
    (resolved : Resolved) : Prop where
  since : turn.ready.resolutions ≤ resolved.serial
  found : scenario.FoundFor (header.page.getD "") (header.element.getD "") (some turn.row) resolved

/-- It is still kept of the element, as it was when the row's turn began. -/
structure IsInherited (turn : Turn W) (header : Header) (began : Scene W) (resolved : Resolved) :
    Prop where
  before : turn.ready.handles.get? (header.page.getD "") (header.element.getD "") = some resolved
  still : began.handles.get? (header.page.getD "") (header.element.getD "") = some resolved

/-- No attempt goes by anything but finds of its own row. -/
def SharesNoHandles (scenario : Scenario W T) (test : Test) (turns : List (Turn W)) : Prop :=
  ∀ turn ∈ turns, ∀ action count began resolved,
    scenario.HasAttempt test turn action count began →
    scenario.Consults action (some turn.row) began resolved →
      scenario.IsOwn turn action.header resolved

/-- No wait for an element to leave begins while something inherited is kept of it. -/
def WaitsOnOwn (scenario : Scenario W T) (test : Test) (turns : List (Turn W)) : Prop :=
  ∀ turn ∈ turns, ∀ action count began resolved,
    scenario.HasAttempt test turn action count began → action.header.AwaitsLeaving →
      ¬ IsInherited turn action.header began resolved

/-- Scenes that are the same to attempts at a record: at most they differ in what they keep of
elements, and where the record waits for its element to leave, they keep the same of that. -/
def AlikeFor (header : Header) (scene other : Scene W) : Prop :=
  scene.Alike other ∧ (header.AwaitsLeaving →
    other.handles.get? (header.page.getD "") (header.element.getD "") =
      scene.handles.get? (header.page.getD "") (header.element.getD ""))

variable {scenario : Scenario W T}

/-! ## What an attempt depends on -/

omit [Scale T] in
theorem alikeFor_bears (scenario : Scenario W T) (row : Option Row) (header : Header) :
    scenario.Bears row (AlikeFor header) where
  alike scene other related := (scenario.alike_bears row).alike scene other related.1
  framed scene other related changed handles resolutions :=
    ⟨(scenario.alike_bears row).framed scene other related.1 changed handles resolutions,
      fun leaving => handles ▸ related.2 leaving⟩
  kept scene other related page element resolved found numbered := by
    refine ⟨(scenario.alike_bears row).kept scene other related.1 page element resolved found
      numbered, fun leaving => ?_⟩
    simp only [Scene.kept, HandleTable.get?_put, related.2 leaving]
  reloaded page scene other related := by
    refine ⟨(scenario.alike_bears row).reloaded page scene other related.1, fun leaving => ?_⟩
    simp only [Scene.reloadPage, HandleTable.get?_invalidate, related.2 leaving]
  dropped scene other related :=
    ⟨(scenario.alike_bears row).dropped scene other related.1, fun _ => rfl⟩

/-- An attempt at an action ends the same, whatever else is kept. -/
theorem takeAction_alike {action : Action} {row : Option Row}
    (aimed : action.goesByElement = true → action.header.hasTarget = true) {scene other : Scene W}
    (alike : AlikeFor action.header scene other) :
    (scenario.takeAction action row other).1 = (scenario.takeAction action row scene).1 ∧
      (scenario.takeAction action row scene).2.Alike (scenario.takeAction action row other).2 := by
  by_cases leaving : action.header.AwaitsLeaving
  · -- The wait is what tells scenes apart, and of its element these keep the same.
    have takes := takeAction_respects (scenario.alikeFor_bears row action.header)
      fun _ _ related => related.2 leaving
    obtain ⟨same, related⟩ := takes scene other alike
    exact ⟨same, related.1⟩
  · have bears := scenario.alike_bears row
    have awaits : (scenario.await action.header row).Respects Scene.Alike :=
      respects_of_ignores bears (await_ignores leaving)
    have takes : (scenario.takeAction action row).Respects Scene.Alike := by
      cases targeted : action.header.hasTarget with
      | true =>
        have acts : scenario.ActsAfresh action.header row action.goesByElement
            (scenario.takeAction action row) := takeAction_actsAfresh targeted
        obtain ⟨step, taken, steps, -⟩ := acts
        rw [taken]
        have forgets := reloadPage_respects bears (action.header.page.getD "")
        exact respects_bind awaits fun _ => respects_bind forgets fun _ => steps
      | false =>
        have apart : action.goesByElement = false := by
          cases goes : action.goesByElement with
          | true => rw [aimed goes] at targeted; cases targeted
          | false => rfl
        rw [takeAction, prepared]
        refine respects_bind awaits fun _ => ?_
        simp only [targeted, Bool.false_eq_true, if_false]
        exact perform_respects_of_apart bears apart
    exact takes scene other alike.1

/-! ## Since a turn began -/

/-- What is kept was kept when the turn began, or it is a find of its row. -/
structure Since (scenario : Scenario W T) (ready : Scene W) (row : Option Row) (scene : Scene W) :
    Prop where
  grown : ready.resolutions ≤ scene.resolutions
  kept : ∀ page element kept, scene.handles.get? page element = some kept →
    ready.handles.get? page element = some kept ∨
      ready.resolutions ≤ kept.serial ∧ scenario.FoundFor page element row kept

omit [Scale T] in
theorem since_lasts (ready : Scene W) (row : Option Row) :
    scenario.Lasts row (scenario.Since ready row) where
  framed scene changed given handles resolutions :=
    ⟨resolutions ▸ given.grown, fun page element kept held =>
      given.kept page element kept (handles ▸ held)⟩
  kept scene page element resolved given found numbered := by
    refine ⟨Nat.le_succ_of_le given.grown, fun otherPage otherElement kept held => ?_⟩
    rcases HandleTable.get?_put_cases held with ⟨rfl, rfl, rfl⟩ | before
    · refine .inr ⟨numbered ▸ given.grown, ?_⟩
      rw [found.place.1, found.place.2]
      exact found
    · exact given.kept otherPage otherElement kept before
  reloaded _ _ given :=
    ⟨given.grown, fun page element kept held =>
      given.kept page element kept (HandleTable.get?_of_invalidate held)⟩
  dropped _ given := ⟨given.grown, nofun⟩

omit [Scale T] in
theorem not_isOwn_of_before {turn : Turn W} {header : Header} {resolved : Resolved}
    (numbered : turn.ready.Numbered)
    (before : turn.ready.handles.get? (header.page.getD "") (header.element.getD "") =
      some resolved) :
    ¬ scenario.IsOwn turn header resolved := fun own =>
  Nat.not_le.mpr (numbered _ _ _ before) own.since

theorem consults_of_kept {action : Action} {row : Option Row} {began : Scene W}
    {resolved : Resolved} (leaving : action.header.AwaitsLeaving)
    (kept : began.handles.get? (action.header.page.getD "") (action.header.element.getD "") =
      some resolved) :
    scenario.Consults action row began resolved := by
  refine .waiting leaving (?_ : _ = (_, began))
  simp only [resolveFor, resolve, bind_run, look_run, kept, pure_run]

section

variable {turn : Turn W} {action : Action} {began : Scene W} {resolved : Resolved}
  (since : scenario.Since turn.ready (some turn.row) began)

include since

theorem isOwn_of_discover {header : Header} {after : Scene W}
    (searched : scenario.discover (header.page.getD "") (header.element.getD "") (some turn.row)
      (scenario.effectiveTimeout header) began = (.ok resolved, after)) :
    scenario.IsOwn turn header resolved := by
  have live := discover_live searched
  exact ⟨Nat.le_trans since.grown live.numbered.1, live.found⟩

/-- An attempt goes by finds of its own row, but for a wait that begins with an inherited one. -/
theorem own_or_inherited (aimed : action.goesByElement = true → action.header.hasTarget = true)
    (consults : scenario.Consults action (some turn.row) began resolved) :
    scenario.IsOwn turn action.header resolved ∨
      action.header.AwaitsLeaving ∧ IsInherited turn action.header began resolved := by
  cases consults with
  | waiting leaving looked =>
    cases held : began.handles.get? (action.header.page.getD "")
      (action.header.element.getD "") with
    | none =>
      -- Nothing is kept to go by, so the wait begins with a search.
      rw [resolveFor, resolve_of_forgotten held] at looked
      exact .inl (isOwn_of_discover since looked)
    | some kept =>
      simp only [resolveFor, resolve, bind_run, look_run, held, pure_run, Prod.mk.injEq,
        Outcome.ok.injEq] at looked
      obtain ⟨rfl, -⟩ := looked
      rcases since.kept _ _ _ held with before | ⟨own, found⟩
      · exact .inr ⟨leaving, before, held⟩
      · exact .inl ⟨own, found⟩
  | @acting waited _ goes met looked =>
    -- The page is forgotten when the wait is over, so the step goes by a search.
    have awaits : (scenario.await action.header (some turn.row)).Ensures
        (scenario.Since turn.ready (some turn.row)) _ :=
      ensures_of_respects (await_lasts (since_lasts turn.ready _) action.header)
    have later := (since_lasts turn.ready _).reloaded (action.header.page.getD "") _
      (awaits.of_run since met).1
    rw [Scene.forgetFor, if_pos (aimed goes), resolveFor, resolve_of_forgotten] at looked
    · exact .inl (isOwn_of_discover later looked)
    · rw [Scene.reloadPage, HandleTable.get?_invalidate]
      simp

end

/-! ## Turns -/

section

variable {test : Test}

theorem RunBegins.member {script : Script} {row : Option Row} {number : Option Nat}
    {action : Action} {count fuel pointer : Nat} {began scene : Scene W}
    (begins : scenario.RunBegins script row number action count began fuel pointer scene) :
    action ∈ script.actions := by
  induction begins with
  | here found _ => exact List.mem_of_getElem? found
  | later _ _ _ _ ih => exact ih

variable (listens : scenario.onRestart = [Scene.dropHandles])

include listens

theorem resetFor_respects {row : Option Row} {relation : Scene W -> Scene W -> Prop}
    (bears : scenario.Bears row relation) : (scenario.resetFor test).Respects relation := by
  unfold resetFor
  split
  · refine respects_bind (restartSession_respects bears listens) fun _ => ?_
    split
    next page _ =>
      split
      · exact respects_discard (openPage_respects bears page)
      · exact respects_pure _
    next => exact respects_pure _
  · exact respects_pure _

theorem handles_of_reset (resets : test.resetsSession = true) {before ready : Scene W}
    (reset : scenario.resetFor test before = (.ok (), ready)) : ready.handles = .empty := by
  simp only [resetFor, resets, if_true] at reset
  obtain ⟨_, restarted, ran, opens⟩ := (bind_ok ..).mp reset
  -- The restart drops all that is kept, and to open the start page keeps nothing new.
  have unfound : restarted.handles = .empty := by
    obtain ⟨_, _, -, started⟩ := (bind_ok ..).mp ran
    obtain ⟨_, _, -, dropped⟩ := (bind_ok ..).mp started
    rw [listens] at dropped
    cases dropped
    rfl
  cases start : test.startPage with
  | none =>
    simp only [start] at opens
    cases opens
    exact unfound
  | some page =>
    simp only [start] at opens
    split at opens
    · obtain ⟨outcome, opened, passed, ended⟩ := (bind_ok ..).mp opens
      cases ended
      exact scenario.openPage_handles page unfound passed
    · cases opens
      exact unfound

theorem Replays.ready_numbered {policy : RowPolicy} {number : Nat} {rows : List Row}
    {scene final : Scene W} {turns : List (Turn W)} {finish : Finish}
    (replays : scenario.Replays test policy number rows scene turns finish final)
    (numbered : scene.Numbered) : ∀ turn ∈ turns, turn.ready.Numbered := by
  have lasts : scenario.Lasts none Scene.Numbered := numbered_lasts
  have resets : (scenario.resetFor test).Ensures Scene.Numbered _ :=
    ensures_of_respects (resetFor_respects listens lasts.bears)
  have ready : ∀ turn, scenario.HasTurn test turn → turn.before.Numbered →
      turn.ready.Numbered ∧ turn.after.Numbered := by
    intro turn taken before
    have ready := (resets.of_run before taken.reset).1
    have runs : (scenario.runFrom test.script (some turn.row) (some turn.number) scenario.fuel
        (.due 1 test.script.actions.length)).Ensures Scene.Numbered _ :=
      runFrom_lasts numbered_lasts listens _ _ _ _
    exact ⟨ready, (runs.of_run ready taken.ran).1⟩
  induction replays with
  | onward taken _ _ ih =>
    obtain ⟨first, after⟩ := ready _ taken numbered
    exact List.forall_mem_cons.mpr ⟨first, ih after⟩
  | aborted taken => simpa using (ready _ taken numbered).1
  | broken taken => simpa using (ready _ taken numbered).1
  | hung taken => simpa using (ready _ taken numbered).1
  | _ => simp

omit listens in
theorem targeted_of_read {value : Datum} {script : Script}
    (read : Script.ofDatum value = .ok script) {action : Action}
    (member : action ∈ script.actions) (goes : action.goesByElement = true) :
    action.header.hasTarget = true := by
  refine (Script.isAimed_of_read read).1 action member ?_
  unfold Action.goesByElement at goes
  split at goes <;> simp [Header.seeksElement, goes]

variable {value : Datum} (read : Script.ofDatum value = .ok test.script) {policy : RowPolicy}
  {number : Nat} {rows : List Row} {scene final : Scene W} {turns : List (Turn W)}
  {finish : Finish} (replays : scenario.Replays test policy number rows scene turns finish final)
  (numbered : scene.Numbered)

include read replays numbered

theorem sharesNoHandles_iff :
    scenario.SharesNoHandles test turns ↔ scenario.WaitsOnOwn test turns := by
  constructor
  · intro shares turn member action count began resolved attempt leaving inherited
    -- A wait goes by what is kept, so this one would be found both since the turn began and before.
    have own := shares turn member action count began resolved attempt
      (consults_of_kept leaving inherited.still)
    have ready := replays.ready_numbered listens numbered turn member
    exact not_isOwn_of_before ready inherited.before own
  · intro waits turn member action count began resolved attempt consults
    have since : scenario.Since turn.ready (some turn.row) began :=
      attempt.keeps (since_lasts turn.ready _) listens ⟨Nat.le_refl _, fun _ _ _ => .inl⟩
    rcases own_or_inherited since (targeted_of_read read attempt.member) consults
      with own | ⟨leaving, inherited⟩
    · exact own
    · exact absurd inherited (waits turn member action count began resolved attempt leaving)

theorem sharesNoHandles_of_resets (resets : test.resetsSession = true) :
    scenario.SharesNoHandles test turns := by
  refine (sharesNoHandles_iff listens read replays numbered).mpr ?_
  intro turn member action count began resolved _ _ inherited
  have unfound := handles_of_reset listens resets (replays.taken turn member).reset
  have before := inherited.before
  rw [unfound] at before
  cases before

end

/-! ## What a turn leaves to the next -/

section

variable {test : Test} {action : Action} {row next : Row} {number fuel : Nat} {scene : Scene W}
  {budget : T}

theorem isOwn_of_left (unreset : test.resetsSession = false)
    (listens : scenario.onRestart = [Scene.dropHandles])
    (unkept : scene.handles = .empty) {header : Header} {resolved : Resolved}
    (left : (scenario.turnFrom test number row scene).after.handles.get? (header.page.getD "")
      (header.element.getD "") = some resolved) :
    scenario.IsOwn (scenario.turnFrom test number row scene) header resolved := by
  have runs : (scenario.runFrom test.script (some row) (some number) scenario.fuel
      (.due 1 test.script.actions.length)).Ensures (scenario.Since scene (some row)) _ :=
    runFrom_lasts (since_lasts scene (some row)) listens _ _ _ _
  have turn : scenario.HasTurn test _ := hasTurn_turnFrom unreset number row scene
  have since := (runs.of_run ⟨Nat.le_refl _, fun _ _ _ => .inl⟩ turn.ran).1
  rcases since.kept _ _ _ left with before | ⟨own, found⟩
  · rw [unkept] at before
    cases before
  · exact ⟨own, found⟩

variable (fueled : scenario.fuel = fuel + 1)
  (budgeted : scenario.retrier.policy.budget? = some budget)
  (begins : test.script.actions[0]? = some action)

include fueled budgeted begins

theorem hasAttempt_of_first (turn : Turn W) :
    scenario.HasAttempt test turn action 1 (noteAttempts 1 turn.ready) := by
  rw [HasAttempt, fueled]
  refine .here begins ⟨budget, [], turn.ready, budgeted, .none, ?_, rfl, rfl⟩
  rw [fueled]
  exact Nat.succ_pos fuel

/-- Where a script begins with a wait for an element to leave, a row waits for what the row before
it has left of the element. -/
theorem waits_on_left (unreset : test.resetsSession = false)
    (listens : scenario.onRestart = [Scene.dropHandles]) (leaving : action.header.AwaitsLeaving)
    (unkept : scene.handles = .empty) {first second : Turn W}
    (one : first = scenario.turnFrom test number row scene)
    (two : second = scenario.turnFrom test (number + 1) next first.after)
    (passes : first.passes = true) (passesToo : second.passes = true) {resolved : Resolved}
    (left : first.after.handles.get? (action.header.page.getD "") (action.header.element.getD "") =
      some resolved) (policy : RowPolicy) :
    scenario.Replays test policy number [row, next] scene [first, second] .complete
        second.after ∧
      (∃ began resolved, scenario.HasAttempt test second action 1 began ∧
        scenario.Consults action (some second.row) began resolved ∧
        scenario.IsOwn first action.header resolved ∧
        ¬ scenario.IsOwn second action.header resolved) ∧
      ¬ scenario.SharesNoHandles test [first, second] := by
  have replays : scenario.Replays test policy number [row, next] scene [first, second] .complete
      second.after := by
    subst one two
    exact replays_cons_turnFrom unreset passes (replays_cons_turnFrom unreset passesToo .complete)
  have firstOwns : scenario.IsOwn first action.header resolved := by
    subst one
    exact isOwn_of_left unreset listens unkept left
  have kept : second.ready.handles.get? (action.header.page.getD "")
      (action.header.element.getD "") = some resolved := by
    rw [two]
    exact left
  have numbered : scene.Numbered := by
    intro page element kept held
    rw [unkept] at held
    cases held
  have secondLacks : ¬ scenario.IsOwn second action.header resolved :=
    not_isOwn_of_before (replays.ready_numbered listens numbered second (by simp)) kept
  have attempt := hasAttempt_of_first fueled budgeted begins second
  have consults : scenario.Consults action (some second.row) (noteAttempts 1 second.ready)
      resolved := consults_of_kept leaving kept
  refine ⟨replays, ⟨_, resolved, attempt, consults, firstOwns, secondLacks⟩, fun shares => ?_⟩
  exact secondLacks (shares second (by simp) _ _ _ _ attempt consults)

end

/-! ## Replays -/

/-- The rows of a dataset share no handles exactly if no wait for an element to leave begins while
something is kept of the element that was kept when the row's turn began. Nothing else that is kept
makes a difference to an attempt; and where the session is reset for each row, nothing is inherited.
-/
theorem executeTest_shares_none_iff {name : String} {test : Test} {rows : List Row}
    (found : scenario.catalog.test name = .ok test) (dataset : test.rows = some rows)
    {value : Datum} (read : Script.ofDatum value = .ok test.script)
    (listens : scenario.onRestart = [Scene.dropHandles]) (asked : Option RowPolicy)
    {scene : Scene W} (numbered : scene.Numbered) :
    ∃ turns finish final,
      scenario.executeTest name asked scene =
        (finish.verdict name (Turn.failures test turns), final) ∧
      scenario.Replays test (asked.getD scenario.settings.onRowFailure) 1 rows scene turns finish
        final ∧
      (scenario.SharesNoHandles test turns ↔ scenario.WaitsOnOwn test turns) ∧
      (test.resetsSession = true → scenario.SharesNoHandles test turns) ∧
      ∀ action ∈ test.script.actions, ∀ row scene other, AlikeFor action.header scene other →
        (scenario.takeAction action row other).1 = (scenario.takeAction action row scene).1 ∧
          (scenario.takeAction action row scene).2.Alike
            (scenario.takeAction action row other).2 := by
  obtain ⟨turns, finish, final, replays⟩ := scenario.exists_replay test
    (asked.getD scenario.settings.onRowFailure) 1 rows scene
  refine ⟨turns, finish, final, executeTest_of_replay found dataset asked replays, replays,
    sharesNoHandles_iff listens read replays numbered,
    sharesNoHandles_of_resets listens read replays numbered, ?_⟩
  intro action member row scene other alike
  exact takeAction_alike (targeted_of_read read member) alike

/-! ## Two rows that name different elements -/

/-- One page with one element, which each row names in its own way. What a row finds as `a` has left
the page whenever the browser is asked; all else stays. -/
def rowPage : Scenario (Unit × List (Called Rat)) Rat :=
  let candidate : Candidate := { ordinal := 0, strategy := .id, value := "$\x7bdata.id\x7d" }
  let page : Page := { name := "login", path := "/login", elements := [("user", [candidate])] }
  { onePage fun
      | .query target .handle => .ok (some ⟨0, target.selector⟩)
      | .isDetached handle => .ok (handle.selector == Selector.build .id "a")
      | call => World.willing call with
    catalog := { pages := [("login", page)], tests := [], params := [] } }

def namingRows : List Row := [[("id", "a")], [("id", "b")]]

/-- A check does not wait, so each row checks the element that it names itself. -/
theorem checks_share_nothing :
    let test := rowTest (checkScript 2) namingRows false
    let scenario := rowPage.offering test
    scenario.catalog.test "entry" = .ok test ∧
      Script.ofDatum (checkDatum 2) = .ok test.script ∧
      ∃ turns finish final,
        scenario.executeTest "entry" none onePageOpen = (.ok (), final) ∧
        scenario.Replays test .abort 1 namingRows onePageOpen turns finish final ∧
        scenario.SharesNoHandles test turns := by
  intro test scenario
  have found : scenario.catalog.test "entry" = .ok test := rfl
  have read : Script.ofDatum (checkDatum 2) = .ok test.script := read_checkDatum rfl
  have listens : scenario.onRestart = [Scene.dropHandles] := rfl
  have unkept : (onePageOpen : Scene (Unit × List (Called Rat))).Numbered := nofun
  obtain ⟨turns, finish, final, ended, replays, shares, -, -⟩ :=
    executeTest_shares_none_iff found rfl read listens none unkept
  have passes : (scenario.executeTest "entry" none onePageOpen).1.passes = true := by
    decide +kernel
  obtain ⟨value, passed⟩ := Outcome.of_passes passes
  refine ⟨found, read, turns, finish, final, ?_, replays, shares.mpr ?_⟩
  · rw [ended] at passed ⊢
    exact Prod.ext passed rfl
  · intro turn _ action count began resolved attempt leaving
    obtain rfl : action = checkAction 2 := List.mem_singleton.mp attempt.member
    obtain ⟨wait, held, -⟩ := leaving
    cases held

def hoverDatum : Datum :=
  .object [("test_id", .text "entry"), ("actions", .list [.object hoverAction.payload])]

/-- The second row waits for the element that the first row has named: that one has left the page,
so the wait is over at once, while the row's own element stays. -/
theorem second_row_waits_for_first_rows_element :
    let test := rowTest hoverScript namingRows false
    let scenario := rowPage.offering test
    scenario.catalog.test "entry" = .ok test ∧
      Script.ofDatum hoverDatum = .ok test.script ∧
      ∃ first second : Turn (Unit × List (Called Rat)),
        scenario.Replays test .abort 1 namingRows onePageOpen [first, second] .complete
          second.after ∧
        (∃ began resolved, scenario.HasAttempt test second hoverAction 1 began ∧
          scenario.Consults hoverAction (some second.row) began resolved ∧
          scenario.IsOwn first hoverAction.header resolved ∧
          ¬ scenario.IsOwn second hoverAction.header resolved) ∧
        ¬ scenario.SharesNoHandles test [first, second] := by
  intro test scenario
  have parsed : Script.parseRecords operations (some (.list [.object hoverAction.payload])) =
      .ok [hoverAction] := by
    rfl
  have read : Script.ofDatum hoverDatum = .ok test.script := by
    have parts : Script.readParts
        [("test_id", .text "entry"), ("actions", .list [.object hoverAction.payload])] =
          .ok ([hoverAction], []) :=
      Script.readParts_single rfl parsed rfl rfl
    rw [hoverDatum, Script.ofDatum, parts]
    rfl
  obtain ⟨first, one⟩ : ∃ first, first = scenario.turnFrom test 1 [("id", "a")] onePageOpen :=
    ⟨_, rfl⟩
  obtain ⟨second, two⟩ : ∃ second, second = scenario.turnFrom test 2 [("id", "b")] first.after :=
    ⟨_, rfl⟩
  have passes : first.passes = true := by
    subst one
    decide +kernel
  have passesToo : second.passes = true := by
    subst two one
    decide +kernel
  have keeps : (first.after.handles.get? "login" "user").isSome = true := by
    subst one
    decide +kernel
  obtain ⟨resolved, left⟩ := Option.isSome_iff_exists.mp keeps
  have begins : test.script.actions[0]? = some hoverAction := rfl
  exact ⟨rfl, read, first, second, waits_on_left rfl rfl begins rfl rfl ⟨_, rfl, rfl⟩ rfl one two
    passes passesToo left .abort⟩

end Scenario

end Rehearsal
