import Rehearsal.Proofs.Scenario.Executions
import Rehearsal.Proofs.Scenario.RowHandles

/-!
Where a scenario stands when a row has its turn, and where it returns to when the row loses the
session. A reset for a row drops all handles; but it leads nowhere unless the test has a page of its
own, so a row without one begins where the rows before it went last.
-/

set_option autoImplicit false

namespace Rehearsal

open Activity

/-! ## Ways -/

/-- Where one stands who started somewhere and arrived at pages one after the other. -/
def standsAfter (arrivals : List String) (start : Option String) : Option String :=
  arrivals.getLast?.or start

theorem standsAfter_append (arrivals more : List String) (start : Option String) :
    standsAfter (arrivals ++ more) start = standsAfter more (standsAfter arrivals start) := by
  rw [standsAfter, List.getLast?_append, Option.or_assoc]
  rfl

theorem standsAfter_eq_none_iff {arrivals : List String} {start : Option String} :
    standsAfter arrivals start = none ↔ start = none ∧ arrivals = [] := by
  rw [standsAfter, Option.or_eq_none_iff, List.getLast?_eq_none_iff, and_comm]

theorem standsAfter_at {L : Type} (whence whither : L -> Option String)
    {arrivals : L -> List String} {legs earlier later : List L} {leg : L} {start : Option String}
    (lands : ∀ leg ∈ legs, whither leg = standsAfter (arrivals leg) (whence leg))
    (chained : legs.IsChain fun leg next => whence next = whither leg)
    (first : ∀ leg ∈ legs.head?, whence leg = start) (split : legs = earlier ++ leg :: later) :
    whence leg = standsAfter (earlier.flatMap arrivals) start := by
  subst split
  -- By induction on the legs before this one: the first of them says where the next one starts.
  induction earlier generalizing start with
  | nil => exact first leg rfl
  | cons head rest ih =>
    obtain ⟨next, onward⟩ := List.isChain_cons.mp chained
    have landed := lands head (by simp)
    rw [first head rfl] at landed
    rw [List.flatMap_cons, standsAfter_append, ← landed]
    exact ih (fun leg member => lands leg (List.mem_cons_of_mem _ member)) onward next

/-- The page that a test starts from for each of its rows. -/
def Test.ownPage? (test : Test) : Option String := test.startPage.filter fun page => !page.isEmpty

def Trial.hasPassed {A : Type} : Trial A -> Bool
  | .passed _ => true
  | _ => false

def Outcome.grants {A : Type} : Outcome (Except StepFailure A) -> Bool
  | .ok (.ok _) => true
  | _ => false

/-- The page that a task has led to, if it goes to one and has passed. -/
def arrivalsOf (target? : Option String) (passed : Bool) : List String :=
  if passed then target?.toList else []

def Visit.arrivals {W : Type} (visit : Visit W) : List String :=
  arrivalsOf visit.action.operation.target? visit.answer.grants

namespace Scenario

variable {W T : Type} [Scale T] {scenario : Scenario W T}

def Tour.arrivals (tour : Tour W) : List String := tour.visits.flatMap Visit.arrivals

def returnTo (scenario : Scenario W T) (page? : Option String) : Activity (Scene W) Unit := do
  scenario.restartSession
  match page? with
  | none => return ()
  | some page => discard (scenario.openPage page)

section

variable (listens : scenario.onRestart = [Scene.dropHandles])

include listens

/-! ## Where attempts lead -/

theorem restartSession_remains : scenario.restartSession.Keeps Scene.currentPage :=
  restartSession_keeps listens Scene.currentPage ⟨fun _ _ => rfl, fun _ _ _ => rfl⟩ fun _ => rfl

theorem reopen_run (scene : Scene W) :
    scenario.reopen scene = scenario.returnTo scene.currentPage scene := by
  have kept := restartSession_remains listens scene
  unfold reopen returnTo
  rw [bind_run, bind_run]
  rcases ran : scenario.restartSession scene with ⟨_ | _ | _, between⟩
  · rw [ran] at kept
    rw [← kept]
    dsimp only
    rw [bind_run, look_run]
    cases here : between.currentPage <;> rfl
  · rfl
  · rfl

theorem reopen_remains : scenario.reopen.Keeps Scene.currentPage := by
  intro scene
  have kept := restartSession_remains listens scene
  rw [reopen_run listens]
  unfold returnTo
  rw [bind_run]
  rcases ran : scenario.restartSession scene with ⟨_ | _ | _, between⟩ <;> rw [ran] at kept
  · cases here : scene.currentPage with
    | none => exact kept.trans here
    | some page =>
      have opened := (scenario.openPage_goesTo page).remains (kept.trans here)
      dsimp only
      rw [discard_run]
      rcases ranOpen : scenario.openPage page between with ⟨_ | _ | _, after⟩ <;>
        rw [ranOpen] at opened <;> exact opened
  · exact kept
  · exact kept

variable {task : Task} {number : Nat} {before after : Scene W}

/-- Only an attempt that passes leads elsewhere, whatever else is done about those that fail. -/
theorem tries_lands {trial : Trial StepOutcome}
    (tried : scenario.retrier.Tries (scenario.attemptOf task) number before trial after) :
    after.currentPage = standsAfter (arrivalsOf task.target? trial.hasPassed)
      before.currentPage := by
  cases tried with
  | passed ran =>
    cases leads : task.target? with
    | none => exact scenario.attemptOf_stays ran (.inl leads)
    | some page => exact ((scenario.attemptOf_goesTo leads _).1 _ _ ran).currentPage
  | refused ran | failed ran => exact scenario.attemptOf_stays ran (.inr (by simp))
  | lost ran kind restored =>
    have stayed := scenario.attemptOf_stays ran (.inr (by simp))
    cases restored with
    | unattended absent => cases absent
    | succeeded present reopened | broke present reopened =>
      cases present
      exact ((reopen_remains listens).of_run reopened).trans stayed

theorem hangs_remains
    (hung : scenario.retrier.Hangs (scenario.attemptOf task) number before after) :
    after.currentPage = before.currentPage := by
  cases hung with
  | step ran => exact scenario.attemptOf_stays ran (.inr (by simp))
  | recovery ran kind present hung =>
    cases present
    have stayed := scenario.attemptOf_stays ran (.inr (by simp))
    exact ((reopen_remains listens).of_run hung).trans stayed

theorem repeats_remains {deadline : T} {count : Nat} {rounds : List (Round (Scene W) StepOutcome)}
    (repeats : scenario.retrier.Repeats (scenario.attemptOf task) deadline count before rounds
      after) : after.currentPage = before.currentPage := by
  induction repeats with
  | none => rfl
  | @again _ _ _ _ trial _ tried retried _ _ ih =>
    refine ih.trans ((tries_lands listens tried).trans ?_)
    cases trial with
    | passed => cases retried
    | refused | failed | lost => rfl

theorem retry_lands {description : String} {answer : Outcome (Except StepFailure StepOutcome)}
    (ran : scenario.retry description (scenario.attemptOf task) before = (answer, after)) :
    after.currentPage = standsAfter (arrivalsOf task.target? answer.grants)
      before.currentPage := by
  rw [retry] at ran
  cases held : scenario.retrier.policy.budget? with
  | none =>
    rw [Retrier.run_of_no_budget held] at ran
    cases ran
    rfl
  | some budget =>
    obtain ⟨earlier, last, final, ends, ended⟩ | ⟨earlier, final, breaks, broke⟩ :=
      Retrier.run_of_history (scenario.attemptOf task) held scenario.fuel description before
    · -- The last attempt is the only one that can have passed.
      have remained := repeats_remains listens ends.repeats
      have landed := tries_lands listens ends.tries
      rw [ended] at ran
      cases ran
      rw [remained] at landed
      cases came : last.trial <;> rw [came] at landed <;> exact landed
    · rw [broke] at ran
      cases ran
      cases breaks with
      | spent repeats => exact repeats_remains listens repeats
      | hung repeats _ hung =>
        exact (hangs_remains listens hung).trans (repeats_remains listens repeats)

/-! ## Where runs lead -/

variable {script : Script} {row : Option Row} {rowNumber : Option Nat}

theorem Takes.lands {visit : Visit W} (taken : scenario.Takes script row visit) :
    visit.after.currentPage = standsAfter visit.arrivals visit.before.currentPage := by
  have retried : scenario.retry visit.action.describe
      (scenario.attemptOf (.act visit.action row)) visit.before = (visit.answer, visit.after) :=
    taken.retried
  exact retry_lands listens retried

omit listens in
theorem Concludes.remains {visit : Visit W} {given : Except StepFailure StepOutcome}
    {ending : Outcome Unit} {final : Scene W}
    (concludes : scenario.Concludes script rowNumber visit given ending final) :
    final.currentPage = visit.after.currentPage := by
  have kept := surrounds_standing.noted concludes.noted
  exact congrArg (fun standing => standing.2.2) kept

theorem Settles.lands {visit : Visit W} {result : Outcome RunState} {final : Scene W}
    (taken : scenario.Takes script row visit)
    (settles : scenario.Settles script rowNumber visit result final) :
    final.currentPage = standsAfter visit.arrivals visit.before.currentPage := by
  rw [← taken.lands listens]
  cases settles with
  | passed concludes | failed concludes | unwritten concludes | spent concludes =>
    exact concludes.remains
  | unanswered | hung => rfl

section

variable {fuel index : Nat} {scene final : Scene W} {visits : List (Visit W)}
  {result : Outcome RunState}
  (course : scenario.Course script row rowNumber fuel index scene visits result final)

include course

theorem Course.lands :
    final.currentPage = standsAfter (visits.flatMap Visit.arrivals) scene.currentPage := by
  induction course with
  | spent | beyond => rfl
  | passed taken concludes leads rest ih =>
    rw [List.flatMap_cons, standsAfter_append, ← taken.lands listens, ← concludes.remains]
    exact ih
  | ends taken settles =>
    rw [List.flatMap_singleton]
    exact settles.lands listens taken

theorem Course.lands_at {earlier later : List (Visit W)} {visit : Visit W}
    (split : visits = earlier ++ visit :: later) :
    visit.before.currentPage =
      standsAfter (earlier.flatMap Visit.arrivals) scene.currentPage := by
  refine standsAfter_at (fun visit => visit.before.currentPage)
    (fun visit => visit.after.currentPage)
    (fun visit member => (course.taken visit member).lands listens) ?_ ?_ split
  · refine course.chained.imp fun visit next leads => ?_
    obtain ⟨outcome, concludes, -⟩ := leads
    exact concludes.remains
  · exact fun visit member => congrArg Scene.currentPage (course.first visit member).2

end

/-! ## Where turns begin -/

section

variable {test : Test} (resets : test.resetsSession = true)

include resets

theorem resetFor_lands {before ready : Scene W}
    (reset : scenario.resetFor test before = (.ok (), ready)) :
    ready.currentPage = test.ownPage?.or before.currentPage := by
  simp only [resetFor, resets, if_true] at reset
  obtain ⟨_, restarted, ran, opens⟩ := (bind_ok ..).mp reset
  have remained := (restartSession_remains listens).of_run ran
  unfold Test.ownPage?
  cases start : test.startPage with
  | none =>
    simp only [start] at opens
    cases opens
    exact remained
  | some page =>
    simp only [start] at opens
    split at opens
    next filled =>
      obtain ⟨outcome, opened, passed, ended⟩ := (bind_ok ..).mp opens
      cases ended
      rw [Option.filter_some, if_pos filled]
      exact ((scenario.openPage_goesTo page _).1 _ _ passed).currentPage
    next blank =>
      cases opens
      rw [Option.filter_some, if_neg blank]
      exact remained

variable {policy : RowPolicy} {number : Nat} {rows : List Row} {scene final : Scene W}
  {tours earlier later : List (Tour W)} {tour : Tour W} {finish : Finish}
  (replays : scenario.Replays test policy number rows scene (tours.map (·.turn)) finish final)
  (toured : ∀ tour ∈ tours, scenario.Tours test tour)

include replays toured

/-- A row without a page of its own begins where the rows before it have gone last. -/
theorem Replays.lands_at (split : tours = earlier ++ tour :: later) :
    tour.turn.ready.currentPage =
      test.ownPage?.or (standsAfter (earlier.flatMap Tour.arrivals) scene.currentPage) := by
  have ready : ∀ tour ∈ tours,
      tour.turn.ready.currentPage = test.ownPage?.or tour.turn.before.currentPage :=
    fun tour member =>
      resetFor_lands listens resets (replays.taken _ (List.mem_map_of_mem member)).reset
  rw [ready tour (by simp [split])]
  -- With a page of its own a row is brought there; without one the turns are legs of one way.
  cases own : test.ownPage? with
  | some page => rfl
  | none =>
    rw [Option.none_or, Option.none_or]
    refine standsAfter_at (fun tour => tour.turn.before.currentPage)
      (fun tour => tour.turn.after.currentPage) ?_ ?_ ?_ split
    · intro tour member
      have landed := (toured tour member).lands listens
      rwa [ready tour member, own, Option.none_or] at landed
    · exact (List.isChain_map _).mp replays.chained |>.imp fun tour next same =>
        congrArg Scene.currentPage same
    · intro tour member
      refine congrArg Scene.currentPage (replays.first tour.turn ?_)
      rw [List.head?_map]
      exact Option.mem_map_of_mem _ member

end

/-! ## Losses -/

omit listens in
/-- An attempt of a turn loses the session after some visits of the turn. -/
inductive Loses (scenario : Scenario W T) (tour : Tour W) (earlier : List (Visit W))
    (between : Scene W) : Prop where
  | lost {visit : Visit W} {later : List (Visit W)} {number : Nat} {began : Scene W}
      {failure : Failure} (visits : tour.visits = earlier ++ visit :: later)
      (begins : scenario.retrier.Begins scenario.fuel
        (scenario.takeAction visit.action (some tour.turn.row)) visit.before number began)
      (ran : scenario.takeAction visit.action (some tour.turn.row) began =
        (.failed failure, between))
      (kind : failure.classify = .sessionLost)

omit listens in
theorem Course.begins {script : Script} {row : Option Row} {rowNumber : Option Nat}
    {fuel index : Nat} {scene final : Scene W} {visits : List (Visit W)}
    {result : Outcome RunState}
    (course : scenario.Course script row rowNumber fuel index scene visits result final)
    (fueled : 0 < fuel) (within : index ≤ script.actions.length) :
    ∃ visit later, visits = visit :: later := by
  cases course with
  | spent => cases fueled
  | beyond beyond => exact absurd within (Nat.not_le.mpr beyond)
  | passed | ends => exact ⟨_, _, rfl⟩

omit listens in
theorem loses_first {test : Test} {tour : Tour W} {action : Action} {budget : T}
    {failure : Failure} {between : Scene W} (toured : scenario.Tours test tour)
    (fueled : 0 < scenario.fuel) (budgeted : scenario.retrier.policy.budget? = some budget)
    (begins : test.script.actions[0]? = some action)
    (ran : scenario.takeAction action (some tour.turn.row) (noteAttempts 1 tour.turn.ready) =
      (.failed failure, between)) (kind : failure.classify = .sessionLost) :
    scenario.Loses tour [] between := by
  have within := (List.getElem?_eq_some_iff.mp begins).1
  obtain ⟨visit, later, visits⟩ := Course.begins toured fueled within
  obtain ⟨first, ready⟩ := toured.first visit (by simp [visits])
  have found := (toured.taken visit (by simp [visits])).found
  rw [first, begins] at found
  cases found
  rw [← ready] at ran
  exact .lost visits ⟨budget, [], _, budgeted, .none, fueled, rfl, rfl⟩ ran kind

theorem Loses.returns {test : Test} {tour : Tour W} {earlier : List (Visit W)} {between : Scene W}
    (toured : scenario.Tours test tour) (loses : scenario.Loses tour earlier between) :
    scenario.reopen (noteReinitialization between) =
      scenario.returnTo (standsAfter (earlier.flatMap Visit.arrivals) tour.turn.ready.currentPage)
        (noteReinitialization between) := by
  cases loses with
  | @lost visit later number began failure visits begins ran kind =>
    -- Neither the attempts before nor the one that loses the session lead anywhere.
    obtain ⟨budget, rounds, state, -, repeats, -, rfl, rfl⟩ := begins
    have lost : scenario.attemptOf (.act visit.action (some tour.turn.row))
        (noteAttempts (rounds.length + 1) state) = (.failed failure, between) := ran
    have stayed := scenario.attemptOf_stays lost (.inr (by simp))
    have repeated : scenario.retrier.Repeats
        (scenario.attemptOf (.act visit.action (some tour.turn.row))) _ _ _ _ _ := repeats
    have remained := repeats_remains listens repeated
    rw [reopen_run listens, ← toured.lands_at listens visits, ← remained, ← stayed]
    rfl

end

/-! ## Rows that start clean -/

/-- Nothing is kept when a row's turn begins, the scenario is on the test's own page or nowhere, and
until the row goes to some page itself, that is where a lost session is set up again. -/
structure StartsClean (scenario : Scenario W T) (test : Test) (tour : Tour W) : Prop where
  unfound : tour.turn.ready.handles = .empty
  placed : tour.turn.ready.currentPage = test.ownPage?
  returns : ∀ earlier between, scenario.Loses tour earlier between →
    earlier.flatMap Visit.arrivals = [] → scenario.reopen (noteReinitialization between) =
      scenario.returnTo test.ownPage? (noteReinitialization between)

section

variable (listens : scenario.onRestart = [Scene.dropHandles]) {test : Test}
  (resets : test.resetsSession = true) {policy : RowPolicy} {number : Nat} {rows : List Row}
  {scene final : Scene W} {tours earlier later : List (Tour W)} {tour : Tour W} {finish : Finish}
  (replays : scenario.Replays test policy number rows scene (tours.map (·.turn)) finish final)
  (toured : ∀ tour ∈ tours, scenario.Tours test tour)
  (split : tours = earlier ++ tour :: later)

include listens resets replays toured split

theorem startsClean_iff_placed :
    scenario.StartsClean test tour ↔ tour.turn.ready.currentPage = test.ownPage? := by
  have member : tour ∈ tours := by simp [split]
  refine ⟨StartsClean.placed, fun placed => ⟨?_, placed, fun past between loses unmoved => ?_⟩⟩
  · exact handles_of_reset listens resets (replays.taken _ (List.mem_map_of_mem member)).reset
  · rw [loses.returns listens (toured tour member), unmoved, placed]
    rfl

theorem startsClean_iff :
    scenario.StartsClean test tour ↔ test.ownPage?.isSome = true ∨
      (scene.currentPage = none ∧ earlier.flatMap Tour.arrivals = []) := by
  rw [startsClean_iff_placed listens resets replays toured split,
    replays.lands_at listens resets toured split]
  cases test.ownPage? with
  | some page => simp
  | none =>
    simp only [Option.none_or, standsAfter_eq_none_iff, Option.isSome_none, Bool.false_eq_true,
      false_or]

end

/-- A row that begins on a page which is not the test's own returns there, if it loses the session
at once. -/
theorem returns_of_lost (listens : scenario.onRestart = [Scene.dropHandles]) {test : Test}
    {tour : Tour W} {action : Action} {budget : T} {page : String}
    (toured : scenario.Tours test tour) (fueled : 0 < scenario.fuel)
    (budgeted : scenario.retrier.policy.budget? = some budget)
    (begins : test.script.actions[0]? = some action) (unowned : test.ownPage? = none)
    (here : tour.turn.ready.currentPage = some page)
    (loses : (scenario.takeAction action (some tour.turn.row)
      (noteAttempts 1 tour.turn.ready)).1.fails (fun failure => failure.classify == .sessionLost) =
        true) :
    ∃ between, scenario.Loses tour [] between ∧
      scenario.reopen (noteReinitialization between) =
        scenario.returnTo (some page) (noteReinitialization between) ∧
      ¬ scenario.StartsClean test tour := by
  obtain ⟨failure, failed, kind⟩ := Outcome.of_fails loses
  have lost := loses_first toured fueled budgeted begins (run_of_outcome failed) (eq_of_beq kind)
  refine ⟨_, lost, ?_, fun clean => ?_⟩
  · rw [lost.returns listens toured, here]
    rfl
  · cases here.symm.trans (clean.placed.trans unowned)

/-- A row starts clean exactly if the test has a page of its own, or else the scenario was nowhere
before and no row went to a page; otherwise the row begins, and returns to, where they went last. -/
theorem rows_start_clean_iff {name : String} {test : Test} {rows : List Row}
    (found : scenario.catalog.test name = .ok test) (dataset : test.rows = some rows)
    {value : Datum} (read : Script.ofDatum value = .ok test.script)
    (listens : scenario.onRestart = [Scene.dropHandles]) (resets : test.resetsSession = true)
    (asked : Option RowPolicy) (scene : Scene W) :
    ∃ tours finish final,
      scenario.executeTest name asked scene =
        (finish.verdict name (Turn.failures test (tours.map (·.turn))), final) ∧
      scenario.Replays test (asked.getD scenario.settings.onRowFailure) 1 rows scene
        (tours.map (·.turn)) finish final ∧
      (∀ tour ∈ tours, scenario.Tours test tour) ∧
      ∀ earlier tour later, tours = earlier ++ tour :: later →
        (scenario.StartsClean test tour ↔ test.ownPage?.isSome = true ∨
          (scene.currentPage = none ∧ earlier.flatMap Tour.arrivals = [])) ∧
        tour.turn.ready.handles = .empty ∧
        tour.turn.ready.currentPage = test.ownPage?.or
          (standsAfter (earlier.flatMap Tour.arrivals) scene.currentPage) ∧
        ∀ past between, scenario.Loses tour past between →
          scenario.reopen (noteReinitialization between) =
            scenario.returnTo
              (standsAfter (past.flatMap Visit.arrivals) tour.turn.ready.currentPage)
              (noteReinitialization between) := by
  obtain ⟨turns, finish, final, replays⟩ := scenario.exists_replay test
    (asked.getD scenario.settings.onRowFailure) 1 rows scene
  obtain ⟨tours, rfl, toured⟩ := exists_tours (Script.wellNumbered_of_read read) replays.taken
  refine ⟨tours, finish, final, executeTest_of_replay found dataset asked replays, replays, toured,
    fun earlier tour later split => ⟨?_, ?_, ?_, ?_⟩⟩
  · exact startsClean_iff listens resets replays toured split
  · exact handles_of_reset listens resets
      (replays.taken _ (List.mem_map_of_mem (by simp [split]))).reset
  · exact replays.lands_at listens resets toured split
  · exact fun past between loses => loses.returns listens (toured tour (by simp [split]))

/-! ## Two rows that follow a link -/

def followAction : Action :=
  { header :=
      { index := 1, page := some "login", element := some "user", wait := none, timeout := none }
    value := none, operation := .navigate "login" }

def followDatum : Datum :=
  .object [("test_id", .text "entry"), ("actions", .list [.object followAction.payload])]

def followScript : Script := { test := "entry", actions := [followAction], assertions := [] }

theorem read_followDatum : Script.ofDatum followDatum = .ok followScript := by
  have parsed : Script.parseRecords operations (some (.list [.object followAction.payload])) =
      .ok [followAction] := by
    rfl
  have parts : Script.readParts
      [("test_id", .text "entry"), ("actions", .list [.object followAction.payload])] =
        .ok ([followAction], []) :=
    Script.readParts_single rfl parsed rfl rfl
  rw [followDatum, Script.ofDatum, parts]
  rfl

def followTest (startPage : Option String) : Test :=
  { rowTest followScript namingRows true with startPage }

/-- The browser shows the page throughout, and is lost when it is asked for the other row's link. -/
def linkPage (fragile : Bool) : Scenario (Unit × List (Called Rat)) Rat :=
  { (onePage fun
      | .query target .count =>
        if fragile && target.selector == Selector.build .id "b" then .error World.pageClosed
        else .ok 1
      | call => World.willing call).staying "http://shop.test/login" with
    catalog := rowPage.catalog }

def nowhere : Scene (Unit × List (Called Rat)) := Scene.opening ((), []) (Files.empty "/")

/-- The test has a page of its own, so both rows start clean although the first one has gone there
as well. -/
theorem rows_with_own_page_start_clean :
    let test := followTest (some "login")
    let scenario := (linkPage false).offering test
    scenario.catalog.test "entry" = .ok test ∧ test.resetsSession = true ∧
      Script.ofDatum followDatum = .ok test.script ∧
      ∃ first second : Tour (Unit × List (Called Rat)), ∃ final,
        scenario.Replays test .abort 1 namingRows nowhere [first.turn, second.turn] .complete
          final ∧
        scenario.StartsClean test first ∧ scenario.StartsClean test second := by
  intro test scenario
  have listens : scenario.onRestart = [Scene.dropHandles] := rfl
  have passes : (scenario.executeTest "entry" none nowhere).1.passes = true := by decide +kernel
  obtain ⟨tours, finish, final, ended, replays, toured, starts⟩ :=
    rows_start_clean_iff (rfl : scenario.catalog.test "entry" = .ok test) rfl read_followDatum
      listens rfl none nowhere
  rw [ended] at passes
  obtain ⟨_, passed⟩ := Outcome.of_passes passes
  cases finish with
  | complete =>
    cases replays.finishes with
    | complete all _ =>
      obtain ⟨first, second, rfl⟩ := List.length_eq_two.mp ((List.length_map _).symm.trans all)
      have own : test.ownPage?.isSome = true := by decide +kernel
      exact ⟨rfl, rfl, read_followDatum, first, second, _, replays,
        (starts [] first [second] rfl).1.mpr (.inl own),
        (starts [first] second [] rfl).1.mpr (.inl own)⟩
  | _ => cases passed

/-- The test has no page of its own, and still its second row begins on the page that the first one
has gone to, and returns there when it loses the session before it has gone anywhere. -/
theorem second_row_returns_to_first_rows_page :
    let test := followTest none
    let scenario := (linkPage true).offering test
    scenario.catalog.test "entry" = .ok test ∧ test.resetsSession = true ∧ test.ownPage? = none ∧
      nowhere.currentPage = none ∧
      ∃ first second : Tour (Unit × List (Called Rat)), ∃ finish final between,
        scenario.Replays test .abort 1 namingRows nowhere [first.turn, second.turn] finish final ∧
        second.turn.ready.currentPage = some "login" ∧ scenario.Loses second [] between ∧
        scenario.reopen (noteReinitialization between) =
          scenario.returnTo (some "login") (noteReinitialization between) ∧
        ¬ scenario.StartsClean test second := by
  intro test scenario
  have listens : scenario.onRestart = [Scene.dropHandles] := rfl
  -- The turns stay opaque but for what is evaluated of them.
  obtain ⟨first, one⟩ : ∃ first, first = scenario.turnAnew test 1 [("id", "a")] nowhere :=
    ⟨_, rfl⟩
  obtain ⟨second, two⟩ : ∃ second, second = scenario.turnAnew test 2 [("id", "b")] first.after :=
    ⟨_, rfl⟩
  have reset : (scenario.resetFor test nowhere).1.passes = true := by decide +kernel
  have resetToo : (scenario.resetFor test first.after).1.passes = true := by
    subst one
    decide +kernel
  have passes : first.passes = true := by
    subst one
    decide +kernel
  have here : second.ready.currentPage = some "login" := by
    subst two one
    decide +kernel
  have loses : (scenario.takeAction followAction (some [("id", "b")])
      (noteAttempts 1 second.ready)).1.fails (fun failure => failure.classify == .sessionLost) =
        true := by
    subst two one
    decide +kernel
  obtain ⟨_, ready⟩ := Outcome.of_passes reset
  obtain ⟨_, readyToo⟩ := Outcome.of_passes resetToo
  obtain ⟨finish, final, replays⟩ :=
    exists_replay_turnAnew one two ready readyToo passes .abort
  have row : second.row = [("id", "b")] := congrArg Turn.row two
  clear one two
  obtain ⟨tours, same, toured⟩ :=
    exists_tours (Script.wellNumbered_of_read read_followDatum) replays.taken
  obtain ⟨one, two, rfl⟩ : ∃ one two, tours = [one, two] :=
    List.length_eq_two.mp ((List.length_map _).symm.trans (congrArg List.length same))
  obtain ⟨rfl, rfl⟩ : one.turn = first ∧ two.turn = second := by simpa using same
  obtain ⟨between, lost, returns, unclean⟩ := returns_of_lost listens (toured two (by simp))
    (Nat.succ_pos _) rfl rfl rfl here (row ▸ loses)
  exact ⟨rfl, rfl, rfl, rfl, one, two, finish, final, between, replays, here, lost, returns,
    unclean⟩

end Scenario

end Rehearsal
