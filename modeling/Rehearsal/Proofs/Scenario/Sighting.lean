import Rehearsal.Proofs.Scenario.Isolation

/-!
What a wait sees of an element. Each of its conditions looks at the first matches of each
candidate; on a page that does not change it passes at the first look or never, and the conditions
are ordered by what they ask for.
-/

set_option autoImplicit false

namespace Rehearsal

open Activity

/-! ## Polling for what does not change -/

namespace Polling

section

variable {S T : Type} [Scale T] {polling : Polling T} {clock : Clock S T} {required : S -> Prop}
  {test : Activity S Bool} {seen : Bool} {deadline : T} {start final : S}
  {earlier : List (Look S Unit)}

theorem looks_settled (sleeps : ∀ span state, required state → required (clock.sleep span state))
    (tests : test.Settles required (.ok seen)) (given : required start)
    (looks : polling.Looks clock (probing test) deadline start earlier final) :
    required final ∧ (seen = true → earlier = []) := by
  induction looks with
  | none => exact ⟨given, fun _ => rfl⟩
  | again found vain _ _ ih =>
    obtain ⟨kept, rfl⟩ := finds_settled tests given found
    refine ⟨(ih (sleeps _ _ kept)).1, ?_⟩
    rintro rfl
    cases vain

end

/-- The polling passes at its first look, or its last look comes at the deadline. -/
inductive Resolves {S : Type} (polling : Polling Rat) (clock : Clock S Rat)
    (test : Activity S Bool) (start : S) : Bool -> Outcome Unit × S -> Prop where
  | passes {final : S}
      (concludes : polling.Concludes clock (probing test) (polling.expires clock start) start []
        ⟨start, .found ()⟩ final)
      (timeless : clock.now final = clock.now start) :
      Resolves polling clock test start true (.ok (), final)
  | expires {final : S} (exact : clock.now final = clock.now start + polling.timeout) :
      Resolves polling clock test start false (.failed (polling.timeoutFailure none), final)

theorem KeepsTime.resolves {S : Type} {polling : Polling Rat} {clock : Clock S Rat}
    {required : S -> Prop} {test : Activity S Bool} {seen : Bool} {start : S} {fuel : Nat}
    (timed : KeepsTime clock (probing test))
    (free : ∀ state, required state → clock.now (test state).2 = clock.now state)
    (spaced : 0 < polling.interval) (room : 0 < polling.timeout) (enough : polling.limit ≤ fuel)
    (sleeps : ∀ span state, required state → required (clock.sleep span state))
    (tests : test.Settles required (.ok seen)) (given : required start) :
    polling.Resolves clock test start seen (polling.test clock fuel test start) := by
  obtain ⟨earlier, ⟨began, finding⟩, final, concludes, ran⟩ :=
    run_concludes timed (fun _ => spaced) start
  obtain ⟨kept, once⟩ := looks_settled sleeps tests given concludes.looks
  obtain ⟨-, same⟩ := finds_settled tests kept concludes.finds
  obtain rfl : finding = Sight.ofTest (.ok seen) := same
  have unmoved : clock.now final = clock.now began := by
    rw [← concludes.finds.after, (probing_after test began).2, free began kept]
  have ended := (test_settles sleeps tests fuel).outcome given
    (run_not_stalled timed (fun _ => spaced) enough start)
  have left : (polling.test clock fuel test start).2 = final := congrArg Prod.snd (ran fuel enough)
  rcases polled : polling.test clock fuel test start with ⟨outcome, last⟩
  rw [polled] at ended left
  subst ended left
  cases seen with
  | true =>
    obtain rfl := once rfl
    cases concludes.looks
    exact .passes concludes unmoved
  | false => exact .expires (timed.expires_exactly room concludes rfl unmoved)

end Polling

/-! ## Pages -/

/-- One element that a selector matches. -/
structure Matched where
  visible : Bool
  enabled : Bool
  text : String

/-- What a match answers to the queries of a wait. -/
def Matched.answer? (matched : Matched) : (asked : Query) -> Option asked.Answer
  | .isVisible => some matched.visible
  | .isEnabled => some matched.enabled
  | .innerText => some matched.text
  | .count | .handle | .inputValue | .attributeValue _ | .selection => none

/-- What each selector matches on a page. -/
def Display : Type := (selector : String) -> List Matched

/-- A page on which so much is shown in each state of the world. Its queries are answered without
an error, and none of them changes what is shown. -/
structure World.Displays {W T : Type} (world : World W T) (live : PageId) (holds : W -> Prop)
    (shown : W -> Display) : Prop where
  opened : ∀ state, holds state → world.isClosed state live = false
  counted : ∀ selector state, holds state → ∃ after,
    world.perform (.query { page := live, selector, index := none } .count) state =
      (.ok (shown state selector).length, after) ∧ holds after ∧ shown after = shown state
  answered : ∀ selector index matched asked answer state, holds state →
    (shown state selector)[index]? = some matched → matched.answer? asked = some answer →
    ∃ after, world.perform (.query { page := live, selector, index := some index } asked) state =
      (.ok answer, after) ∧ holds after ∧ shown after = shown state

/-- What is shown, as a page answers for it. -/
def Display.view (display : Display) : PageView
  | selector, none, .count => .ok (display selector).length
  | selector, some index, asked =>
    (((display selector)[index]?).bind (·.answer? asked)).elim (.error World.pageClosed) .ok
  | _, none, _ => .error World.pageClosed

/-- A world with a page that shows this and that at each time, and whose queries take none. -/
def World.displaying (shown : Rat -> Display) : World Rat Rat where
  clock := Polling.seconds
  isClosed := fun _ _ => false
  url := fun _ _ => ""
  today := 0
  perform
    | .query target asked, now => ((shown now).view target.selector target.index asked, now)
    | _, now => (.error World.pageClosed, now)

theorem World.displays_displaying (shown : Rat -> Display) :
    (World.displaying shown).Displays ⟨0⟩ (fun _ => True) shown where
  opened _ _ := rfl
  counted _ _ _ := ⟨_, rfl, trivial, rfl⟩
  answered selector index matched asked answer now _ there known := by
    refine ⟨now, ?_, trivial, rfl⟩
    simp [displaying, Display.view, there, known]

/-- The session rests on a page that shows just this. -/
def Scene.Faces {W : Type} (live : PageId) (holds : W -> Prop) (shown : W -> Display)
    (display : Display) (scene : Scene W) : Prop :=
  scene.Rests live fun state => holds state ∧ shown state = display

theorem any_range_min {A : Type} (items : List A) (most : Nat) (test : A -> Bool) :
    (List.range (min items.length most)).any (fun index => items[index]?.any test) =
      (items.take most).any test := by
  induction items generalizing most with
  | nil => simp
  | cons item rest ih =>
    cases most with
    | zero => simp
    | succ most =>
      rw [List.length_cons, Nat.succ_min_succ, List.range_succ_eq_map, List.any_cons, List.any_map,
        List.take_succ_cons, List.any_cons, ← ih]
      rfl

namespace Scenario

/-- What a sign comes to where these are all the matches. -/
def Sign.seenIn (fill : String -> String) (found : List Matched) : Sign -> Bool
  | .visible => (found.take mostMatches).any (·.visible)
  | .clickable => (found.take mostMatches).any fun matched => matched.visible && matched.enabled
  | .present => 0 < found.length
  | .textPresent text =>
    (found.take mostMatches).any fun matched => Text.contains matched.text (fill text)

/-- The conditions of a wait that are about the matches of an element's candidates. -/
inductive Aim where
  | shows (sign : Sign)
  | invisible

namespace Aim

def condition : Aim -> WaitCondition
  | .shows sign => sign.condition
  | .invisible => .invisible

variable {W T : Type}

def probe (scenario : Scenario W T) (page element : String) (row : Option Row) :
    Aim -> Activity (Scene W) Bool
  | .shows sign => scenario.anyLead page element row (sign.test scenario row)
  | .invisible => do
    return !(← scenario.anyLead page element row (Sign.visible.test scenario row))

/-- What an aim comes to on a page. -/
def seenOn (scenario : Scenario W T) (row : Option Row) (display : Display)
    (candidates : List Candidate) : Aim -> Bool
  | .shows sign => candidates.any fun candidate =>
    sign.seenIn (scenario.fill row) (display (scenario.selectorOf row candidate))
  | .invisible => !candidates.any fun candidate =>
    Sign.visible.seenIn (scenario.fill row) (display (scenario.selectorOf row candidate))

end Aim

/-! ## Looks at a page -/

section

variable {W T : Type} {scenario : Scenario W T} {live : PageId} {holds : W -> Prop}
  {shown : W -> Display} {display : Display} {page element : String} {row : Option Row}
  {candidates : List Candidate} {scene : Scene W} {header : Header} {wait : Wait}

theorem settles_bind_ok {S A B : Type} {required : S -> Prop} {first : Activity S A}
    {next : A -> Activity S B} {value : A} {result : Except Failure B}
    (before : first.Settles required (.ok value)) (after : (next value).Settles required result) :
    (first >>= next).Settles required result := by
  have yields : first.Ensures required ⟨(· = value), (Promise.only result).raises⟩ :=
    before.mono (fun _ same => (Except.ok.inj same).symm) nofun
  refine ensures_bind yields ?_
  rintro _ rfl
  exact after

theorem anyOf_settles_any {A : Type} {required : Scene W -> Prop}
    {test : A -> Activity (Scene W) Bool} {shows : A -> Bool} {items : List A}
    (tests : ∀ item ∈ items, (test item).Settles required (.ok (shows item))) :
    (anyOf test items).Settles required (.ok (items.any shows)) := by
  induction items with
  | nil => exact settles_pure false
  | cons item rest ih =>
    obtain ⟨first, others⟩ := List.forall_mem_cons.mp tests
    refine settles_bind_ok first ?_
    rw [List.any_cons]
    cases shows item with
    | false => exact ih others
    | true => exact settles_pure true

variable (displays : scenario.world.Displays live holds shown)

include displays

theorem count_settles (selector : String) :
    (scenario.ask { page := live, selector, index := none } .count).Settles
      (Scene.Faces live holds shown display) (.ok (display selector).length) := by
  rintro scene ⟨held, rests, rfl⟩
  obtain ⟨after, performed, stays, same⟩ := displays.counted selector scene.world rests
  rw [ask, call, performed]
  exact ⟨⟨held, stays, same⟩, rfl⟩

theorem answer_settles {selector : String} {index : Nat} {matched : Matched} {asked : Query}
    {answer : asked.Answer} (there : (display selector)[index]? = some matched)
    (known : matched.answer? asked = some answer) :
    (scenario.ask { page := live, selector, index := some index } asked).Settles
      (Scene.Faces live holds shown display) (.ok answer) := by
  rintro scene ⟨held, rests, rfl⟩
  obtain ⟨after, performed, stays, same⟩ :=
    displays.answered selector index matched asked answer scene.world rests there known
  rw [ask, call, performed]
  exact ⟨⟨held, stays, same⟩, rfl⟩

/-- A test of single matches holds for one of those that are looked at. -/
theorem anyMatch_settles_any {test : Target -> Activity (Scene W) Bool} {shows : Matched -> Bool}
    (selector : String)
    (tests : ∀ index matched, (display selector)[index]? = some matched →
      (test { page := live, selector, index := some index }).Settles
        (Scene.Faces live holds shown display) (.ok (shows matched))) :
    (scenario.anyMatch test { page := live, selector, index := none }).Settles
      (Scene.Faces live holds shown display)
      (.ok (((display selector).take mostMatches).any shows)) := by
  refine settles_bind_ok (count_settles displays selector) ?_
  rw [← any_range_min]
  refine anyOf_settles_any fun index among => ?_
  have within := (lt_min_iff.mp (List.mem_range.mp among)).1
  have there := List.getElem?_eq_getElem within
  rw [there, Option.any_some]
  exact tests index _ there

theorem Sign.test_settles_seen (sign : Sign) (row : Option Row) (selector : String) :
    (sign.test scenario row { page := live, selector, index := none }).Settles
      (Scene.Faces live holds shown display)
      (.ok (sign.seenIn (scenario.fill row) (display selector))) := by
  cases sign with
  | visible =>
    exact anyMatch_settles_any displays selector fun index matched there =>
      answer_settles displays there rfl
  | clickable =>
    refine anyMatch_settles_any displays selector fun index matched there => ?_
    refine settles_bind_ok (answer_settles displays there rfl) ?_
    cases matched.visible with
    | false => exact settles_pure false
    | true => exact answer_settles displays there rfl
  | present => exact settles_bind_ok (count_settles displays selector) (settles_pure _)
  | textPresent text =>
    refine anyMatch_settles_any displays selector fun index matched there => ?_
    exact settles_bind_ok (answer_settles displays there rfl) (settles_pure _)

theorem isLive_of_faces (faces : scene.Faces live holds shown display) :
    scenario.IsLive scene live :=
  ⟨faces.1, displays.opened scene.world faces.2.1⟩

theorem anyLead_settles_any (sign : Sign) (row : Option Row)
    (listed : scenario.catalog.candidates page element = .ok candidates) :
    (scenario.anyLead page element row (sign.test scenario row)).Settles
      (Scene.Faces live holds shown display) (.ok ((Aim.shows sign).seenOn scenario row display
        candidates)) := by
  intro scene faces
  rw [anyLead, bind_run, leads_of_live (isLive_of_faces displays faces) listed]
  dsimp only
  rw [anyOf_map]
  exact anyOf_settles_any (fun candidate _ => sign.test_settles_seen displays row _) scene faces

theorem Aim.probe_settles (aim : Aim) (row : Option Row)
    (listed : scenario.catalog.candidates page element = .ok candidates) :
    (aim.probe scenario page element row).Settles (Scene.Faces live holds shown display)
      (.ok (aim.seenOn scenario row display candidates)) := by
  cases aim with
  | shows sign => exact anyLead_settles_any displays sign row listed
  | invisible =>
    exact settles_bind_ok (anyLead_settles_any displays .visible row listed) (settles_pure _)

omit displays in
theorem await_aim [Scale T] (scenario : Scenario W T) (row : Option Row) {aim : Aim}
    (waits : header.wait = some wait) (aimed : wait.condition = aim.condition) :
    scenario.await header row =
      (scenario.waitPolling header wait).test scenario.clock scenario.fuel
        (aim.probe scenario (header.page.getD "") (header.element.getD "") row) := by
  cases aim with
  | shows sign => exact await_sign scenario row waits aimed
  | invisible =>
    simp only [await, waits, aimed, waitPolling]
    rfl

end

/-! ## What conditions ask for -/

/-- A sign that is only there where another one is. -/
inductive Sign.Exceeds : Sign -> Sign -> Prop where
  | clickable : Exceeds .clickable .visible
  | visible : Exceeds .visible .present
  | textPresent (text : String) : Exceeds (.textPresent text) .present

theorem Sign.Exceeds.seenIn {sign other : Sign} (exceeds : sign.Exceeds other)
    {fill : String -> String} {found : List Matched} (seen : sign.seenIn fill found = true) :
    other.seenIn fill found = true := by
  have present : ∀ test, (found.take mostMatches).any test = true →
      Sign.present.seenIn fill found = true := by
    intro test passes
    obtain ⟨matched, among, -⟩ := List.any_eq_true.mp passes
    exact decide_eq_true (List.length_pos_of_mem (List.mem_of_mem_take among))
  cases exceeds with
  | clickable =>
    obtain ⟨matched, among, both⟩ := List.any_eq_true.mp seen
    exact List.any_eq_true.mpr ⟨matched, among, (Bool.and_eq_true_iff.mp both).1⟩
  | visible => exact present _ seen
  | textPresent text => exact present _ seen

theorem Sign.Exceeds.seenOn {W T : Type} {scenario : Scenario W T} {row : Option Row}
    {display : Display} {candidates : List Candidate} {sign other : Sign}
    (exceeds : sign.Exceeds other)
    (seen : (Aim.shows sign).seenOn scenario row display candidates = true) :
    (Aim.shows other).seenOn scenario row display candidates = true := by
  obtain ⟨candidate, member, shows⟩ := List.any_eq_true.mp seen
  exact List.any_eq_true.mpr ⟨candidate, member, exceeds.seenIn shows⟩

/-! ## Waits in exact time -/

section

variable {W : Type} {scenario : Scenario W Rat} {live : PageId} {holds : W -> Prop}
  {shown : W -> Display} {display : Display} {page element : String} {row : Option Row}
  {candidates : List Candidate} {scene : Scene W} {header : Header} {aim : Aim}

theorem KeepsTime.probes (timed : scenario.KeepsTime) (aim : Aim) (page element : String)
    (row : Option Row) :
    Polling.KeepsTime scenario.clock (Polling.probing (aim.probe scenario page element row)) := by
  refine Polling.keepsTime_probing timed.clock_sleeps ?_
  cases aim with
  | shows sign => exact anyLead_onward (sign.test_onward timed row) page element row
  | invisible =>
    exact onward_bind (anyLead_onward (Sign.visible.test_onward timed row) page element row)
      fun _ => onward_pure _

/-- Where queries take no time, the time is part of what they leave alone. -/
theorem FreeQueries.displays (free : scenario.FreeQueries)
    (displays : scenario.world.Displays live holds shown) (time : Rat) :
    scenario.world.Displays live
      (fun state => holds state ∧ scenario.world.clock.now state = time) shown where
  opened state held := displays.opened state held.1
  counted := by
    rintro selector state ⟨held, rfl⟩
    obtain ⟨after, performed, kept, same⟩ := displays.counted selector state held
    have unmoved := congrArg (fun ran => scenario.world.clock.now ran.2) performed
    exact ⟨after, performed, ⟨kept, unmoved.symm.trans (free _ _ state)⟩, same⟩
  answered := by
    rintro selector index matched asked answer state ⟨held, rfl⟩ there known
    obtain ⟨after, performed, kept, same⟩ :=
      displays.answered selector index matched asked answer state held there known
    have unmoved := congrArg (fun ran => scenario.world.clock.now ran.2) performed
    exact ⟨after, performed, ⟨kept, unmoved.symm.trans (free _ _ state)⟩, same⟩

/-- A page that does not change, under a clock that only moves on while someone sleeps. -/
structure StandsStill (scenario : Scenario W Rat) (live : PageId) (holds : W -> Prop)
    (display : Display) : Prop where
  displays : scenario.world.Displays live holds fun _ => display
  slept : ∀ span state, holds state → holds (scenario.world.clock.sleep span state)
  timed : scenario.KeepsTime
  free : scenario.FreeQueries
  spaced : 0 < scenario.pollInterval

/-- A record waits for something of an element, for some time. -/
structure AimsAt (scenario : Scenario W Rat) (page element : String) (aim : Aim)
    (header : Header) : Prop where
  place : header.page.getD "" = page ∧ header.element.getD "" = element
  waits : ∃ wait, header.wait = some wait ∧ wait.condition = aim.condition
  room : 0 < scenario.effectiveTimeout header
  enough : scenario.pollLimit (scenario.effectiveTimeout header) ≤ scenario.fuel

section

variable (still : scenario.StandsStill live holds display)
  (listed : scenario.catalog.candidates page element = .ok candidates)

include still listed

theorem StandsStill.probe_timeless (aim : Aim) (row : Option Row) (scene : Scene W)
    (rests : scene.Rests live holds) :
    scenario.clock.now (aim.probe scenario page element row scene).2 =
      scenario.clock.now scene := by
  have displays := still.free.displays still.displays (scenario.clock.now scene)
  exact (aim.probe_settles displays row listed scene ⟨rests.1, ⟨rests.2, rfl⟩, rfl⟩).1.2.1.2

theorem StandsStill.await_resolves (awaits : scenario.AimsAt page element aim header)
    (row : Option Row) (rests : scene.Rests live holds) :
    ∃ wait, header.wait = some wait ∧
      (scenario.waitPolling header wait).Resolves scenario.clock
        (aim.probe scenario page element row) scene (aim.seenOn scenario row display candidates)
        (scenario.await header row scene) := by
  have tests : (aim.probe scenario page element row).Settles
      (Scene.Faces live holds (fun _ => display) display)
      (.ok (aim.seenOn scenario row display candidates)) :=
    aim.probe_settles still.displays row listed
  obtain ⟨⟨rfl, rfl⟩, ⟨wait, waits, aimed⟩, room, enough⟩ := awaits
  refine ⟨wait, waits, ?_⟩
  rw [await_aim scenario row waits aimed]
  exact (still.timed.probes aim _ _ row).resolves
    (fun scene faces => still.probe_timeless listed aim row scene ⟨faces.1, faces.2.1⟩)
    still.spaced room enough
    (fun span scene faces => ⟨faces.1, still.slept span scene.world faces.2.1, rfl⟩) tests
    ⟨rests.1, rests.2, rfl⟩

theorem StandsStill.await_passes_iff (awaits : scenario.AimsAt page element aim header)
    (row : Option Row) (rests : scene.Rests live holds) :
    (scenario.await header row scene).1 = .ok () ↔
      aim.seenOn scenario row display candidates = true := by
  obtain ⟨wait, -, resolves⟩ := still.await_resolves listed awaits row rests
  generalize aim.seenOn scenario row display candidates = seen at resolves ⊢
  generalize scenario.await header row scene = ran at resolves ⊢
  cases resolves with
  | passes => simp
  | expires => simp

end

/-! ## Waits for the same element -/

/-- On a page that does not change, a wait passes if one that asks for more does, and the element
is seen or else it is not. What passes does so at its first look, and what does not is given up
at its time to the second. -/
theorem waits_are_ordered (still : scenario.StandsStill live holds display)
    (listed : scenario.catalog.candidates page element = .ok candidates) (row : Option Row) :
    (∀ {sign other : Sign} {header later : Header} {scene after : Scene W},
      sign.Exceeds other → scenario.AimsAt page element (.shows sign) header →
      scenario.AimsAt page element (.shows other) later →
      scene.Rests live holds → after.Rests live holds →
      (scenario.await header row scene).1 = .ok () → (scenario.await later row after).1 = .ok ()) ∧
    (∀ {header later : Header} {scene after : Scene W},
      scenario.AimsAt page element (.shows .visible) header →
      scenario.AimsAt page element .invisible later →
      scene.Rests live holds → after.Rests live holds →
      ((scenario.await header row scene).1 = .ok () ↔
        (scenario.await later row after).1 ≠ .ok ())) ∧
    ∀ {aim : Aim} {header : Header} {scene : Scene W},
      scenario.AimsAt page element aim header → scene.Rests live holds →
      (∃ wait final, header.wait = some wait ∧
        scenario.await header row scene = (.ok (), final) ∧
        (scenario.waitPolling header wait).Concludes scenario.clock
          (Polling.probing (aim.probe scenario page element row))
          (scenario.clock.now scene + scenario.effectiveTimeout header) scene []
          ⟨scene, .found ()⟩ final ∧
        scenario.clock.now final = scenario.clock.now scene) ∨
      ∃ failure final, scenario.await header row scene = (.failed failure, final) ∧
        failure.kind? = some .waitTimeout ∧
        scenario.clock.now final =
          scenario.clock.now scene + scenario.effectiveTimeout header := by
  refine ⟨?_, ?_, ?_⟩
  · intro sign other header later scene after exceeds awaits expects rests stays passed
    rw [still.await_passes_iff listed awaits row rests] at passed
    rw [still.await_passes_iff listed expects row stays]
    exact exceeds.seenOn passed
  · intro header later scene after awaits expects rests stays
    rw [still.await_passes_iff listed awaits row rests,
      ne_eq, still.await_passes_iff listed expects row stays]
    simp [Aim.seenOn]
  · intro aim header scene awaits rests
    obtain ⟨wait, waits, resolves⟩ := still.await_resolves listed awaits row rests
    generalize aim.seenOn scenario row display candidates = seen at resolves
    generalize scenario.await header row scene = ran at resolves ⊢
    cases resolves with
    | passes concludes timeless => exact .inl ⟨wait, _, waits, rfl, concludes, timeless⟩
    | expires exact => exact .inr ⟨_, _, rfl, rfl, exact⟩

end

/-- The element of two candidates, on a page that shows this and that. -/
def watching (shown : Rat -> Display) : Scenario Rat Rat :=
  .standard (.displaying shown) secondMatches.catalog secondMatches.settings "run" 2

def watchingOpen : Scene Rat :=
  { Scene.opening 0 (Files.empty "/") with session := { Session.idle with page := some ⟨0⟩ } }

theorem watching_pollLimit (shown : Rat -> Display) : (watching shown).pollLimit 1 = 2 :=
  secondMatches_pollLimit

/-- A wait of one second. -/
def watchFor (condition : WaitCondition) : Header :=
  { presence with wait := some { condition, timeout := some 1.0 } }

theorem watchFor_timeout (shown : Rat -> Display) (condition : WaitCondition) :
    (watching shown).effectiveTimeout (watchFor condition) = 1 := by
  have one : Scale.ofSeconds (T := Rat) 1.0 = 1 := by decide +kernel
  exact one

/-- The second candidate matches a button that is in sight but not enabled. -/
def oneDisabled : Display := fun selector =>
  if selector = Selector.build .id "new" then
    [{ visible := true, enabled := false, text := "Log in" }]
  else []

theorem waits_are_ordered_for_disabled :
    let await := fun condition => (watching fun _ => oneDisabled).await (watchFor condition) none
      watchingOpen
    ((await .clickable).1 = .ok () → (await .visible).1 = .ok ()) ∧
      ((await .visible).1 = .ok () → (await .present).1 = .ok ()) ∧
      ((await .visible).1 = .ok () ↔ (await .invisible).1 ≠ .ok ()) ∧
      (await .clickable).1.timesOut = true ∧ (await .clickable).2.world = 1 ∧
      (await .visible).1.value? = some () ∧ (await .visible).2.world = 0 := by
  intro await
  have still : (watching fun _ => oneDisabled).StandsStill ⟨0⟩ (fun _ => True) oneDisabled :=
    { displays := World.displays_displaying _
      slept := fun _ _ _ => trivial
      timed := { sleeps := fun _ _ => rfl, queries := fun _ _ _ => le_rfl }
      free := fun _ _ _ => rfl
      spaced := secondMatches_pollInterval.symm ▸ one_pos }
  have aims : ∀ aim : Aim, (watching fun _ => oneDisabled).AimsAt "login" "user" aim
      (watchFor aim.condition) := fun aim =>
    { place := ⟨rfl, rfl⟩
      waits := ⟨_, rfl, rfl⟩
      room := by rw [watchFor_timeout]; exact one_pos
      enough := by rw [watchFor_timeout, watching_pollLimit]; exact le_rfl }
  have rests : watchingOpen.Rests ⟨0⟩ fun _ => True := ⟨rfl, trivial⟩
  have listed : (watching fun _ => oneDisabled).catalog.candidates "login" "user" = .ok _ := rfl
  obtain ⟨ordered, opposite, -⟩ := waits_are_ordered still listed none
  exact ⟨ordered .clickable (aims _) (aims _) rests rests,
    ordered .visible (aims _) (aims _) rests rests,
    opposite (aims (.shows .visible)) (aims .invisible) rests rests, by decide +kernel,
    by decide +kernel, by decide +kernel, by decide +kernel⟩

end Scenario
end Rehearsal
