import Rehearsal.Proofs.Activity.Contract
import Rehearsal.Proofs.Scenario.Fallback
import Rehearsal.Scenario.Waiting

/-!
Finding an element, counting its matches and waiting for it to be there. Each goes through the
candidates in its own way; on a page that does not change they settle on the same one.
-/

set_option autoImplicit false

namespace Rehearsal

open Activity

namespace Scene

/-- The session is on a page, in a world of some kind. -/
def Rests {W : Type} (live : PageId) (holds : W -> Prop) (scene : Scene W) : Prop :=
  scene.session.page = some live ∧ holds scene.world

end Scene

namespace Scenario

section

variable {W T : Type}

/-- A page on which each selector has as many matches as it ever had. Its counts are answered, and
so are handles of what is there. -/
structure Still (scenario : Scenario W T) (live : PageId) (counts : String -> Nat)
    (holds : W -> Prop) : Prop where
  opened : ∀ world, holds world → scenario.world.isClosed world live = false
  counted : ∀ selector world, holds world → ∃ after,
    scenario.world.perform (.query { page := live, selector, index := none } .count) world =
      (.ok (counts selector), after) ∧ holds after
  handled : ∀ selector world, holds world → 0 < counts selector → ∃ handle after,
    scenario.world.perform (.query { page := live, selector, index := some 0 } .handle) world =
      (.ok handle, after) ∧ holds after
  slept : ∀ span world, holds world → holds (scenario.world.clock.sleep span world)

def selectorOf (scenario : Scenario W T) (row : Option Row) (candidate : Candidate) : String :=
  Selector.build candidate.strategy (scenario.fill row candidate.value)

/-- Whether a candidate has any match. -/
def shows (scenario : Scenario W T) (row : Option Row) (counts : String -> Nat)
    (candidate : Candidate) : Bool :=
  decide (0 < counts (scenario.selectorOf row candidate))

/-- The matches of the first candidate that has any. -/
def countIn (scenario : Scenario W T) (row : Option Row) (counts : String -> Nat)
    (candidates : List Candidate) : Nat :=
  ((candidates.find? (scenario.shows row counts)).map
    fun chosen => counts (scenario.selectorOf row chosen)).getD 0

/-- The first candidate that has any match is found, or it is said that there is none. -/
def findsFirst (scenario : Scenario W T) (page element : String) (row : Option Row)
    (counts : String -> Nat) (candidates : List Candidate) : Promise Resolved where
  yields found := candidates.find? (scenario.shows row counts) = some found.candidate ∧
    found.selector = scenario.selectorOf row found.candidate
  raises failure := candidates.find? (scenario.shows row counts) = none ∧
    ∃ attempts, failure = .notFound page element attempts

/-- A wait is over exactly if some candidate has a match. -/
def seesAny (scenario : Scenario W T) (row : Option Row) (counts : String -> Nat)
    (candidates : List Candidate) : Promise Unit where
  yields _ := candidates.any (scenario.shows row counts) = true
  raises failure := candidates.any (scenario.shows row counts) = false ∧
    failure.kind? = some .waitTimeout

theorem anyOf_ensures {A : Type} {required : Scene W -> Prop}
    {test : A -> Activity (Scene W) Bool} {found : A -> Bool}
    (tests : ∀ item,
      (test item).Ensures required ⟨fun held => held = found item, fun _ => False⟩)
    (items : List A) :
    (anyOf test items).Ensures required
      ⟨fun held => held = items.any found, fun _ => False⟩ := by
  induction items with
  | nil => exact ensures_pure rfl
  | cons item rest ih =>
    refine ensures_bind (tests item) ?_
    rintro _ rfl
    cases held : found item with
    | true => exact ensures_pure (by simp [held])
    | false => exact ih.mono (by simp [held]) nofun

theorem anyOf_map {A B : Type} (test : B -> Activity (Scene W) Bool) (view : A -> B)
    (items : List A) :
    anyOf test (items.map view) = anyOf (fun item => test (view item)) items := by
  induction items with
  | nil => rfl
  | cons item rest ih => simp only [List.map_cons, anyOf, ih]

variable {scenario : Scenario W T} {live : PageId} {counts : String -> Nat} {holds : W -> Prop}
  {page element : String} {row : Option Row} {candidate : Candidate}
  {candidates : List Candidate} {scene : Scene W} {header : Header} {wait : Wait}
  (still : scenario.Still live counts holds)

include still

/-! ## One candidate -/

theorem ask_counts (selector : String) (rests : scene.Rests live holds) :
    ∃ after, scenario.ask { page := live, selector, index := none } .count scene =
      (.ok (counts selector), after) ∧ after.Rests live holds := by
  obtain ⟨after, performed, kept⟩ := still.counted selector scene.world rests.2
  exact ⟨{ scene with world := after }, by simp only [ask, call, performed], rests.1, kept⟩

theorem ask_count_ensures (selector : String) :
    (scenario.ask { page := live, selector, index := none } .count).Ensures
      (Scene.Rests live holds) ⟨fun count => count = counts selector, fun _ => False⟩ := by
  intro scene rests
  obtain ⟨after, asked, kept⟩ := ask_counts still selector rests
  rw [asked]
  exact ⟨kept, rfl⟩

theorem ask_handle_ensures {selector : String} (shown : 0 < counts selector) :
    (scenario.ask { page := live, selector, index := some 0 } .handle).Ensures
      (Scene.Rests live holds) ⟨fun _ => True, fun _ => False⟩ := by
  rintro scene ⟨held, rests⟩
  obtain ⟨handle, after, performed, kept⟩ := still.handled selector scene.world rests shown
  simp only [ask, call, performed]
  exact ⟨⟨held, kept⟩, trivial⟩

theorem hasMatch_ensures (row : Option Row) (candidate : Candidate) :
    (scenario.hasMatch (scenario.leadOf live row candidate).target).Ensures
      (Scene.Rests live holds)
      ⟨fun found => found = scenario.shows row counts candidate, fun _ => False⟩ := by
  refine ensures_bind (ask_count_ensures still _) ?_
  rintro _ rfl
  exact ensures_pure rfl

theorem rests_slept (span : T) (scene : Scene W) (rests : scene.Rests live holds) :
    (scenario.clock.sleep span scene).Rests live holds :=
  ⟨rests.1, still.slept span scene.world rests.2⟩

theorem isLive_of_rests (rests : scene.Rests live holds) : scenario.IsLive scene live :=
  ⟨rests.1, still.opened scene.world rests.2⟩

variable [Scale T]

theorem awaitLead_ensures (element : String) (row : Option Row) (timeout : T)
    (candidate : Candidate) :
    (scenario.awaitLead element timeout (scenario.leadOf live row candidate)).Ensures
      (Scene.Rests live holds)
      ⟨fun _ => scenario.shows row counts candidate = true,
        fun failure => scenario.shows row counts candidate = false ∧
          failure.kind? = some .waitTimeout⟩ := by
  have polled : ((scenario.leadPolling element timeout (scenario.leadOf live row candidate)).test
      scenario.clock scenario.fuel (scenario.hasMatch (scenario.leadOf live row candidate).target)
      ).Ensures (Scene.Rests live holds) _ :=
    Polling.test_ensures (rests_slept still) (hasMatch_ensures still row candidate) scenario.fuel
  refine ensures_bind (polled.mono (fun _ shown => shown.symm) ?_) fun _ shown => ?_
  · rintro failure ⟨hidden, rfl⟩
    exact ⟨hidden.symm, rfl⟩
  · -- Only what was seen to be there is asked for a handle.
    exact (ask_handle_ensures still (of_decide_eq_true shown)).mono (fun _ _ => shown) nofun

/-! ## All candidates -/

theorem tryLeads_ensures (page element : String) (row : Option Row) (timeout : T)
    (noted : List (String × String)) (candidates : List Candidate) :
    (scenario.tryLeads page element timeout noted
        (candidates.map (scenario.leadOf live row))).Ensures (Scene.Rests live holds)
      (scenario.findsFirst page element row counts candidates) := by
  induction candidates generalizing noted with
  | nil => exact ensures_throw ⟨rfl, noted, rfl⟩
  | cons candidate rest ih =>
    have awaits := awaitLead_ensures still element row timeout candidate
    refine ensures_bind (ensures_attempt awaits _) fun tried met => ?_
    cases tried with
    | ok handle =>
      intro scene rests
      exact ⟨rests, List.find?_cons_of_pos met, rfl⟩
    | error failure =>
      obtain ⟨hidden, kind⟩ := met
      have goesOn : ¬ (failure.kind? == some FailureKind.sessionUnreachable) = true := by
        simp [kind]
      simp only [goesOn]
      refine (ih _).mono ?_ ?_ <;> simp [findsFirst, hidden]

omit [Scale T] in
theorem firstCount_counts (row : Option Row) (candidates : List Candidate)
    (rests : scene.Rests live holds) :
    (scenario.firstCount (candidates.map (scenario.leadOf live row)) scene).1 =
      .ok (scenario.countIn row counts candidates) := by
  induction candidates generalizing scene with
  | nil => rfl
  | cons candidate rest ih =>
    obtain ⟨after, asked, kept⟩ := ask_counts still (scenario.selectorOf row candidate) rests
    have asked : scenario.ask (scenario.leadOf live row candidate).target .count scene = _ := asked
    rw [List.map_cons, firstCount, bind_run, asked]
    cases hidden : counts (scenario.selectorOf row candidate) with
    | zero =>
      have next : scenario.countIn row counts (candidate :: rest) =
          scenario.countIn row counts rest := by simp [countIn, shows, hidden]
      rw [next]
      exact ih kept
    | succ count =>
      have here : scenario.countIn row counts (candidate :: rest) = count + 1 := by
        simp [countIn, shows, hidden]
      rw [here]
      rfl

omit [Scale T] in
theorem anyLead_ensures (row : Option Row)
    (listed : scenario.catalog.candidates page element = .ok candidates) :
    (scenario.anyLead page element row scenario.hasMatch).Ensures (Scene.Rests live holds)
      ⟨fun found => found = candidates.any (scenario.shows row counts), fun _ => False⟩ := by
  intro scene rests
  rw [anyLead, bind_run, leads_of_live (isLive_of_rests still rests) listed]
  dsimp only
  rw [anyOf_map]
  exact anyOf_ensures (fun candidate => hasMatch_ensures still row candidate) candidates scene rests

omit still in
theorem await_present (scenario : Scenario W T) (row : Option Row) (waits : header.wait = some wait)
    (present : wait.condition = .present) :
    ∃ awaited, scenario.await header row =
      (scenario.polling .waitTimeout (scenario.effectiveTimeout header) awaited).test
        scenario.clock scenario.fuel
        (scenario.anyLead (header.page.getD "") (header.element.getD "") row
          scenario.hasMatch) := by
  simp only [await, waits, present, testOf]
  exact ⟨_, rfl⟩

theorem await_ensures (row : Option Row)
    (listed : scenario.catalog.candidates (header.page.getD "") (header.element.getD "") =
      .ok candidates)
    (waits : header.wait = some wait) (present : wait.condition = .present) :
    (scenario.await header row).Ensures (Scene.Rests live holds)
      (scenario.seesAny row counts candidates) := by
  obtain ⟨awaited, polls⟩ := await_present scenario row waits present
  rw [polls]
  refine (Polling.test_ensures (rests_slept still) (anyLead_ensures still row listed) _).mono
    (fun _ shown => shown.symm) ?_
  rintro failure ⟨hidden, rfl⟩
  exact ⟨hidden.symm, rfl⟩

/-! ## All three -/

/-- Finding an element, counting its matches and waiting for it have the same answer: the first
candidate that has any match, or that none has. -/
structure Agrees (scenario : Scenario W T) (page element : String) (row : Option Row)
    (counts : String -> Nat) (candidates : List Candidate) (resolved : Outcome Resolved)
    (counted : Outcome Nat) (waited : Outcome Unit) : Prop where
  answered : ∃ count, counted = .ok count
  resolves : (∃ found, resolved = .ok found) ↔ ∃ count, counted = .ok count ∧ 0 < count
  waits : waited = .ok () ↔ ∃ count, counted = .ok count ∧ 0 < count
  chosen : ∀ found, resolved = .ok found → found.candidate ∈ candidates ∧
    found.selector = scenario.selectorOf row found.candidate ∧
    counted = .ok (counts found.selector)
  absent : (¬ ∃ found, resolved = .ok found) → counted = .ok 0 ∧
    (∃ attempts, resolved = .failed (.notFound page element attempts)) ∧
    ∃ failure, waited = .failed failure ∧ failure.kind? = some .waitTimeout

omit [Scale T] in
theorem countMatches_counts (row : Option Row) (rests : scene.Rests live holds)
    (listed : scenario.catalog.candidates page element = .ok candidates) :
    (scenario.countMatches page element row scene).1 =
      .ok (scenario.countIn row counts candidates) := by
  rw [countMatches, bind_run, leads_of_live (isLive_of_rests still rests) listed]
  exact firstCount_counts still row candidates rests

theorem resolve_finds (row : Option Row) (timeout : T) (rests : scene.Rests live holds)
    (listed : scenario.catalog.candidates page element = .ok candidates)
    (uncached : scene.handles.get? page element = none) :
    (scenario.resolve page element row timeout scene).1.Meets
      (scenario.findsFirst page element row counts candidates) := by
  have seeks : scenario.Seeks page element live candidates scene :=
    ⟨isLive_of_rests still rests, listed, uncached⟩
  rw [seeks.run]
  exact (tryLeads_ensures still page element row timeout [] candidates scene rests).2

omit still

section

variable {resolved : Outcome Resolved} {waited : Outcome Unit}
  (found : resolved.Meets (scenario.findsFirst page element row counts candidates))
  (awaited : waited.Meets (scenario.seesAny row counts candidates))
  (finds : resolved ≠ .stalled) (waits : waited ≠ .stalled)

include found awaited finds waits

omit [Scale T] in
theorem agrees_of_none (hidden : candidates.find? (scenario.shows row counts) = none) :
    scenario.Agrees page element row counts candidates resolved
      (.ok (scenario.countIn row counts candidates)) waited := by
  have each : ∀ candidate ∈ candidates, ¬ scenario.shows row counts candidate = true :=
    List.find?_eq_none.mp hidden
  have zero : scenario.countIn row counts candidates = 0 := by simp [countIn, hidden]
  have none : candidates.any (scenario.shows row counts) = false := by simpa using each
  obtain ⟨attempts, rfl⟩ : ∃ attempts, resolved = .failed (.notFound page element attempts) := by
    cases resolved with
    | ok value => cases hidden.symm.trans found.1
    | failed failure =>
      obtain ⟨-, attempts, rfl⟩ := found
      exact ⟨attempts, rfl⟩
    | stalled => exact absurd rfl finds
  obtain ⟨failure, rfl, kind⟩ : ∃ failure, waited = .failed failure ∧
      failure.kind? = some .waitTimeout := by
    cases waited with
    | ok value => cases none.symm.trans awaited
    | failed failure => exact ⟨failure, rfl, awaited.2⟩
    | stalled => exact absurd rfl waits
  rw [zero]
  exact ⟨⟨0, rfl⟩, by simp, by simp, by simp, fun _ => ⟨rfl, ⟨attempts, rfl⟩, failure, rfl, kind⟩⟩

omit [Scale T] in
theorem agrees_of_some {chosen : Candidate}
    (hit : candidates.find? (scenario.shows row counts) = some chosen) :
    scenario.Agrees page element row counts candidates resolved
      (.ok (scenario.countIn row counts candidates)) waited := by
  have shown := List.find?_some hit
  have positive : 0 < counts (scenario.selectorOf row chosen) := of_decide_eq_true shown
  have count : scenario.countIn row counts candidates =
      counts (scenario.selectorOf row chosen) := by simp [countIn, hit]
  have some : candidates.any (scenario.shows row counts) = true :=
    List.any_eq_true.mpr ⟨chosen, List.mem_of_find?_eq_some hit, shown⟩
  obtain ⟨value, rfl, rfl, selector⟩ : ∃ value, resolved = .ok value ∧
      value.candidate = chosen ∧ value.selector = scenario.selectorOf row value.candidate := by
    cases resolved with
    | ok value => exact ⟨value, rfl, Option.some.inj (found.1.symm.trans hit), found.2⟩
    | failed failure => cases hit.symm.trans found.1
    | stalled => exact absurd rfl finds
  obtain rfl : waited = .ok () := by
    cases waited with
    | ok value => rfl
    | failed failure => cases some.symm.trans awaited.1
    | stalled => exact absurd rfl waits
  rw [count, ← selector]
  refine ⟨⟨_, rfl⟩, by simp [selector, positive], by simp [selector, positive], ?_, ?_⟩
  · rintro _ ⟨⟩
    exact ⟨List.mem_of_find?_eq_some hit, selector, rfl⟩
  · exact fun none => absurd ⟨value, rfl⟩ none

end

/-- A record waits for an element to be there that is looked for anew, on a page that does not
change. -/
structure Anticipates (scenario : Scenario W T) (live : PageId) (counts : String -> Nat)
    (holds : W -> Prop) (header : Header) (candidates : List Candidate) (scene : Scene W) :
    Prop where
  still : scenario.Still live counts holds
  rests : scene.Rests live holds
  listed : scenario.catalog.candidates (header.page.getD "") (header.element.getD "") =
    .ok candidates
  uncached : scene.handles.get? (header.page.getD "") (header.element.getD "") = none
  waits : ∃ wait, header.wait = some wait ∧ wait.condition = .present

theorem Anticipates.agrees
    (anticipates : scenario.Anticipates live counts holds header candidates scene)
    (row : Option Row) (timeout : T)
    (found : (scenario.resolve (header.page.getD "") (header.element.getD "") row timeout
      scene).1 ≠ .stalled)
    (waited : (scenario.await header row scene).1 ≠ .stalled) :
    scenario.Agrees (header.page.getD "") (header.element.getD "") row counts candidates
      (scenario.resolve (header.page.getD "") (header.element.getD "") row timeout scene).1
      (scenario.countMatches (header.page.getD "") (header.element.getD "") row scene).1
      (scenario.await header row scene).1 := by
  obtain ⟨still, rests, listed, uncached, wait, waits, present⟩ := anticipates
  have resolves := resolve_finds still row timeout rests listed uncached
  have awaits := (await_ensures still row listed waits present scene rests).2
  rw [countMatches_counts still row rests listed]
  cases hit : candidates.find? (scenario.shows row counts) with
  | none => exact agrees_of_none resolves awaits found waited hit
  | some chosen => exact agrees_of_some resolves awaits found waited hit

end

/-! ## Time -/

section

variable {W : Type} {scenario : Scenario W Rat}

/-- An activity that comes to an end and never moves the clock back. -/
def Onward {A : Type} (scenario : Scenario W Rat) (activity : Activity (Scene W) A) : Prop :=
  ∀ scene, (activity scene).1 ≠ .stalled ∧
    scenario.clock.now scene ≤ scenario.clock.now (activity scene).2

theorem onward_pure {A : Type} (value : A) :
    scenario.Onward (pure value : Activity (Scene W) A) :=
  fun _ => ⟨nofun, le_refl _⟩

theorem onward_bind {A B : Type} {first : Activity (Scene W) A}
    {next : A -> Activity (Scene W) B} (before : scenario.Onward first)
    (each : ∀ value, scenario.Onward (next value)) : scenario.Onward (first >>= next) := by
  intro scene
  obtain ⟨ended, forward⟩ := before scene
  rw [bind_run]
  rcases ran : first scene with ⟨value | failure | _, between⟩ <;> rw [ran] at ended forward
  · exact ⟨(each value between).1, forward.trans (each value between).2⟩
  · exact ⟨nofun, forward⟩
  · exact absurd rfl ended

theorem anyOf_onward {A : Type} {test : A -> Activity (Scene W) Bool}
    (tests : ∀ item, scenario.Onward (test item)) (items : List A) :
    scenario.Onward (anyOf test items) := by
  induction items with
  | nil => exact onward_pure false
  | cons item rest ih =>
    refine onward_bind (tests item) fun found => ?_
    cases found with
    | false => exact ih
    | true => exact onward_pure true

theorem leads_onward (page element : String) (row : Option Row) :
    scenario.Onward (scenario.leads page element row) := by
  intro scene
  rcases scenario.leads_run page element row scene with ⟨leads, ran⟩ | ⟨failure, ran⟩ <;> rw [ran]
  · exact ⟨nofun, le_refl _⟩
  · exact ⟨nofun, le_refl _⟩

theorem anyLead_onward {test : Target -> Activity (Scene W) Bool}
    (tests : ∀ target, scenario.Onward (test target)) (page element : String)
    (row : Option Row) : scenario.Onward (scenario.anyLead page element row test) :=
  onward_bind (leads_onward page element row) fun _ =>
    anyOf_onward (fun (lead : Lead) => tests lead.target) _

variable (timed : scenario.KeepsTime)

include timed

theorem await_ends (spaced : 0 < scenario.pollInterval) {header : Header} {wait : Wait}
    (enough : scenario.pollLimit (scenario.effectiveTimeout header) ≤ scenario.fuel)
    (row : Option Row) (waits : header.wait = some wait) (present : wait.condition = .present)
    (scene : Scene W) : (scenario.await header row scene).1 ≠ .stalled := by
  obtain ⟨awaited, polls⟩ := await_present scenario row waits present
  rw [polls, Polling.test_eq_run]
  have probes := Polling.keepsTime_probing timed.clock_sleeps
    (anyLead_onward timed.hasMatch (header.page.getD "") (header.element.getD "") row)
  exact Polling.run_not_stalled probes (fun _ => spaced)
    ((scenario.limit_polling ..).trans_le enough) scene

end

/-! ## Elements that are looked for anew -/

/-- On a page that does not change, whoever comes to an end gives the same answer; in exact time
all three do. -/
theorem discoveries_agree :
    (∀ {W T : Type} [Scale T] {scenario : Scenario W T} {live : PageId} {counts : String -> Nat}
        {holds : W -> Prop} {header : Header} {candidates : List Candidate} {scene : Scene W}
        {row : Option Row} {timeout : T},
      scenario.Anticipates live counts holds header candidates scene →
      (scenario.resolve (header.page.getD "") (header.element.getD "") row timeout
        scene).1 ≠ .stalled →
      (scenario.await header row scene).1 ≠ .stalled →
      scenario.Agrees (header.page.getD "") (header.element.getD "") row counts candidates
        (scenario.resolve (header.page.getD "") (header.element.getD "") row timeout scene).1
        (scenario.countMatches (header.page.getD "") (header.element.getD "") row scene).1
        (scenario.await header row scene).1) ∧
    ∀ {W : Type} {scenario : Scenario W Rat} {live : PageId} {counts : String -> Nat}
        {holds : W -> Prop} {header : Header} {candidates : List Candidate} {scene : Scene W}
        {row : Option Row} {timeout : Rat},
      scenario.Anticipates live counts holds header candidates scene →
      scenario.KeepsTime → 0 < scenario.pollInterval →
      scenario.pollLimit timeout ≤ scenario.fuel →
      scenario.pollLimit (scenario.effectiveTimeout header) ≤ scenario.fuel →
      scenario.Agrees (header.page.getD "") (header.element.getD "") row counts candidates
        (scenario.resolve (header.page.getD "") (header.element.getD "") row timeout scene).1
        (scenario.countMatches (header.page.getD "") (header.element.getD "") row scene).1
        (scenario.await header row scene).1 := by
  refine ⟨fun anticipates found waited => anticipates.agrees _ _ found waited, ?_⟩
  intro W scenario live counts holds header candidates scene row timeout anticipates timed spaced
    enough room
  have seeks : scenario.Seeks (header.page.getD "") (header.element.getD "") live candidates
      scene :=
    ⟨isLive_of_rests anticipates.still anticipates.rests, anticipates.listed,
      anticipates.uncached⟩
  obtain ⟨wait, waits, present⟩ := anticipates.waits
  refine anticipates.agrees row timeout ?_ (await_ends timed spaced room row waits present scene)
  rw [seeks.run]
  exact tryLeads_ends timed spaced enough _ _ _

def presence : Header :=
  { index := 1, page := some "login", element := some "user"
    wait := some { condition := .present, timeout := none }, timeout := none }

theorem secondMatches_waitLimit :
    secondMatches.pollLimit (secondMatches.effectiveTimeout presence) ≤ secondMatches.fuel := by
  have waiting : secondMatches.effectiveTimeout presence = 0 := by decide +kernel
  have none : ⌈(max 0 0 / 1 : Rat)⌉₊ = 0 := by norm_num
  rw [waiting, pollLimit, secondMatches_pollInterval, none]
  exact one_le_two

theorem discoveries_agree_on_second :
    ∃ candidates, candidates.length = 2 ∧
      secondMatches.Agrees "login" "user" none secondCounts candidates
        (secondMatches.resolve "login" "user" none 1 secondMatchesOpen).1
        (secondMatches.countMatches "login" "user" none secondMatchesOpen).1
        (secondMatches.await presence none secondMatchesOpen).1 ∧
      (secondMatches.countMatches "login" "user" none secondMatchesOpen).1 = .ok 2 := by
  have still : secondMatches.Still ⟨0⟩ secondCounts fun _ => True :=
    { opened := fun _ _ => rfl
      counted := fun _ _ _ => ⟨_, rfl, trivial⟩
      handled := fun _ _ _ _ => ⟨_, _, rfl, trivial⟩
      slept := fun _ _ _ => trivial }
  have anticipates : secondMatches.Anticipates ⟨0⟩ secondCounts (fun _ => True) presence _
      secondMatchesOpen :=
    ⟨still, ⟨rfl, trivial⟩, rfl, rfl, _, rfl, rfl⟩
  have spaced : 0 < secondMatches.pollInterval := secondMatches_pollInterval ▸ one_pos
  have counted := countMatches_counts still none anticipates.rests anticipates.listed
  exact ⟨_, rfl, discoveries_agree.2 anticipates secondMatches_keepsTime spaced
    secondMatches_pollLimit.le secondMatches_waitLimit,
    counted.trans (congrArg Outcome.ok (by decide +kernel))⟩

end Scenario

end Rehearsal
