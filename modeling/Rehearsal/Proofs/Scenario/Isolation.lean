import Rehearsal.Proofs.Scenario.Raising
import Rehearsal.Proofs.Scenario.Steadiness

/-!
Candidates whose matches cannot be counted, such as those with a selector that a browser does not
understand. Finding an element passes over them as if they had no match; counting and waiting
break off at the first one that they come to.
-/

set_option autoImplicit false

namespace Rehearsal

open Activity

/-- An error of the browser that does not say that the session is lost. -/
def Failure.IsGlitch (failure : Failure) : Prop :=
  ∃ fault, failure = .fault fault ∧ Failure.saysLost fault.message = false

theorem Failure.IsGlitch.live {failure : Failure} (glitch : failure.IsGlitch) :
    failure.isSessionLost = false := by
  obtain ⟨fault, rfl, live⟩ := glitch
  exact live

theorem Failure.name_of_kind {failure : Failure} {kind : FailureKind}
    (known : failure.kind? = some kind) : failure.name = kind.name := by
  unfold name
  rw [known]

/-- Failures that say the same, whatever either of them rests on. -/
def Failure.Resembles (failure other : Failure) : Prop :=
  failure.name = other.name ∧ failure.code? = other.code? ∧ failure.message = other.message ∧
    failure.details = other.details

def Outcome.Resembles {A : Type} : Outcome A -> Outcome A -> Prop
  | .ok value, .ok other => value = other
  | .failed failure, .failed other => failure.Resembles other
  | .stalled, .stalled => True
  | _, _ => False

theorem Outcome.Resembles.refl {A : Type} (outcome : Outcome A) : outcome.Resembles outcome := by
  cases outcome with
  | ok value => rfl
  | failed failure => exact ⟨rfl, rfl, rfl, rfl⟩
  | stalled => trivial

def Outcome.timesOut {A : Type} : Outcome A -> Bool
  | .failed failure => failure.kind? == some .waitTimeout
  | .ok _ | .stalled => false

/-! ## Searches -/

section

variable {A B : Type} [DecidableEq B] {nothing : B} {look mended : A -> Except Failure B}
  {broken : A -> Bool} {items : List A}

/-- A broken item among others, all before which come to nothing. -/
inductive Strikes (nothing : B) (look : A -> Except Failure B) (broken : A -> Bool) :
    List A -> Prop where
  | here {item : A} {rest : List A} (found : broken item = true) :
      Strikes nothing look broken (item :: rest)
  | later {item : A} {rest : List A} (vain : look item = .ok nothing)
      (strikes : Strikes nothing look broken rest) : Strikes nothing look broken (item :: rest)

theorem Strikes.breaks (strikes : Strikes nothing look broken items)
    (glitches : ∀ item, broken item = true → ∃ failure, look item = .error failure ∧
      failure.IsGlitch) :
    ∃ failure, firstOf nothing look items = .error failure ∧ failure.IsGlitch := by
  induction strikes with
  | here found =>
    obtain ⟨failure, looked, glitch⟩ := glitches _ found
    exact ⟨failure, by rw [firstOf, looked]; rfl, glitch⟩
  | later vain _ ih =>
    obtain ⟨failure, broke, glitch⟩ := ih
    refine ⟨failure, ?_, glitch⟩
    rw [firstOf, vain]
    simpa [bind, Except.bind] using broke

theorem firstOf_mended
    (mends : ∀ item, mended item = if broken item then .ok nothing else look item)
    (clear : ¬ Strikes nothing look broken items) :
    firstOf nothing mended items = firstOf nothing look items := by
  induction items with
  | nil => rfl
  | cons item rest ih =>
    have sound : ¬ broken item = true := fun found => clear (.here found)
    rw [firstOf, firstOf, mends, if_neg sound]
    cases seen : look item with
    | error failure => rfl
    | ok value =>
      by_cases vain : value = nothing
      · subst vain
        simpa [bind, Except.bind] using ih fun strikes => clear (.later seen strikes)
      · simp [bind, Except.bind, vain]

theorem firstOf_error {failure : Failure} (failed : firstOf nothing look items = .error failure) :
    ∃ item, look item = .error failure := by
  induction items with
  | nil => cases failed
  | cons item rest ih =>
    rw [firstOf] at failed
    cases seen : look item with
    | error met =>
      rw [seen] at failed
      cases failed
      exact ⟨item, seen⟩
    | ok value =>
      rw [seen] at failed
      simp only [bind, Except.bind] at failed
      split at failed
      · exact ih failed
      · cases failed

end

/-! ## Pages with and without what cannot be counted -/

namespace PageView

/-- The matches of a selector cannot be counted, and that is no loss of the session. -/
def isBroken (view : PageView) (selector : String) : Bool :=
  match view selector none .count with
  | .ok _ => false
  | .error fault => !Failure.saysLost fault.message

/-- The same page, with no match of what cannot be counted. -/
def mended (view : PageView) : PageView
  | selector, none, .count =>
    if view.isBroken selector then .ok 0 else view selector none .count
  | selector, index, asked => view selector index asked

variable {view : PageView} {selector : String}

theorem isBroken_iff : view.isBroken selector = true ↔
    ∃ failure, view.count selector = .error failure ∧ failure.IsGlitch := by
  cases answered : view selector none .count <;>
    simp [isBroken, count, ask, Failure.lift, Except.mapError, Failure.IsGlitch, answered]

theorem count_mended (view : PageView) (selector : String) :
    view.mended.count selector =
      if view.isBroken selector then .ok 0 else view.count selector := by
  cases broken : view.isBroken selector <;> simp [count, ask, mended, broken, Failure.lift,
    Except.mapError]

end PageView

namespace Scenario

namespace Sign

variable {fill : String -> String} {view : PageView} {selector : String}

theorem among_none (sign : Sign) : sign.among fill view selector 0 = .ok false := by
  cases sign <;> rfl

theorem among_mended (sign : Sign) :
    sign.among fill view.mended selector = sign.among fill view selector := by
  cases sign <;> rfl

theorem look_broken (sign : Sign) (broken : view.isBroken selector = true) :
    ∃ failure, sign.look fill view selector = .error failure ∧ failure.IsGlitch := by
  obtain ⟨failure, counted, glitch⟩ := PageView.isBroken_iff.mp broken
  exact ⟨failure, by rw [look, counted]; rfl, glitch⟩

theorem look_mended (sign : Sign) :
    sign.look fill view.mended selector =
      if view.isBroken selector then .ok false else sign.look fill view selector := by
  rw [look, PageView.count_mended, among_mended]
  split
  · exact sign.among_none
  · rfl

end Sign

section

variable {W T : Type}

def inWorld (scenario : Scenario W T) (world : World W T) : Scenario W T := { scenario with world }

def isBroken (scenario : Scenario W T) (row : Option Row) (view : PageView)
    (candidate : Candidate) : Bool :=
  view.isBroken (scenario.selectorOf row candidate)

variable {scenario : Scenario W T} {live : PageId} {view : PageView} {found : Nat}
  {holds : W -> Prop} {page element : String} {row : Option Row} {candidates : List Candidate}
  {scene : Scene W} {header : Header} {sign : Sign} [Scale T]

/-! ## Finding -/

/-- How a search goes on after a candidate. -/
def goesOn (scenario : Scenario W T) (page element : String) (timeout : T)
    (noted : List (String × String)) (lead : Lead) (rest : List Lead) :
    Except Failure (Option Handle) -> Activity (Scene W) Resolved
  | .ok handle => scenario.keep page element lead handle noted.length
  | .error failure =>
    if failure.kind? == some .sessionUnreachable then throw failure
    else scenario.tryLeads page element timeout (noted ++ [(lead.selector, failure.message)]) rest

theorem settled_glitch (polling : Polling T) {failure : Failure} (glitch : failure.IsGlitch) :
    polling.settled none (.error failure) = .error (polling.timeoutFailure (some failure)) := by
  simp [Polling.settled, glitch.live]

/-- A candidate that is broken is polled for in vain, as one without a match is. -/
theorem awaited_mended (scenario : Scenario W T) (view : PageView) (row : Option Row)
    (candidate : Candidate) (polling : Polling T) :
    scenario.awaited row view.mended candidate polling =
        scenario.awaited row view candidate polling ∨
      ∃ failure,
        scenario.awaited row view candidate polling =
          .error (polling.timeoutFailure (some failure)) ∧
        scenario.awaited row view.mended candidate polling =
          .error (polling.timeoutFailure none) := by
  simp only [awaited, signOf, Sign.look_mended]
  split
  next broken =>
    obtain ⟨failure, looked, glitch⟩ := Sign.look_broken .present broken
    exact .inr ⟨failure, by rw [looked, settled_glitch polling glitch]; rfl, rfl⟩
  next => exact .inl rfl

theorem tryLeads_settled {required : Scene W -> Prop} {lead : Lead}
    {result : Except Failure (Option Handle)} {timeout : T} {noted : List (String × String)}
    {rest : List Lead} (awaits : (scenario.awaitLead element timeout lead).Settles required result)
    (given : required scene)
    (ended : (scenario.tryLeads page element timeout noted (lead :: rest) scene).1 ≠ .stalled) :
    ∃ after, required after ∧
      scenario.tryLeads page element timeout noted (lead :: rest) scene =
        scenario.goesOn page element timeout noted lead rest result after := by
  rw [tryLeads, bind_run, attempt_run] at ended ⊢
  rcases ran : scenario.awaitLead element timeout lead scene with ⟨handle | failure | _, after⟩
  · obtain ⟨kept, rfl⟩ := awaits.of_run given ran
    exact ⟨after, kept, rfl⟩
  · obtain ⟨kept, rfl⟩ := awaits.of_run given ran
    exact ⟨after, kept, rfl⟩
  · rw [ran] at ended
    exact absurd rfl ended

variable {other : World W T}

/-- Two searches that went on from the same result, and agree on what is left, agree. -/
theorem goesOn_same {timeout : T} {noted : List (String × String)} {lead : Lead}
    {rest : List Lead} {result : Except Failure (Option Handle)} {first second : Scene W}
    (alike : first.resolutions = second.resolutions)
    (agree : ∀ noted, (scenario.tryLeads page element timeout noted rest first).1 ≠ .stalled →
      ((scenario.inWorld other).tryLeads page element timeout noted rest second).1 ≠ .stalled →
      ((scenario.inWorld other).tryLeads page element timeout noted rest second).1 =
        (scenario.tryLeads page element timeout noted rest first).1)
    (ended : (scenario.goesOn page element timeout noted lead rest result first).1 ≠ .stalled)
    (halted : ((scenario.inWorld other).goesOn page element timeout noted lead rest result
      second).1 ≠ .stalled) :
    ((scenario.inWorld other).goesOn page element timeout noted lead rest result second).1 =
      (scenario.goesOn page element timeout noted lead rest result first).1 := by
  cases result with
  | ok handle => simp only [goesOn, keep, alike]
  | error failure =>
    cases unreachable : failure.kind? == some FailureKind.sessionUnreachable with
    | true => simp [goesOn, unreachable]
    | false =>
      simp only [goesOn, unreachable, Bool.false_eq_true, if_false] at ended halted ⊢
      exact agree _ ended halted

variable (steady : scenario.world.Steady live view holds)
  (mended : other.Steady live view.mended holds)

include steady mended

theorem tryLeads_mended (timeout : T) (noted : List (String × String))
    (candidates : List Candidate) {first second : Scene W}
    (stays : first.Stays live found holds) (stands : second.Stays live found holds)
    (ended : (scenario.tryLeads page element timeout noted
      (candidates.map (scenario.leadOf live row)) first).1 ≠ .stalled)
    (halted : ((scenario.inWorld other).tryLeads page element timeout noted
      (candidates.map (scenario.leadOf live row)) second).1 ≠ .stalled) :
    ((scenario.inWorld other).tryLeads page element timeout noted
        (candidates.map (scenario.leadOf live row)) second).1 =
      (scenario.tryLeads page element timeout noted
        (candidates.map (scenario.leadOf live row)) first).1 := by
  -- The worlds part at a broken candidate, so the two searches go on from scenes of their own.
  induction candidates generalizing noted first second with
  | nil => rfl
  | cons candidate rest ih =>
    have awaits : ((scenario.inWorld other).awaitLead element timeout
        (scenario.leadOf live row candidate)).Settles (Scene.Stays live found holds)
        (scenario.awaited row view.mended candidate
          (scenario.leadPolling element timeout (scenario.leadOf live row candidate))) :=
      awaitLead_settles mended element timeout row candidate
    obtain ⟨after, kept, ran⟩ := tryLeads_settled
      (awaitLead_settles steady element timeout row candidate) stays ended
    obtain ⟨beyond, held, went⟩ := tryLeads_settled awaits stands halted
    rw [List.map_cons] at ended halted ⊢
    rw [ran] at ended ⊢
    rw [went] at halted ⊢
    rcases awaited_mended scenario view row candidate
      (scenario.leadPolling element timeout (scenario.leadOf live row candidate)) with
      same | ⟨failure, glitched, vain⟩
    · rw [same] at halted ⊢
      exact goesOn_same (kept.2.trans held.2.symm) (fun _ => ih _ kept held) ended halted
    · -- Either failure is noted by its message, which says nothing of its cause.
      rw [glitched] at ended ⊢
      rw [vain] at halted ⊢
      exact ih _ kept held ended halted

theorem resolve_mended (row : Option Row) (timeout : T)
    (listed : scenario.catalog.candidates page element = .ok candidates)
    (stays : scene.Stays live found holds)
    (ended : (scenario.resolve page element row timeout scene).1 ≠ .stalled)
    (halted : ((scenario.inWorld other).resolve page element row timeout scene).1 ≠ .stalled) :
    ((scenario.inWorld other).resolve page element row timeout scene).1 =
      (scenario.resolve page element row timeout scene).1 := by
  cases cached : scene.handles.get? page element with
  | some resolved => simp only [resolve, bind_run, look_run, cached, pure_run]
  | none =>
    have seeks : scenario.Seeks page element live candidates scene :=
      ⟨isLive_of_stays steady stays, listed, cached⟩
    have looks : (scenario.inWorld other).Seeks page element live candidates scene :=
      ⟨isLive_of_stays mended stays, listed, cached⟩
    rw [seeks.run] at ended ⊢
    rw [looks.run] at halted ⊢
    exact tryLeads_mended steady mended timeout [] candidates stays stays ended halted

omit steady mended

/-! ## Counting -/

omit [Scale T] in
theorem firstCount_ends (scenario : Scenario W T) (leads : List Lead) :
    (scenario.firstCount leads).Ends fun _ => True := by
  induction leads with
  | nil => exact ends_pure 0
  | cons lead rest ih =>
    refine ends_bind ((scenario.call_ends _).mono fun _ _ => trivial) fun (count : Nat) => ?_
    cases count with
    | zero => exact ih
    | succ count => exact ends_pure (count + 1)

omit [Scale T] in
theorem countMatches_outcome (row : Option Row) (steady : scenario.world.Steady live view holds)
    (stays : scene.Stays live found holds)
    (listed : scenario.catalog.candidates page element = .ok candidates) :
    (scenario.countMatches page element row scene).1 =
      .ofExcept (firstOf 0 (scenario.counts row view) candidates) := by
  refine (countMatches_settles steady row listed).outcome stays ?_
  rw [countMatches, bind_run, leads_of_live (isLive_of_stays steady stays) listed]
  exact (scenario.firstCount_ends _ scene).1

omit [Scale T] in
theorem counts_mended (scenario : Scenario W T) (row : Option Row) (view : PageView)
    (candidate : Candidate) :
    scenario.counts row view.mended candidate =
      if scenario.isBroken row view candidate then .ok 0 else scenario.counts row view candidate :=
  view.count_mended _

/-- The candidates are counted up to one that cannot be. -/
def StopsCount (scenario : Scenario W T) (row : Option Row) (view : PageView)
    (candidates : List Candidate) : Prop :=
  Strikes 0 (scenario.counts row view) (scenario.isBroken row view) candidates

omit [Scale T] in
theorem StopsCount.breaks (stops : scenario.StopsCount row view candidates) :
    ∃ failure, firstOf 0 (scenario.counts row view) candidates = .error failure ∧
      failure.IsGlitch :=
  Strikes.breaks stops fun _ broken => PageView.isBroken_iff.mp broken

omit [Scale T] in
theorem counts_same_iff : firstOf 0 (scenario.counts row view) candidates =
      firstOf 0 (scenario.counts row view.mended) candidates ↔
    ¬ scenario.StopsCount row view candidates := by
  by_cases stops : scenario.StopsCount row view candidates
  · refine iff_of_false (fun same => ?_) (not_not_intro stops)
    obtain ⟨failure, broke, glitch⟩ := stops.breaks
    obtain ⟨candidate, met⟩ := firstOf_error (same.symm.trans broke)
    -- On the mended page no count meets an error of that kind.
    rw [counts_mended] at met
    split at met
    next => cases met
    next sound => exact sound (PageView.isBroken_iff.mpr ⟨failure, met, glitch⟩)
  · exact iff_of_true (firstOf_mended (counts_mended scenario row view) stops).symm stops

/-! ## Waiting -/

/-- The candidates are looked at for a sign up to one that cannot be. -/
def StopsWait (scenario : Scenario W T) (row : Option Row) (view : PageView) (sign : Sign)
    (candidates : List Candidate) : Prop :=
  Strikes false (scenario.signOf row view sign) (scenario.isBroken row view) candidates

/-- Polling in vain says the same whatever came in its way, and something else than polling that
was not in vain. -/
theorem resembles_settled {polling : Polling T} (kind : polling.kind = .waitTimeout)
    (cause : Option Failure) (result : Except Failure Bool) :
    (Outcome.failed (polling.timeoutFailure cause)).Resembles
        (.ofExcept (polling.settled none result)) ↔
      (Outcome.ofExcept (polling.settled none result)).timesOut = true := by
  have expires : ∀ last, (polling.timeoutFailure last).kind? = some .waitTimeout :=
    fun last => congrArg some kind
  rcases result with failure | (_ | _)
  · cases lost : failure.isSessionLost with
    | false =>
      have vain : polling.settled none (.error failure) =
          .error (polling.timeoutFailure (some failure)) := by simp [Polling.settled, lost]
      rw [vain]
      exact iff_of_true ⟨rfl, rfl, rfl, rfl⟩ (beq_iff_eq.mpr (expires _))
    | true =>
      have found : polling.settled none (.error failure) =
          .error (Polling.asUnreachable failure) := by simp [Polling.settled, lost]
      have raised := Polling.kind_asUnreachable failure
      rw [found]
      refine iff_of_false ?_ ?_
      · rintro ⟨named, -⟩
        rw [Failure.name_of_kind (expires cause), Failure.name_of_kind raised] at named
        exact absurd named (by decide)
      · simp [Outcome.ofExcept, Outcome.timesOut, raised]
  · exact iff_of_true ⟨rfl, rfl, rfl, rfl⟩ (beq_iff_eq.mpr (expires _))
  · exact iff_of_false id Bool.false_ne_true

omit [Scale T] in
theorem signOf_mended (scenario : Scenario W T) (row : Option Row) (view : PageView)
    (sign : Sign) (candidate : Candidate) :
    scenario.signOf row view.mended sign candidate =
      if scenario.isBroken row view candidate then .ok false
      else scenario.signOf row view sign candidate :=
  sign.look_mended

theorem StopsWait.settled (stops : scenario.StopsWait row view sign candidates)
    (polling : Polling T) : ∃ failure,
      polling.settled none (firstOf false (scenario.signOf row view sign) candidates) =
        .error (polling.timeoutFailure (some failure)) := by
  obtain ⟨failure, broke, glitch⟩ := Strikes.breaks stops fun _ broken => sign.look_broken broken
  exact ⟨failure, by rw [broke, settled_glitch polling glitch]⟩

theorem waits_alike_iff {polling : Polling T} (kind : polling.kind = .waitTimeout) :
    (Outcome.ofExcept (polling.settled none
          (firstOf false (scenario.signOf row view sign) candidates))).Resembles
        (.ofExcept (polling.settled none
          (firstOf false (scenario.signOf row view.mended sign) candidates))) ↔
      (scenario.StopsWait row view sign candidates → (Outcome.ofExcept (polling.settled none
        (firstOf false (scenario.signOf row view.mended sign) candidates))).timesOut = true) := by
  by_cases stops : scenario.StopsWait row view sign candidates
  · obtain ⟨failure, expired⟩ := stops.settled polling
    rw [expired, Outcome.ofExcept, resembles_settled kind]
    exact ⟨fun late _ => late, fun late => late stops⟩
  · rw [firstOf_mended (signOf_mended scenario row view sign) stops]
    exact iff_of_true (.refl _) (absurd · stops)

/-! ## All three -/

structure Searched where
  resolved : Outcome Resolved
  counted : Outcome Nat
  waited : Outcome Unit

/-- An element is found, counted and waited for, each from the same scene. -/
def searched (scenario : Scenario W T) (header : Header) (row : Option Row) (timeout : T)
    (scene : Scene W) : Searched where
  resolved := (scenario.resolve (header.page.getD "") (header.element.getD "") row timeout scene).1
  counted := (scenario.countMatches (header.page.getD "") (header.element.getD "") row scene).1
  waited := (scenario.await header row scene).1

def Searched.Ended (searched : Searched) : Prop :=
  searched.resolved ≠ .stalled ∧ searched.waited ≠ .stalled

/-- What comes of the searches where some candidates are broken, by what comes of them where these
have no match. Counting ends with the error of the first broken candidate that it comes to, and
waiting with a timeout, which is all the same only if the wait is in vain anyway. -/
structure Withstands (scenario : Scenario W T) (row : Option Row) (view : PageView) (sign : Sign)
    (candidates : List Candidate) (searched mended : Searched) : Prop where
  resolved : searched.resolved = mended.resolved
  counted : searched.counted = mended.counted ↔ ¬ scenario.StopsCount row view candidates
  breaks : scenario.StopsCount row view candidates →
    ∃ failure, searched.counted = .failed failure ∧ failure.IsGlitch
  waited : searched.waited.Resembles mended.waited ↔
    (scenario.StopsWait row view sign candidates → mended.waited.timesOut = true)
  expires : scenario.StopsWait row view sign candidates → searched.waited.timesOut = true

/-- A record waits for a sign of an element, on a page that does not change; in another world that
page has no match of what cannot be counted. -/
structure Contrasts (scenario : Scenario W T) (other : World W T) (live : PageId)
    (view : PageView) (holds : W -> Prop) (header : Header) (sign : Sign)
    (candidates : List Candidate) (scene : Scene W) : Prop where
  steady : scenario.world.Steady live view holds
  mended : other.Steady live view.mended holds
  rests : scene.Rests live holds
  listed : scenario.catalog.candidates (header.page.getD "") (header.element.getD "") =
    .ok candidates
  waits : ∃ wait, header.wait = some wait ∧ wait.condition = sign.condition

section

variable {other : World W T} (contrasts : scenario.Contrasts other live view holds header sign
  candidates scene)

include contrasts

theorem Contrasts.withstands (row : Option Row) (timeout : T)
    (ended : (scenario.searched header row timeout scene).Ended)
    (halted : ((scenario.inWorld other).searched header row timeout scene).Ended) :
    scenario.Withstands row view sign candidates (scenario.searched header row timeout scene)
      ((scenario.inWorld other).searched header row timeout scene) := by
  obtain ⟨steady, mended, rests, listed, wait, waits, signed⟩ := contrasts
  have stays : scene.Stays live scene.resolutions holds := ⟨rests, rfl⟩
  have counted : (scenario.searched header row timeout scene).counted = _ :=
    countMatches_outcome row steady stays listed
  have recounted : ((scenario.inWorld other).searched header row timeout scene).counted =
      .ofExcept (firstOf 0 (scenario.counts row view.mended) candidates) :=
    countMatches_outcome row mended stays listed
  have waited : (scenario.searched header row timeout scene).waited = _ :=
    (await_settles steady row listed waits signed).outcome stays ended.2
  have rewaits : ((scenario.inWorld other).await header row).Settles
      (Scene.Stays live scene.resolutions holds) ((scenario.waitPolling header wait).settled none
        (firstOf false (scenario.signOf row view.mended sign) candidates)) :=
    await_settles mended row listed waits signed
  have rewaited : ((scenario.inWorld other).searched header row timeout scene).waited = _ :=
    rewaits.outcome stays halted.2
  refine ⟨(resolve_mended steady mended row timeout listed stays ended.1 halted.1).symm, ?_, ?_, ?_,
    ?_⟩
  · rw [counted, recounted, Outcome.ofExcept_inj, counts_same_iff]
  · intro stops
    obtain ⟨failure, broke, glitch⟩ := stops.breaks
    exact ⟨failure, by rw [counted, broke, Outcome.ofExcept], glitch⟩
  · rw [waited, rewaited]
    exact waits_alike_iff rfl
  · intro stops
    obtain ⟨failure, expired⟩ := stops.settled (scenario.waitPolling header wait)
    rw [waited, expired]
    rfl

end

end

/-! ## Time -/

section

variable {W : Type} {scenario : Scenario W Rat}

variable (timed : scenario.KeepsTime)

include timed

theorem ask_onward (target : Target) (asked : Query) :
    scenario.Onward (scenario.ask target asked) := by
  intro scene
  obtain ⟨ended, world⟩ := scenario.ask_after target asked scene
  exact ⟨ended, (timed.queries _ _ _).trans_eq (congrArg scenario.world.clock.now world).symm⟩

theorem anyMatch_onward {test : Target -> Activity (Scene W) Bool}
    (tests : ∀ target, scenario.Onward (test target)) (target : Target) :
    scenario.Onward (scenario.anyMatch test target) :=
  onward_bind (ask_onward timed target .count) fun _ => anyOf_onward (fun _ => tests _) _

theorem Sign.test_onward (sign : Sign) (row : Option Row) (target : Target) :
    scenario.Onward (sign.test scenario row target) := by
  cases sign with
  | visible => exact anyMatch_onward timed (fun _ => ask_onward timed _ .isVisible) target
  | clickable =>
    refine anyMatch_onward timed (fun _ => ?_) target
    refine onward_bind (ask_onward timed _ .isVisible) fun shown => ?_
    cases shown with
    | false => exact onward_pure false
    | true => exact ask_onward timed _ .isEnabled
  | present => exact timed.hasMatch target
  | textPresent text =>
    refine anyMatch_onward timed (fun _ => ?_) target
    exact onward_bind (ask_onward timed _ .innerText) fun _ => onward_pure _

/-- In exact time an element is found or not, and waited for or not. -/
theorem KeepsTime.searches_end {live : PageId} {header : Header} {sign : Sign} {wait : Wait}
    {candidates : List Candidate} {scene : Scene W} {timeout : Rat}
    (spaced : 0 < scenario.pollInterval) (enough : scenario.pollLimit timeout ≤ scenario.fuel)
    (room : scenario.pollLimit (scenario.effectiveTimeout header) ≤ scenario.fuel)
    (lives : scenario.IsLive scene live)
    (listed : scenario.catalog.candidates (header.page.getD "") (header.element.getD "") =
      .ok candidates)
    (waits : header.wait = some wait) (signed : wait.condition = sign.condition)
    (row : Option Row) : (scenario.searched header row timeout scene).Ended := by
  constructor
  · rw [searched]
    cases cached : scene.handles.get? (header.page.getD "") (header.element.getD "") with
    | some resolved => simp [resolve, bind_run, cached]
    | none =>
      have seeks : scenario.Seeks _ _ live candidates scene := ⟨lives, listed, cached⟩
      dsimp only
      rw [seeks.run]
      exact tryLeads_ends timed spaced enough _ _ _
  · have probes := Polling.keepsTime_probing timed.clock_sleeps
      (anyLead_onward (sign.test_onward timed row) (header.page.getD "") (header.element.getD "") row)
    rw [searched, await_sign scenario row waits signed, Polling.test_eq_run]
    exact Polling.run_not_stalled probes (fun _ => spaced)
      ((scenario.limit_polling ..).trans_le room) scene

end

/-! ## Elements that are looked for on a page that does not change -/

/-- A broken candidate does not keep an element from being found by another. It does keep the
matches of those behind it from being counted and waited for; what has come to an end before it
is not concerned. In exact time all searches come to an end. -/
theorem searches_withstand {live : PageId} {view : PageView} {header : Header} {sign : Sign}
    {candidates : List Candidate} {row : Option Row} :
    (∀ {W T : Type} [Scale T] {scenario : Scenario W T} {other : World W T} {holds : W -> Prop}
        {scene : Scene W} {timeout : T},
      scenario.Contrasts other live view holds header sign candidates scene →
      (scenario.searched header row timeout scene).Ended →
      ((scenario.inWorld other).searched header row timeout scene).Ended →
      scenario.Withstands row view sign candidates (scenario.searched header row timeout scene)
        ((scenario.inWorld other).searched header row timeout scene)) ∧
    ∀ {W : Type} {scenario : Scenario W Rat} {other : World W Rat} {holds : W -> Prop}
        {scene : Scene W} {timeout : Rat},
      scenario.Contrasts other live view holds header sign candidates scene →
      scenario.KeepsTime → (scenario.inWorld other).KeepsTime → 0 < scenario.pollInterval →
      scenario.pollLimit timeout ≤ scenario.fuel →
      scenario.pollLimit (scenario.effectiveTimeout header) ≤ scenario.fuel →
      scenario.Withstands row view sign candidates (scenario.searched header row timeout scene)
        ((scenario.inWorld other).searched header row timeout scene) := by
  refine ⟨fun contrasts ended halted => contrasts.withstands _ _ ended halted, ?_⟩
  intro W scenario other holds scene timeout contrasts timed paced spaced enough room
  obtain ⟨wait, waits, signed⟩ := contrasts.waits
  have stays : scene.Stays live scene.resolutions holds := ⟨contrasts.rests, rfl⟩
  have lives : (scenario.inWorld other).IsLive scene live := isLive_of_stays contrasts.mended stays
  refine contrasts.withstands row timeout ?_ ?_
  · exact timed.searches_end spaced enough room (isLive_of_stays contrasts.steady stays)
      contrasts.listed waits signed row
  · exact paced.searches_end spaced enough room lives contrasts.listed waits signed row

/-- A world with a page that answers ever the same, and whose queries take no time. -/
def answering (view : PageView) : World Rat Rat where
  clock := Polling.seconds
  isClosed := fun _ _ => false
  url := fun _ _ => ""
  today := 0
  perform
    | .query target asked, now => (view target.selector target.index asked, now)
    | _, now => (.error World.pageClosed, now)

theorem answering_steady (view : PageView) :
    (answering view).recorded.Steady ⟨0⟩ view fun _ => True where
  opened := fun _ _ => rfl
  answered := fun _ _ _ _ _ => ⟨_, rfl, trivial⟩
  slept := fun _ _ _ => trivial

theorem answering_keepsTime (view : PageView) :
    (secondMatches.inWorld (answering view).recorded).KeepsTime where
  sleeps := fun _ _ => rfl
  queries := fun _ _ _ => le_rfl

/-- The first candidate has a selector that the browser does not understand; the second has two
matches. -/
def brokenFirst : PageView
  | selector, _, asked =>
    if selector = Selector.build .id "old" then .error ⟨.browser, "Unexpected token"⟩
    else match asked with
      | .count => .ok 2
      | .handle => .ok none
      | _ => .error World.pageClosed

def firstBroken : Scenario (Rat × List (Called Rat)) Rat :=
  secondMatches.inWorld (answering brokenFirst).recorded

def firstMended : Scenario (Rat × List (Called Rat)) Rat :=
  firstBroken.inWorld (answering brokenFirst.mended).recorded

theorem searches_withstand_first_broken :
    ∃ candidates, candidates.length = 2 ∧
      firstBroken.Withstands none brokenFirst .present candidates
        (firstBroken.searched presence none 1 secondMatchesOpen)
        (firstMended.searched presence none 1 secondMatchesOpen) := by
  have spaced : 0 < firstBroken.pollInterval := secondMatches_pollInterval.symm ▸ one_pos
  exact ⟨_, rfl, searches_withstand.2
    ⟨answering_steady _, answering_steady _, ⟨rfl, trivial⟩, rfl, _, rfl, rfl⟩
    (answering_keepsTime _) (answering_keepsTime _) spaced secondMatches_pollLimit.le
    secondMatches_waitLimit⟩

/-- The element is found by its second candidate, and yet its matches are not counted, and it is
waited for in vain. Without the first candidate's error both come out well. -/
theorem broken_candidate_hides_second :
    ((firstBroken.resolve "login" "user" none 1 secondMatchesOpen).1.value?.map
        fun found => (found.candidate.value, found.failedCandidates)) = some ("new", 1) ∧
      (firstBroken.countMatches "login" "user" none secondMatchesOpen).1.isFault
        ⟨.browser, "Unexpected token"⟩ = true ∧
      (firstMended.countMatches "login" "user" none secondMatchesOpen).1.value? = some 2 ∧
      (firstBroken.await presence none secondMatchesOpen).1.timesOut = true ∧
      (firstMended.await presence none secondMatchesOpen).1.value? = some () := by
  decide +kernel

end Scenario

end Rehearsal
