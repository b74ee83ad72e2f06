import Rehearsal.Proofs.Scenario.Candidates
import Rehearsal.Proofs.Time.PollBudget

/-!
Which candidate an element is found by: the first that has a match and a handle for it. Those
before it came to nothing, each after its full time or for want of a handle; those after it are
not looked at.
-/

set_option autoImplicit false

namespace Rehearsal.Scenario

open Activity

/-! ## Searches -/

section

variable {W T : Type}

/-- An element is looked for anew, on a page that is open. -/
structure Seeks (scenario : Scenario W T) (page element : String) (live : PageId)
    (candidates : List Candidate) (scene : Scene W) : Prop where
  lives : scenario.IsLive scene live
  listed : scenario.catalog.candidates page element = .ok candidates
  uncached : scene.handles.get? page element = none

variable [Scale T]

/-- What is found by a candidate after others were missed, and kept in place of nothing else. -/
structure Chooses (scenario : Scenario W T) (page element : String) (row : Option Row)
    (timeout : T) (live : PageId) (scene : Scene W) (made : List (Called T))
    (missed : List Candidate) (chosen : Candidate) (resolved : Resolved) (final : Scene W) :
    Prop where
  path : ∃ noted between after,
    scenario.Falls element timeout scene (missed.map (scenario.leadOf live row)) noted between ∧
    scenario.Hits element timeout (scenario.leadOf live row chosen) between resolved.handle after ∧
    final.world = after.world
  asked : ∀ called ∈ made, ∃ candidate ∈ missed ++ [chosen],
    (scenario.leadOf live row candidate).Asks called
  named : resolved.page = page ∧ resolved.element = element ∧ resolved.candidate = chosen
  selector : resolved.selector = Selector.build chosen.strategy (scenario.fill row chosen.value)
  target : resolved.target = { page := live, selector := resolved.selector, index := some 0 }
  failures : resolved.failedCandidates = missed.length
  kept : final.handles.get? page element = some resolved
  others : ∀ otherPage otherElement, ¬ (otherPage = page ∧ otherElement = element) →
    final.handles.get? otherPage otherElement = scene.handles.get? otherPage otherElement

/-- How a search ends that meets no loss of the session. -/
inductive FallsBack (scenario : Scenario W T) (page element : String) (row : Option Row)
    (timeout : T) (live : PageId) (candidates : List Candidate) (scene : Scene W)
    (made : List (Called T)) : Outcome Resolved × Scene W -> Prop where
  | chose {missed rest : List Candidate} {chosen : Candidate} {resolved : Resolved}
      {final : Scene W} (split : candidates = missed ++ chosen :: rest)
      (chooses : scenario.Chooses page element row timeout live scene made missed chosen resolved
        final) :
      FallsBack scenario page element row timeout live candidates scene made (.ok resolved, final)
  | exhausted {noted : List (String × String)} {final : Scene W}
      (falls : scenario.Falls element timeout scene (candidates.map (scenario.leadOf live row))
        noted final)
      (each : noted.map Prod.fst = candidates.map fun candidate =>
        Selector.build candidate.strategy (scenario.fill row candidate.value))
      (kept : final.handles = scene.handles) :
      FallsBack scenario page element row timeout live candidates scene made
        (.failed (.notFound page element noted), final)

variable {scenario : Scenario W T} {page element : String} {row : Option Row} {timeout : T}
  {live : PageId} {candidates : List Candidate} {scene : Scene W}

theorem Seeks.run (seeks : scenario.Seeks page element live candidates scene) (row : Option Row)
    (timeout : T) :
    scenario.resolve page element row timeout scene =
      scenario.tryLeads page element timeout [] (candidates.map (scenario.leadOf live row))
        scene := by
  rw [resolve_uncached seeks.uncached, discover, bind_run, leads_of_live seeks.lives seeks.listed]

/-- The calls of a search are those on behalf of the candidates that it came to. -/
theorem asks_of_falls {log : W -> List (Called T)} (logs : scenario.world.IsLog log)
    {missed : List Candidate} {noted : List (String × String)} {between after : Scene W}
    {chosen : Candidate} {handle : Option Handle}
    (falls : scenario.Falls element timeout scene (missed.map (scenario.leadOf live row)) noted
      between)
    (hit : scenario.awaitLead element timeout (scenario.leadOf live row chosen) between =
      (.ok handle, after)) :
    after.handles = scene.handles ∧
      ∃ made, log after.world = log scene.world ++ made ∧
        ∀ called ∈ made, ∃ candidate ∈ missed ++ [chosen],
          (scenario.leadOf live row candidate).Asks called := by
  have worldless : Scene.Worldless (Scene.handles (W := W)) := fun _ _ => rfl
  -- The calls of each part are of one kind, so those of the whole are.
  let kind : Called T -> Prop := fun called =>
    ∃ candidate ∈ missed ++ [chosen], (scenario.leadOf live row candidate).Asks called
  have before : (adding log kind Scene.handles).leads scene between := by
    refine falls.adding logs worldless fun lead among called asks => ?_
    obtain ⟨candidate, member, rfl⟩ := List.mem_map.mp among
    exact ⟨candidate, by simp [member], asks⟩
  have last : (scenario.awaitLead element timeout (scenario.leadOf live row chosen)).Follows
      (adding log kind Scene.handles) :=
    awaitLead_logging logs worldless element timeout fun _ asks => ⟨chosen, by simp, asks⟩
  exact (adding log kind Scene.handles).onward before (last.of_run hit).1

section

variable {log : W -> List (Called T)} {final : Scene W} (logs : scenario.world.IsLog log)
  (seeks : scenario.Seeks page element live candidates scene)

include logs seeks

theorem Seeks.chose {resolved : Resolved}
    (ran : scenario.resolve page element row timeout scene = (.ok resolved, final)) :
    scenario.FallsBack page element row timeout live candidates scene
      (callsOf log (scenario.resolve page element row timeout) scene) (.ok resolved, final) := by
  have run := ran.symm.trans (seeks.run row timeout)
  obtain ⟨missed, chosen, rest, noted, between, handle, after, split, falls, hit, kept⟩ :=
    tryLeads_ok run.symm
  -- The split of what is looked for is one of the candidates themselves.
  obtain ⟨missed, others, rfl, rfl, matched⟩ := List.map_eq_append_iff.mp split
  obtain ⟨chosen, rest, rfl, rfl, rfl⟩ := List.map_eq_cons_iff.mp matched
  obtain ⟨same, made, grown, asks⟩ := asks_of_falls logs falls hit
  cases kept
  have grown : log (scenario.resolve page element row timeout scene).2.world =
      log scene.world ++ made := by rw [ran, ← grown]
  refine .chose rfl ⟨⟨noted, between, after, falls, hits_of_ok hit, rfl⟩, ?_, ⟨rfl, rfl, rfl⟩,
    rfl, rfl, ?_, ?_, ?_⟩
  · rwa [callsOf_of_append grown]
  · simp
  · rw [HandleTable.get?_put, beq_self_eq_true, beq_self_eq_true, Bool.and_self, if_pos rfl]
  · intro otherPage otherElement other
    have apart : ¬ (page == otherPage && element == otherElement) = true := by
      simp only [Bool.and_eq_true, beq_iff_eq]
      exact fun both => other ⟨both.1.symm, both.2.symm⟩
    rw [HandleTable.get?_put, same, if_neg apart]

variable (lossless : Called.AllLive
  (callsOf log (scenario.resolve page element row timeout) scene))

include lossless

theorem Seeks.exhausted {failure : Failure}
    (ran : scenario.resolve page element row timeout scene = (.failed failure, final)) :
    scenario.FallsBack page element row timeout live candidates scene
      (callsOf log (scenario.resolve page element row timeout) scene) (.failed failure, final) := by
  have run := ran.symm.trans (seeks.run row timeout)
  rcases tryLeads_failed logs run.symm with ⟨noted, falls, rfl⟩ | ⟨made, grown, lost⟩
  · have kept : (adding log (fun _ => True) Scene.handles).leads scene final :=
      falls.adding logs (fun _ _ => rfl) fun _ _ _ _ => trivial
    exact .exhausted falls (falls.selectors.trans (List.map_map ..)) kept.1
  · have grown : log (scenario.resolve page element row timeout scene).2.world =
        log scene.world ++ made := by rw [ran, grown]
    rw [callsOf_of_append grown] at lossless
    exact absurd lossless lost

theorem Seeks.fallsBack
    (ended : (scenario.resolve page element row timeout scene).1 ≠ .stalled) :
    scenario.FallsBack page element row timeout live candidates scene
      (callsOf log (scenario.resolve page element row timeout) scene)
      (scenario.resolve page element row timeout scene) := by
  rcases ran : scenario.resolve page element row timeout scene with ⟨resolved | failure | _, final⟩
  · exact Seeks.chose logs seeks ran
  · exact Seeks.exhausted logs seeks lossless ran
  · exact absurd (by rw [ran]) ended

end

end

/-! ## Time -/

section

variable {W : Type}

/-- Sleeping moves the clock on by its span, and a query never moves it back. -/
structure KeepsTime (scenario : Scenario W Rat) : Prop where
  sleeps : ∀ span world, scenario.world.clock.now (scenario.world.clock.sleep span world) =
    scenario.world.clock.now world + span
  queries : ∀ target asked world, scenario.world.clock.now world ≤
    scenario.world.clock.now (scenario.world.perform (.query target asked) world).2

def FreeQueries (scenario : Scenario W Rat) : Prop :=
  ∀ target asked world, scenario.world.clock.now (scenario.world.perform (.query target asked)
    world).2 = scenario.world.clock.now world

def pollInterval (scenario : Scenario W Rat) : Rat := Scale.ofSeconds scenario.settings.pollInterval

/-- The most looks for one candidate. -/
def pollLimit (scenario : Scenario W Rat) (timeout : Rat) : Nat :=
  ⌈max timeout 0 / scenario.pollInterval⌉₊ + 1

theorem limit_polling (scenario : Scenario W Rat) (kind : FailureKind) (timeout : Rat)
    (awaited : String) :
    (scenario.polling kind timeout awaited).limit = scenario.pollLimit timeout := rfl

variable {scenario : Scenario W Rat} {page element : String} {row : Option Row} {timeout : Rat}
  {live : PageId} {candidates : List Candidate} {scene between after : Scene W} {lead : Lead}

theorem ask_after {T : Type} (scenario : Scenario W T) (target : Target) (asked : Query)
    (scene : Scene W) :
    (scenario.ask target asked scene).1 ≠ .stalled ∧
      (scenario.ask target asked scene).2.world =
        (scenario.world.perform (.query target asked) scene.world).2 := by
  unfold ask call
  split
  next performed => exact ⟨Outcome.ok_ne_stalled _, by rw [performed]⟩
  next performed => exact ⟨Outcome.failed_ne_stalled _, by rw [performed]⟩

theorem hasMatch_after (scenario : Scenario W Rat) (target : Target) (scene : Scene W) :
    (scenario.hasMatch target scene).1 ≠ .stalled ∧
      (scenario.hasMatch target scene).2.world =
        (scenario.world.perform (.query target .count) scene.world).2 := by
  have asked := scenario.ask_after target .count scene
  unfold hasMatch
  rw [bind_run]
  rcases ran : scenario.ask target .count scene with ⟨count | failure | _, after⟩ <;>
    rw [ran] at asked
  · exact ⟨Outcome.ok_ne_stalled _, asked.2⟩
  · exact ⟨Outcome.failed_ne_stalled _, asked.2⟩
  · exact absurd rfl asked.1

theorem ask_free (free : scenario.FreeQueries) {target : Target} {asked : Query}
    {outcome : Outcome asked.Answer} (ran : scenario.ask target asked scene = (outcome, after)) :
    scenario.clock.now after = scenario.clock.now scene := by
  have world := (scenario.ask_after target asked scene).2
  rw [ran] at world
  exact (congrArg scenario.world.clock.now world).trans (free _ _ _)

theorem probing_free (free : scenario.FreeQueries) (target : Target) :
    Polling.Free scenario.clock (Polling.probing (scenario.hasMatch target)) := by
  intro scene
  have world := congrArg Scene.world (Polling.probing_after (scenario.hasMatch target) scene).2
  rw [(scenario.hasMatch_after target scene).2] at world
  exact (congrArg scenario.world.clock.now world).trans (free _ _ _)

section

variable (timed : scenario.KeepsTime)

include timed

theorem KeepsTime.clock_sleeps (span : Rat) (scene : Scene W) :
    scenario.clock.now (scenario.clock.sleep span scene) = scenario.clock.now scene + span :=
  timed.sleeps span scene.world

theorem KeepsTime.hasMatch (target : Target) (scene : Scene W) :
    (scenario.hasMatch target scene).1 ≠ .stalled ∧
      scenario.clock.now scene ≤ scenario.clock.now (scenario.hasMatch target scene).2 := by
  obtain ⟨ended, world⟩ := scenario.hasMatch_after target scene
  exact ⟨ended, (timed.queries _ _ _).trans_eq (congrArg scenario.world.clock.now world).symm⟩

theorem KeepsTime.probing (target : Target) :
    Polling.KeepsTime scenario.clock (Polling.probing (scenario.hasMatch target)) :=
  Polling.keepsTime_probing timed.clock_sleeps (timed.hasMatch target)

theorem tryLeads_ends (spaced : 0 < scenario.pollInterval)
    (enough : scenario.pollLimit timeout ≤ scenario.fuel) (noted : List (String × String))
    (leads : List Lead) (scene : Scene W) :
    (scenario.tryLeads page element timeout noted leads scene).1 ≠ .stalled := by
  induction leads generalizing noted scene with
  | nil => exact Outcome.failed_ne_stalled _
  | cons lead rest ih =>
    have polled : ((scenario.leadPolling element timeout lead).run scenario.clock scenario.fuel
        (Polling.probing (scenario.hasMatch lead.target)) scene).1 ≠ .stalled :=
      Polling.run_not_stalled (timed.probing lead.target) (fun _ => spaced)
        ((scenario.limit_polling ..).trans_le enough) scene
    have awaited : (scenario.awaitLead element timeout lead scene).1 ≠ .stalled := by
      rw [awaitLead_run, bind_run]
      rcases ran : (scenario.leadPolling element timeout lead).run scenario.clock scenario.fuel
        (Polling.probing (scenario.hasMatch lead.target)) scene with ⟨_ | _ | _, between⟩
      · exact (scenario.ask_after _ _ _).1
      · exact Outcome.failed_ne_stalled _
      · exact absurd (by rw [ran]) polled
    rw [tryLeads, bind_run, attempt_run]
    rcases met : scenario.awaitLead element timeout lead scene with ⟨handle | failure | _, after⟩
    · exact Outcome.ok_ne_stalled _
    · dsimp only
      split
      · exact Outcome.failed_ne_stalled _
      · exact ih _ _
    · exact absurd (by rw [met]) awaited

variable (free : scenario.FreeQueries) (room : 0 ≤ timeout)

include free room

/-- The last look comes at the deadline at the latest, and takes no time. -/
theorem polls_punctual {earlier : List (Look (Scene W) Unit)} {last : Look (Scene W) Unit}
    (polled : scenario.Polls element timeout lead scene earlier last after) :
    scenario.clock.now after ≤ scenario.clock.now scene + timeout := by
  have punctual := (timed.probing lead.target).last_punctual polled
  rw [← (probing_free free lead.target).now_finds polled.finds] at punctual
  exact punctual.trans (max_le le_rfl (le_add_of_nonneg_right room))

theorem Misses.punctual (misses : scenario.Misses element timeout lead scene after) :
    scenario.clock.now after ≤ scenario.clock.now scene + timeout := by
  cases misses with
  | expired polled => exact polls_punctual timed free room polled
  | refused polled found refused =>
    exact (ask_free free refused).trans_le (polls_punctual timed free room polled)

theorem Hits.punctual {handle : Option Handle}
    (hits : scenario.Hits element timeout lead scene handle after) :
    scenario.clock.now after ≤ scenario.clock.now scene + timeout := by
  cases hits with
  | taken polled found given =>
    exact (ask_free free given).trans_le (polls_punctual timed free room polled)

theorem Falls.punctual {missed : List Lead} {noted : List (String × String)}
    (falls : scenario.Falls element timeout scene missed noted after) :
    scenario.clock.now after ≤ scenario.clock.now scene + missed.length * timeout := by
  induction falls with
  | none => simp
  | next _ missed _ ih =>
    have first := missed.punctual timed free room
    rw [List.length_cons, Nat.cast_succ, add_one_mul]
    linarith

theorem FallsBack.punctual {made : List (Called Rat)} {ran : Outcome Resolved × Scene W}
    (fallsBack : scenario.FallsBack page element row timeout live candidates scene made ran) :
    scenario.clock.now ran.2 ≤ scenario.clock.now scene + candidates.length * timeout := by
  cases fallsBack with
  | @chose missed rest chosen resolved final split chooses =>
    obtain ⟨noted, between, after, falls, hits, world⟩ := chooses.path
    have before := falls.punctual timed free room
    have last := hits.punctual timed free room
    have same : scenario.clock.now final = scenario.clock.now after :=
      congrArg scenario.world.clock.now world
    have others : 0 ≤ (rest.length : Rat) * timeout := by positivity
    rw [List.length_map] at before
    rw [split, List.length_append, List.length_cons]
    push_cast
    linarith
  | exhausted falls => simpa using falls.punctual timed free room

end

end

/-! ## Elements that are looked for anew -/

/-- A search in which no call meets the loss of the session finds the element by the first
candidate that has a match and a handle for it, or else names each candidate in turn. In exact
time it comes to an end, after the full time of each candidate at the latest if queries take
none. -/
theorem resolve_falls_back :
    (∀ {W T : Type} [Scale T] {scenario : Scenario W T} {log : W -> List (Called T)}
        {page element : String} {row : Option Row} {timeout : T} {live : PageId}
        {candidates : List Candidate} {scene : Scene W},
      scenario.world.IsLog log → scenario.Seeks page element live candidates scene →
      Called.AllLive (callsOf log (scenario.resolve page element row timeout) scene) →
      (scenario.resolve page element row timeout scene).1 ≠ .stalled →
      scenario.FallsBack page element row timeout live candidates scene
        (callsOf log (scenario.resolve page element row timeout) scene)
        (scenario.resolve page element row timeout scene)) ∧
    ∀ {W : Type} {scenario : Scenario W Rat} {log : W -> List (Called Rat)}
        {page element : String} {row : Option Row} {timeout : Rat} {live : PageId}
        {candidates : List Candidate} {scene : Scene W},
      scenario.world.IsLog log → scenario.Seeks page element live candidates scene →
      scenario.KeepsTime → 0 < scenario.pollInterval →
      scenario.pollLimit timeout ≤ scenario.fuel →
      (scenario.resolve page element row timeout scene).1 ≠ .stalled ∧
        (Called.AllLive (callsOf log (scenario.resolve page element row timeout) scene) →
          scenario.FreeQueries → 0 ≤ timeout →
          scenario.clock.now (scenario.resolve page element row timeout scene).2 ≤
            scenario.clock.now scene + candidates.length * timeout) := by
  refine ⟨fun logs seeks lossless ended => seeks.fallsBack logs lossless ended, ?_⟩
  intro W scenario log page element row timeout live candidates scene logs seeks timed spaced enough
  have ended : (scenario.resolve page element row timeout scene).1 ≠ .stalled := by
    rw [seeks.run]
    exact tryLeads_ends timed spaced enough _ _ _
  exact ⟨ended, fun lossless free room =>
    (seeks.fallsBack logs lossless ended).punctual timed free room⟩

/-- Pages that show each selector some number of times, and whose queries take no time. -/
def showing (counts : String -> Nat) : World Rat Rat where
  clock := Polling.seconds
  isClosed := fun _ _ => false
  url := fun _ _ => ""
  today := 0
  perform
    | .query target .count, now => (.ok (counts target.selector), now)
    | .query _ .handle, now => (.ok none, now)
    | _, now => (.error World.pageClosed, now)

def secondCounts (selector : String) : Nat :=
  if selector = Selector.build .id "new" then 2 else 0

/-- An element whose first candidate is not on the page, and whose second is there twice. -/
def secondMatches : Scenario (Rat × List (Called Rat)) Rat :=
  let candidates : List Candidate :=
    [{ ordinal := 0, strategy := .id, value := "old" },
      { ordinal := 1, strategy := .id, value := "new" }]
  let page : Page := { name := "login", path := "/login", elements := [("user", candidates)] }
  .standard (showing secondCounts).recorded
    { pages := [("login", page)], tests := [], params := [] }
    { Settings.plain with pollInterval := 1.0 } "run" 2

def secondMatchesOpen : Scene (Rat × List (Called Rat)) :=
  { Scene.opening (0, []) (Files.empty "/") with
    session := { Session.idle with page := some ⟨0⟩ } }

theorem secondMatches_keepsTime : secondMatches.KeepsTime where
  sleeps _ _ := rfl
  queries target asked world := by cases asked <;> exact le_rfl

theorem secondMatches_pollInterval : secondMatches.pollInterval = 1 := by decide +kernel

theorem secondMatches_pollLimit : secondMatches.pollLimit 1 = secondMatches.fuel := by
  have one : ⌈(max 1 0 / 1 : Rat)⌉₊ = 1 := by norm_num
  rw [pollLimit, secondMatches_pollInterval, one]
  rfl

theorem resolve_falls_back_to_second :
    ∃ candidates resolved final, candidates.length = 2 ∧
      secondMatches.resolve "login" "user" none 1 secondMatchesOpen = (.ok resolved, final) ∧
      secondMatches.FallsBack "login" "user" none 1 ⟨0⟩ candidates secondMatchesOpen
        (callsOf Prod.snd (secondMatches.resolve "login" "user" none 1) secondMatchesOpen)
        (.ok resolved, final) ∧
      resolved.failedCandidates = 1 ∧ final.world.1 ≤ 2 := by
  have logs : secondMatches.world.IsLog Prod.snd := World.recorded_isLog _
  have spaced : 0 < secondMatches.pollInterval := secondMatches_pollInterval ▸ one_pos
  have seeks : secondMatches.Seeks "login" "user" ⟨0⟩ _ secondMatchesOpen :=
    ⟨⟨rfl, rfl⟩, rfl, rfl⟩
  have free : secondMatches.FreeQueries := by
    intro target asked world
    cases asked <;> rfl
  have ended : (secondMatches.resolve "login" "user" none 1 secondMatchesOpen).1 ≠ .stalled :=
    (resolve_falls_back.2 logs seeks secondMatches_keepsTime spaced secondMatches_pollLimit.le).1
  have answered : (callsOf Prod.snd (secondMatches.resolve "login" "user" none 1)
      secondMatchesOpen).all (fun called => called.fault?.isNone) = true := by decide +kernel
  have lossless : Called.AllLive
      (callsOf Prod.snd (secondMatches.resolve "login" "user" none 1) secondMatchesOpen) := by
    rintro called member ⟨fault, met, -⟩
    simpa [met] using List.all_eq_true.mp answered called member
  have fallsBack := resolve_falls_back.1 logs seeks lossless ended
  have soon := (resolve_falls_back.2 logs seeks secondMatches_keepsTime spaced
    secondMatches_pollLimit.le).2 lossless free zero_le_one
  have found : (secondMatches.resolve "login" "user" none 1 secondMatchesOpen).1.value?.map
      Resolved.failedCandidates = some 1 := by decide +kernel
  obtain ⟨resolved, ended, failed⟩ := Option.map_eq_some_iff.mp found
  have ran := Activity.run_of_outcome (Outcome.of_value? ended)
  rw [ran] at fallsBack soon
  exact ⟨_, resolved, _, rfl, ran, fallsBack, failed, soon.trans (by decide +kernel)⟩

end Rehearsal.Scenario
