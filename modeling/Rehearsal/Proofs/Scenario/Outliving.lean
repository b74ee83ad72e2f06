import Rehearsal.Proofs.Scenario.Lifetime

/-!
Handles that outlive their browser. A handle is of the browser that ran when it was found, and only
a restart drops what is kept; what is kept when a browser is launched stays on beside it.
-/

set_option autoImplicit false

namespace Rehearsal

open Activity

/-! ## What was found in which browser -/

/-- A handle that was found, and how many browsers had been launched by then. -/
structure Find where
  browsers : Nat
  target : Target
  handle : Option Handle

section

variable {T : Type}

def Answered.found? : Answered T -> Option (Target × Option Handle)
  | ⟨.query target .handle, .ok handle⟩ => some (target, handle)
  | _ => none

def findsAfter (browsers : Nat) : List (Answered T) -> List Find
  | [] => []
  | answered :: rest =>
    (answered.found?.map fun (target, handle) => { browsers, target, handle }).toList ++
      findsAfter (browsers + answered.launched?.toList.length) rest

def finds (made : List (Answered T)) : List Find := findsAfter 0 made

namespace Resolved

/-- The handle was found in the browser that was launched last. -/
def OfRunning (made : List (Answered T)) (resolved : Resolved) : Prop :=
  (finds made)[resolved.serial]? = some
    { browsers := (launched made).length, target := resolved.target, handle := resolved.handle }

/-- The handle was found before the last launch. -/
def OfFormer (made : List (Answered T)) (resolved : Resolved) : Prop :=
  ∃ find, (finds made)[resolved.serial]? = some find ∧ find.browsers < (launched made).length

end Resolved

theorem launched_cons (answered : Answered T) (rest : List (Answered T)) :
    launched (answered :: rest) = answered.launched?.toList ++ launched rest := by
  unfold launched
  rw [List.filterMap_cons]
  cases answered.launched? <;> rfl

theorem findsAfter_append (browsers : Nat) (made more : List (Answered T)) :
    findsAfter browsers (made ++ more) =
      findsAfter browsers made ++ findsAfter (browsers + (launched made).length) more := by
  induction made generalizing browsers with
  | nil => rfl
  | cons answered rest ih =>
    rw [List.cons_append, findsAfter, findsAfter, ih, List.append_assoc, launched_cons,
      List.length_append, Nat.add_assoc]

theorem finds_append (made more : List (Answered T)) :
    finds (made ++ more) = finds made ++ findsAfter (launched made).length more := by
  rw [finds, findsAfter_append, Nat.zero_add]
  rfl

theorem findsAfter_within {browsers : Nat} {made : List (Answered T)} {find : Find}
    (found : find ∈ findsAfter browsers made) :
    browsers ≤ find.browsers ∧ find.browsers ≤ browsers + (launched made).length := by
  induction made generalizing browsers with
  | nil => cases found
  | cons answered rest ih =>
    rw [launched_cons, List.length_append]
    rcases List.mem_append.mp found with here | later
    · obtain ⟨_, _, rfl⟩ := Option.map_eq_some_iff.mp (Option.mem_toList.mp here)
      exact ⟨Nat.le_refl _, Nat.le_add_right _ _⟩
    · have within := ih later
      omega

theorem findsAfter_apart (browsers : Nat) {made : List (Answered T)}
    (apart : ∀ answered ∈ made, answered.call.resource? ≠ some .handle) :
    findsAfter browsers made = [] := by
  induction made generalizing browsers with
  | nil => rfl
  | cons answered rest ih =>
    obtain ⟨other, later⟩ := List.forall_mem_cons.mp apart
    have unfound : answered.found? = none := by
      rcases answered with ⟨call, answer⟩
      cases call <;> first
        | rfl
        | (rename_i target asked; cases asked <;> first | rfl | exact absurd rfl other)
    rw [findsAfter, unfound, ih _ later]
    rfl

theorem finds_apart {made more : List (Answered T)}
    (apart : ∀ answered ∈ more, answered.call.resource? ≠ some .handle) :
    finds (made ++ more) = finds made := by
  rw [finds_append, findsAfter_apart _ apart, List.append_nil]

theorem finds_grow {made later : List (Answered T)} (early : made <+: later) :
    finds made <+: finds later := by
  obtain ⟨more, rfl⟩ := early
  exact ⟨_, (finds_append made more).symm⟩

theorem finds_later {made later : List (Answered T)} {serial : Nat} {find : Find}
    (found : (finds made)[serial]? = some find) (early : made <+: later) :
    (finds later)[serial]? = some find := by
  obtain ⟨within, rfl⟩ := List.getElem?_eq_some_iff.mp found
  exact List.prefix_iff_getElem?.mp (finds_grow early) serial within

theorem finds_le {made : List (Answered T)} {find : Find} (found : find ∈ finds made) :
    find.browsers ≤ (launched made).length := by
  simpa using (findsAfter_within found).2

theorem finds_since {made later : List (Answered T)} {serial : Nat} {find : Find}
    (early : made <+: later) (unlaunched : launched later = launched made)
    (since : (finds made).length ≤ serial) (found : (finds later)[serial]? = some find) :
    find.browsers = (launched later).length := by
  obtain ⟨more, rfl⟩ := early
  rw [finds_append, List.getElem?_append_right since] at found
  -- The find is later than all that was launched, so no browser lies between it and the end.
  have none_launched : launched more = [] := by simpa using unlaunched
  have within := findsAfter_within (List.mem_of_getElem? found)
  rw [none_launched] at within
  rw [unlaunched]
  exact Nat.le_antisymm within.2 within.1

theorem Resolved.OfFormer.not_running {made : List (Answered T)} {resolved : Resolved}
    (former : resolved.OfFormer made) : ¬ resolved.OfRunning made := by
  intro running
  obtain ⟨find, found, less⟩ := former
  rw [Resolved.OfRunning, found] at running
  cases running
  exact Nat.lt_irrefl _ less

theorem Resolved.OfFormer.later {made later : List (Answered T)} {resolved : Resolved}
    (former : resolved.OfFormer made) (early : made <+: later) : resolved.OfFormer later := by
  obtain ⟨find, found, less⟩ := former
  refine ⟨find, finds_later found early, ?_⟩
  exact Nat.lt_of_lt_of_le less (launched_grows early).length_le

end

namespace Scenario

variable {W T : Type} {scenario : Scenario W T} {transcript : W -> List (Answered T)}

/-! ## Finds are accounted for -/

/-- Each handle that is kept is one that was found, under the number of its find. -/
structure Recalls (transcript : W -> List (Answered T)) (scene : Scene W) : Prop where
  counted : scene.resolutions = (finds (transcript scene.world)).length
  traced : ∀ page element resolved, scene.handles.get? page element = some resolved →
    ∃ browsers, (finds (transcript scene.world))[resolved.serial]? = some
      { browsers, target := resolved.target, handle := resolved.handle }

/-- Between two scenes, what is kept anew was found under a new number. -/
structure Finds (transcript : W -> List (Answered T)) (before after : Scene W) : Prop where
  grown : transcript before.world <+: transcript after.world
  counted : before.resolutions ≤ after.resolutions
  recalls : Recalls transcript before → Recalls transcript after
  renewed : ∀ page element resolved, after.handles.get? page element = some resolved →
    before.handles.get? page element = some resolved ∨ before.resolutions ≤ resolved.serial

def finding (transcript : W -> List (Answered T)) : Conduct (Scene W) where
  leads := Finds transcript
  raises _ := True
  still _ := ⟨List.prefix_rfl, Nat.le_refl _, id, fun _ _ _ held => .inl held⟩
  onward := by
    intro first second third here there
    refine ⟨here.grown.trans there.grown, Nat.le_trans here.counted there.counted,
      there.recalls ∘ here.recalls, fun page element resolved held => ?_⟩
    rcases there.renewed page element resolved held with between | since
    · exact here.renewed page element resolved between
    · exact .inr (Nat.le_trans here.counted since)

theorem finds_of_apart {before after : Scene W} {made : List (Answered T)}
    (grown : transcript after.world = transcript before.world ++ made)
    (apart : ∀ answered ∈ made, answered.call.resource? ≠ some .handle)
    (counted : after.resolutions = before.resolutions)
    (kept : ∀ page element resolved, after.handles.get? page element = some resolved →
      before.handles.get? page element = some resolved) : Finds transcript before after := by
  refine ⟨⟨made, grown.symm⟩, Nat.le_of_eq counted.symm, fun recalls => ?_,
    fun page element resolved held => .inl (kept page element resolved held)⟩
  have same : finds (transcript after.world) = finds (transcript before.world) := by
    rw [grown, finds_apart apart]
  refine ⟨?_, fun page element resolved held => ?_⟩
  · rw [counted, same]
    exact recalls.counted
  · rw [same]
    exact recalls.traced page element resolved (kept page element resolved held)

theorem finds_of_idle {before after : Scene W} (idle : after.world = before.world)
    (counted : after.resolutions = before.resolutions)
    (kept : ∀ page element resolved, after.handles.get? page element = some resolved →
      before.handles.get? page element = some resolved) : Finds transcript before after :=
  finds_of_apart (by rw [idle, List.append_nil]) (by simp) counted kept

theorem finds_of_same {before after : Scene W} (idle : after.world = before.world)
    (counted : after.resolutions = before.resolutions) (kept : after.handles = before.handles) :
    Finds transcript before after :=
  finds_of_idle idle counted fun _ _ _ held => kept ▸ held

section

variable (transcribes : scenario.world.IsTranscript transcript)

include transcribes

theorem call_finds (call : Call T) (other : call.resource? ≠ some .handle) :
    (scenario.call call).Follows (finding transcript) := by
  intro scene
  refine ⟨?_, fun _ _ => trivial⟩
  obtain ⟨_, _, ran, grown⟩ | ⟨_, _, ran, grown⟩ := call_answered transcribes call scene <;>
    rw [ran] <;> exact finds_of_apart grown (by simpa using other) rfl fun _ _ _ held => held

theorem broker_finds (call : Call T) (own : call.isToBroker = true) :
    (scenario.call call).Follows (finding transcript) :=
  call_finds transcribes call (Call.resource?_of_broker own).2

theorem found_finds (page element : String) (lead : Lead) (failed : Nat) :
    (scenario.ask lead.target.first .handle >>= fun handle =>
      scenario.keep page element lead handle failed).Follows (finding transcript) := by
  intro scene
  refine ⟨?_, fun _ _ => trivial⟩
  rw [bind_run, ask]
  obtain ⟨handle, world, ran, grown⟩ | ⟨fault, world, ran, grown⟩ :=
    call_answered transcribes (.query lead.target.first .handle) scene
  all_goals rw [ran]
  · -- The handle is kept under the next number, which is that of the find.
    have found : finds (transcript world) = finds (transcript scene.world) ++
        [{ browsers := (launched (transcript scene.world)).length
           target := lead.target.first, handle }] := by
      rw [grown, finds_append]
      rfl
    refine ⟨⟨_, grown.symm⟩, Nat.le_succ _, fun recalls => ⟨?_, ?_⟩, ?_⟩
    · change scene.resolutions + 1 = (finds (transcript world)).length
      rw [found, recalls.counted, List.length_append]
      rfl
    · intro otherPage otherElement resolved held
      rcases HandleTable.get?_put_cases held with ⟨-, -, rfl⟩ | before
      · refine ⟨(launched (transcript scene.world)).length, ?_⟩
        change (finds (transcript world))[scene.resolutions]? = _
        simp [found, recalls.counted]
      · obtain ⟨browsers, known⟩ := recalls.traced otherPage otherElement resolved before
        exact ⟨browsers, finds_later known ⟨_, grown.symm⟩⟩
    · intro otherPage otherElement resolved held
      rcases HandleTable.get?_put_cases held with ⟨-, -, rfl⟩ | before
      · exact .inr (Nat.le_refl _)
      · exact .inl before
  · have unfound : finds (transcript world) = finds (transcript scene.world) := by
      rw [grown, finds_append]
      exact List.append_nil _
    refine ⟨⟨_, grown.symm⟩, Nat.le_refl _, fun recalls => ⟨?_, ?_⟩, fun _ _ _ held => .inl held⟩
    · exact recalls.counted.trans (by rw [unfound])
    · simpa only [unfound] using recalls.traced

theorem admits_finding : scenario.Admits (finding transcript) where
  called call plain scene := by
    refine finds_of_apart (transcribes.performed call scene.world) ?_ rfl fun _ _ _ held => held
    simp [plain]
  slept span scene := by
    have same : transcript (scenario.clock.sleep span scene).world =
        transcript scene.world ++ [] := by simpa [clock] using transcribes.slept span scene.world
    exact finds_of_apart same (by simp) rfl fun _ _ _ held => held
  found page element lead failed := found_finds transcribes page element lead failed
  producers _ := producer_follows (broker_finds transcribes) fun _ _ => finds_of_same rfl rfl rfl
  consumers _ := consumer_follows (broker_finds transcribes) fun _ _ => finds_of_same rfl rfl rfl
  topics _ _ := finds_of_same rfl rfl rfl
  reloaded _ _ := finds_of_idle rfl rfl fun _ _ _ held => HandleTable.get?_of_invalidate held
  dropped _ := finds_of_idle rfl rfl nofun
  cookieJar _ _ := finds_of_same rfl rfl rfl
  grounded _ _ _ := trivial

theorem permitsSession_finding : scenario.PermitsSession (finding transcript) where
  called call own := by
    refine call_finds transcribes call ?_
    rcases Call.resource?_of_session own with plain | browser <;> simp [*]
  slept := (admits_finding transcribes).slept
  holds _ _ _ := finds_of_same rfl rfl rfl
  exhausted _ _ _ := trivial

theorem sustains_finding [Scale T] (listens : scenario.onRestart = [Scene.dropHandles]) :
    scenario.Sustains (finding transcript) :=
  (admits_finding transcribes).sustains (permitsSession_finding transcribes) listens
    (fun _ => trivial)
    (fun _ => closeBroker_follows (broker_finds transcribes) fun _ _ => finds_of_same rfl rfl rfl)
    fun _ _ idle handles counted _ _ => finds_of_same idle counted handles

end

/-! ## What is carried over to a browser -/

/-- What is kept when a browser is launched, for as long as no other one is. -/
def carriedOver (transcript : W -> List (Answered T)) (carried : HandleTable Resolved)
    (scene after : Scene W) : HandleTable Resolved :=
  if launched (transcript after.world) = launched (transcript scene.world) then carried
  else after.handles

variable [Scale T]

/-- A lifetime, with what was kept when the browser was launched that was launched last. -/
inductive LivedOver (scenario : Scenario W T) (transcript : W -> List (Answered T)) :
    HandleTable Resolved -> Phase T -> Scene W -> Prop where
  | opening {world : W} {files : Files} (silent : transcript world = []) :
      LivedOver scenario transcript .empty .idle (Scene.opening world files)
  | strode {carried : HandleTable Resolved} {phase next : Phase T} {scene after : Scene W}
      (lived : LivedOver scenario transcript carried phase scene)
      (stride : scenario.Stride phase scene next after) :
      LivedOver scenario transcript (carriedOver transcript carried scene after) next after

theorem LivedOver.lived {carried : HandleTable Resolved} {phase : Phase T} {scene : Scene W}
    (past : scenario.LivedOver transcript carried phase scene) :
    scenario.Lived transcript phase scene := by
  induction past with
  | opening silent => exact .opening silent
  | strode _ stride ih => exact ih.strode stride

/-! ## Nothing is found after a launch -/

omit [Scale T] in
/-- No browser is launched before some scene, and nothing is found after it. -/
def Divides (transcript : W -> List (Answered T)) (before after : Scene W) : Prop :=
  ∃ middle, Finds transcript before middle ∧
    launched (transcript middle.world) = launched (transcript before.world) ∧
    Finds transcript middle after ∧ after.resolutions = middle.resolutions

section

variable {before after last : Scene W}

omit [Scale T] in
theorem divides_of_unlaunched (finds : Finds transcript before after)
    (same : launched (transcript after.world) = launched (transcript before.world)) :
    Divides transcript before after :=
  ⟨after, finds, same, (finding transcript).still after, rfl⟩

omit [Scale T] in
theorem divides_of_counted (finds : Finds transcript before after)
    (same : after.resolutions = before.resolutions) : Divides transcript before after :=
  ⟨before, (finding transcript).still before, rfl, finds, same⟩

omit [Scale T] in
theorem Divides.onward (divides : Divides transcript before after)
    (finds : Finds transcript after last) (same : last.resolutions = after.resolutions) :
    Divides transcript before last := by
  obtain ⟨middle, first, unlaunched, second, counted⟩ := divides
  exact ⟨middle, first, unlaunched, (finding transcript).onward second finds, same.trans counted⟩

end

omit [Scale T] in
def foundSoFar (scene : Scene W) : HandleTable Resolved × Nat := (scene.handles, scene.resolutions)

variable (scenario) in
theorem surrounds_found : scenario.Surrounds (.keeping foundSoFar) :=
  surrounds_keeping ⟨fun _ _ => rfl, fun _ _ _ => rfl⟩ (fun _ _ => rfl) (fun _ _ _ _ => rfl)
    fun _ _ => rfl

omit [Scale T] in
theorem found_of_keeping {before after : Scene W}
    (kept : (Conduct.keeping foundSoFar).leads before after) :
    after.handles = before.handles ∧ after.resolutions = before.resolutions :=
  Prod.mk.inj kept

theorem start_found (scene : Scene W) :
    (scenario.start scene).2.handles = scene.handles ∧
      (scenario.start scene).2.resolutions = scene.resolutions :=
  found_of_keeping (start_follows scenario.surrounds_found (fun _ => trivial) scene).1

theorem close_found (scene : Scene W) :
    (scenario.close scene).2.handles = scene.handles ∧
      (scenario.close scene).2.resolutions = scene.resolutions :=
  found_of_keeping (close_follows scenario.surrounds_found scene).1

section

variable (transcribes : scenario.world.IsTranscript transcript)
  (listens : scenario.onRestart = [Scene.dropHandles])

include transcribes in
theorem attemptOf_unlaunches (task : Task) :
    (scenario.attemptOf task).Keeps fun scene => launched (transcript scene.world) := by
  have permits : scenario.Permits (.keeping fun scene => launched (transcript scene.world)) :=
    { called := fun call apart scene => by
        have unlaunched : launched [(⟨call, (scenario.world.perform call scene.world).1⟩ :
            Answered T)] = [] := (aside_of_resource (by simpa using apart)).unlaunched
        change launched (transcript (scenario.world.perform call scene.world).2) = _
        rw [transcribes.performed, launched_append, unlaunched, List.append_nil]
      slept := fun span scene => congrArg launched (transcribes.slept span scene.world)
      handles := fun _ _ => rfl
      resolutions := fun _ _ => rfl
      snapshots := fun _ _ => rfl
      broker := fun _ _ => rfl
      cookieJar := fun _ _ => rfl
      grounded := fun _ _ _ => trivial }
  exact Conduct.follows_keeping.mp
    (attemptOf_follows permits.admits (fun _ => trivial) (fun _ _ => rfl) permits.snapshots task)

include listens in
theorem restartSession_counted : scenario.restartSession.Keeps Scene.resolutions :=
  restartSession_keeps listens _ ⟨fun _ _ => rfl, fun _ _ _ => rfl⟩ fun _ => rfl

include listens in
theorem reopen_counted : scenario.reopen.Keeps Scene.resolutions :=
  Conduct.follows_keeping.mp <| reopen_follows
    (Conduct.follows_keeping.mpr (restartSession_counted listens)) fun page =>
      Conduct.follows_keeping.mpr <| scenario.openPage_keeps page _ (fun _ _ => rfl) fun _ => rfl

include transcribes listens

theorem Ventures.divides {task : Task} {number : Nat} {scene after : Scene W}
    (ventures : scenario.Ventures task number scene after) :
    Divides transcript scene after := by
  have sustains := sustains_finding transcribes listens
  have attempted : ∀ {outcome between},
      scenario.attemptOf task (noteAttempts number scene) = (outcome, between) →
        Divides transcript scene between := by
    intro outcome between ran
    have unlaunched := (attemptOf_unlaunches transcribes task).of_run ran
    exact divides_of_unlaunched (Ventures.leads sustains (.taken ran)) unlaunched
  cases ventures with
  | taken ran => exact attempted ran
  | recovered ran reopened =>
    -- All finds are the step's, and all launches are the recovery's.
    have reopens := reopen_follows sustains.restarts fun page => sustains.attempts (.visit page)
    have recovered := (finding transcript).onward (sustains.counts _ _) (reopens.of_run reopened).1
    have counted := (reopen_counted listens).of_run reopened
    exact (attempted ran).onward recovered counted

theorem Stride.divides {phase next : Phase T} {scene after : Scene W}
    (stride : scenario.Stride phase scene next after) : Divides transcript scene after := by
  have sustains := sustains_finding transcribes listens
  have leads := stride.leads sustains fun _ => trivial
  cases stride with
  | started => exact divides_of_counted leads (start_found scene).2
  | closed => exact divides_of_counted leads (close_found scene).2
  | pictured path =>
    have pictured :=
      captureScreenshot_follows scenario.surrounds_found path (fun _ => trivial) scene
    exact divides_of_counted leads (found_of_keeping pictured.1).2
  | moved move =>
    cases move with
    | begun | spent => exact divides_of_counted leads rfl
    | retried tried =>
      exact ((Ventures.of_tries tried).divides transcribes listens).onward (sustains.slept _ _) rfl
    | ended tried => exact (Ventures.of_tries tried).divides transcribes listens
    | hung hung => exact (Ventures.of_hangs hung).divides transcribes listens
    | noted ran =>
      exact divides_of_counted leads (found_of_keeping (scenario.surrounds_found.noted ran)).2
    | reset ran => exact divides_of_counted leads ((restartSession_counted listens).of_run ran)
    | opened ran =>
      exact divides_of_counted leads
        ((scenario.openPage_keeps _ _ (fun _ _ => rfl) fun _ => rfl).of_run ran)

end

/-! ## What is carried over is of a former browser -/

omit [Scale T] in
/-- What is carried over was found before the last launch, and all else that is kept after it. -/
structure Dated (transcript : W -> List (Answered T)) (carried : HandleTable Resolved)
    (scene : Scene W) : Prop where
  recalls : Recalls transcript scene
  former : ∀ page element resolved, carried.get? page element = some resolved →
    resolved.OfFormer (transcript scene.world)
  renewed : ∀ page element resolved, scene.handles.get? page element = some resolved →
    carried.get? page element = some resolved ∨ resolved.OfRunning (transcript scene.world)

section

variable {carried : HandleTable Resolved} {before after : Scene W}

omit [Scale T] in
theorem Dated.unlaunched (dated : Dated transcript carried before)
    (finds : Finds transcript before after)
    (same : launched (transcript after.world) = launched (transcript before.world)) :
    Dated transcript carried after := by
  have recalls := finds.recalls dated.recalls
  refine ⟨recalls, fun page element resolved held =>
    (dated.former page element resolved held).later finds.grown,
    fun page element resolved held => ?_⟩
  -- What was kept before is as it was, and what is new was found in the browser that runs.
  rcases finds.renewed page element resolved held with kept | since
  · refine (dated.renewed page element resolved kept).imp_right fun running => ?_
    rw [Resolved.OfRunning, same]
    exact finds_later running finds.grown
  · obtain ⟨browsers, found⟩ := recalls.traced page element resolved held
    rw [dated.recalls.counted] at since
    obtain rfl : browsers = _ := finds_since finds.grown same since found
    exact .inr found

omit [Scale T] in
theorem Divides.dated (divides : Divides transcript before after)
    (recalls : Recalls transcript before)
    (launch : launched (transcript after.world) ≠ launched (transcript before.world)) :
    Dated transcript after.handles after := by
  -- The browser was launched after the middle, where all that is kept had been found already.
  obtain ⟨middle, first, unlaunched, second, counted⟩ := divides
  have recallsOn := second.recalls (first.recalls recalls)
  refine ⟨recallsOn, fun page element resolved held => ?_, fun _ _ _ held => .inl held⟩
  obtain ⟨browsers, found⟩ := recallsOn.traced page element resolved held
  have same : finds (transcript middle.world) = finds (transcript after.world) :=
    (finds_grow second.grown).eq_of_length
      ((first.recalls recalls).counted.symm.trans (counted.symm.trans recallsOn.counted))
  have early := finds_le (List.mem_of_getElem? (same ▸ found))
  have more : (launched (transcript middle.world)).length <
      (launched (transcript after.world)).length := by
    refine Nat.lt_of_le_of_ne (launched_grows second.grown).length_le fun level => launch ?_
    exact ((launched_grows second.grown).eq_of_length level).symm.trans unlaunched
  exact ⟨_, found, Nat.lt_of_le_of_lt early more⟩

omit [Scale T] in
theorem Dated.ofRunning_iff (dated : Dated transcript carried after) {page element : String}
    {resolved : Resolved} (held : after.handles.get? page element = some resolved) :
    resolved.OfRunning (transcript after.world) ↔ carried.get? page element ≠ some resolved := by
  constructor
  · exact fun running carries => (dated.former page element resolved carries).not_running running
  · exact fun uncarried => (dated.renewed page element resolved held).resolve_left uncarried

end

section

variable (transcribes : scenario.world.IsTranscript transcript)
  (listens : scenario.onRestart = [Scene.dropHandles])

include transcribes listens

theorem LivedOver.dated {carried : HandleTable Resolved} {phase : Phase T} {scene : Scene W}
    (past : scenario.LivedOver transcript carried phase scene) :
    Dated transcript carried scene := by
  -- By induction on the strides, each of which has its finds before it launches a browser.
  induction past with
  | opening silent =>
    refine ⟨⟨?_, nofun⟩, nofun, nofun⟩
    rw [Scene.opening, silent]
    rfl
  | strode _ stride ih =>
    unfold carriedOver
    split
    next same =>
      have led := stride.leads (sustains_finding transcribes listens) fun _ => trivial
      exact ih.unlaunched led same
    next launch => exact (stride.divides transcribes listens).dated ih.recalls launch

omit transcribes in
theorem restartSession_handles (scene : Scene W) :
    (scenario.restartSession scene).2.handles =
      if (scenario.restartSession scene).1.passes then .empty else scene.handles := by
  have starts : scenario.startSession.Keeps Scene.handles :=
    startSession_keeps ⟨fun _ _ => rfl, fun _ _ _ => rfl⟩
  have kept := starts (countRestart scene)
  rw [restartSession_run]
  rcases ran : scenario.startSession (countRestart scene) with ⟨_ | _ | _, between⟩ <;>
    rw [ran] at kept
  · change (scenario.tellListeners between).handles = .empty
    rw [tellListeners, listens]
    rfl
  · exact kept
  · exact kept

/-! ## Where calls lead -/

theorem LivedOver.driven {carried : HandleTable Resolved} {scene : Scene W}
    (past : scenario.LivedOver transcript carried .idle scene) (call : ScenarioCall) :
    ∃ later phase, scenario.LivedOver transcript later phase (scenario.drive call scene).2 ∧
      (launched (transcript (scenario.drive call scene).2.world) =
        launched (transcript scene.world) → later = carried) ∧
      ((scenario.drive call scene).1 ≠ .stalled → phase = .idle) := by
  let onward : Phase T -> Scene W -> Prop := fun phase after =>
    ∃ later, scenario.LivedOver transcript later phase after ∧
      launched (transcript scene.world) <+: launched (transcript after.world) ∧
      (launched (transcript after.world) = launched (transcript scene.world) → later = carried)
  have strides : ∀ phase before next after, onward phase before →
      scenario.Stride phase before next after → onward next after := by
    rintro phase before next after ⟨later, past, grown, keeps⟩ stride
    have led := stride.leads (sustains_finding transcribes listens) fun _ => trivial
    have grownOn := launched_grows led.grown
    refine ⟨_, past.strode stride, grown.trans grownOn, fun same => ?_⟩
    -- Launches only ever grow in number, so there was none in this stride nor in those before.
    have between : launched (transcript before.world) = launched (transcript scene.world) :=
      (grown.eq_of_length_le (same ▸ grownOn.length_le)).symm
    rw [carriedOver, if_pos (same.trans between.symm), keeps between]
  obtain ⟨phase, ⟨later, past, -, keeps⟩, idle⟩ :=
    drive_holds strides ⟨carried, past, List.prefix_rfl, fun _ => rfl⟩ call
  exact ⟨later, phase, past, keeps, idle⟩

/-- Wherever a scenario's calls have led it, what it keeps is of the running browser exactly if none
of it was kept already when that browser was launched; and a restart is the only one to drop it. -/
theorem handles_are_of_running_browser_iff :
    (∀ carried phase scene, scenario.LivedOver transcript carried phase scene →
      (scene.session.started = true → ∃ browser, scene.session.browser = some browser ∧
        launched (transcript scene.world) = askedToClose (transcript scene.world) ++ [browser]) ∧
      ((∀ page element resolved, scene.handles.get? page element = some resolved →
          resolved.OfRunning (transcript scene.world)) ↔
        ∀ page element resolved, scene.handles.get? page element = some resolved →
          carried.get? page element ≠ some resolved)) ∧
    (∀ scene, (scenario.restartSession scene).2.handles =
        (if (scenario.restartSession scene).1.passes then .empty else scene.handles) ∧
      (scenario.start scene).2.handles = scene.handles ∧
      (scenario.close scene).2.handles = scene.handles) ∧
    ∀ carried scene call, scenario.LivedOver transcript carried .idle scene →
      ∃ later phase, scenario.LivedOver transcript later phase (scenario.drive call scene).2 ∧
        (launched (transcript (scenario.drive call scene).2.world) =
          launched (transcript scene.world) → later = carried) ∧
        ((scenario.drive call scene).1 ≠ .stalled → phase = .idle) := by
  refine ⟨fun carried phase scene past => ⟨fun started => ?_, ?_⟩, fun scene => ⟨?_, ?_, ?_⟩,
    fun carried scene call past => past.driven transcribes listens call⟩
  · obtain ⟨tended, within⟩ := past.lived.holdsOne transcribes listens
    obtain ⟨browser, held⟩ := Option.isSome_iff_exists.mp (within started)
    have balanced := tended.balanced
    rw [held] at balanced
    exact ⟨browser, held, balanced⟩
  · have dated := past.dated transcribes listens
    constructor
    · exact fun all page element resolved held =>
        (dated.ofRunning_iff held).mp (all page element resolved held)
    · exact fun none page element resolved held =>
        (dated.ofRunning_iff held).mpr (none page element resolved held)
  · exact restartSession_handles listens scene
  · exact (start_found scene).1
  · exact (close_found scene).1

end

/-! ## A session that is started again -/

/-- One check, in a browser that does as it is asked. -/
def checking : Scenario (Unit × List (Answered Rat)) Rat :=
  .standard (World.still World.willing).transcribed
    ((onePage World.willing).offering checkTest).catalog
    { Settings.plain with eventLog := false } "run" 20

def checkingFresh : Scene (Unit × List (Answered Rat)) := Scene.opening ((), []) (Files.empty "/")

def checkingOpened : Scene (Unit × List (Answered Rat)) := (checking.start checkingFresh).2

def checked : Scene (Unit × List (Answered Rat)) :=
  (checking.serve (.replay "entry" none) checkingOpened).2

theorem checked_lived : checking.LivedOver Prod.snd .empty .idle checked := by
  have opened : checking.LivedOver Prod.snd .empty .idle checkingOpened := by
    have fresh : checking.LivedOver Prod.snd .empty .idle checkingFresh := .opening rfl
    have past := fresh.strode .started
    have launch : launched (checking.start checkingFresh).2.world.2 ≠
        launched checkingFresh.world.2 := by decide +kernel
    rw [carriedOver, if_neg launch, (start_found _).1] at past
    exact past
  obtain ⟨carried, phase, past, keeps, idle⟩ := opened.driven (World.transcribed_isTranscript _)
    rfl (.serve (.replay "entry" none))
  have passes :
      (checking.drive (.serve (.replay "entry" none)) checkingOpened).1.passes = true := by
    decide +kernel
  obtain ⟨_, passed⟩ := Outcome.of_passes passes
  obtain rfl := idle fun stalled => by cases passed.symm.trans stalled
  obtain rfl := keeps (by decide +kernel)
  exact past

/-- Nothing was kept before the check, so its handle is of the browser that runs. -/
theorem checked_handle_is_of_running_browser :
    checking.LivedOver Prod.snd .empty .idle checked ∧ checked.session.started = true ∧
      ∃ resolved, checked.handles.get? "login" "user" = some resolved ∧
        resolved.OfRunning checked.world.2 := by
  have kept : (checked.handles.get? "login" "user").isSome = true := by decide +kernel
  obtain ⟨resolved, held⟩ := Option.isSome_iff_exists.mp kept
  obtain ⟨runs, -⟩ := handles_are_of_running_browser_iff (World.transcribed_isTranscript _)
    (rfl : checking.onRestart = [Scene.dropHandles])
  obtain ⟨-, running⟩ := runs .empty .idle checked checked_lived
  exact ⟨checked_lived, by decide +kernel, resolved, held, running.mpr nofun _ _ resolved held⟩

/-- The session is closed and started again, and a handle from the browser before is still kept. -/
theorem handle_outlives_its_browser :
    let scene := (checking.start (checking.close checked).2).2
    checking.Lived Prod.snd .idle scene ∧ checking.IsLive scene ⟨0⟩ ∧
      launched scene.world.2 = [⟨0⟩, ⟨0⟩] ∧ askedToClose scene.world.2 = [⟨0⟩] ∧
      ∃ resolved, scene.handles.get? "login" "user" = some resolved ∧
        resolved.OfFormer scene.world.2 ∧ ¬ resolved.OfRunning scene.world.2 := by
  intro scene
  have past := (checked_lived.strode .closed).strode .started
  have dated := past.dated (World.transcribed_isTranscript _) rfl
  have launch : launched scene.world.2 ≠ launched (checking.close checked).2.world.2 := by
    decide +kernel
  have kept : (scene.handles.get? "login" "user").isSome = true := by decide +kernel
  obtain ⟨resolved, held⟩ := Option.isSome_iff_exists.mp kept
  have former := dated.former "login" "user" resolved
    (by rw [carriedOver, if_neg launch]; exact held)
  exact ⟨past.lived, ⟨by decide +kernel, rfl⟩, by decide +kernel, by decide +kernel, resolved, held,
    former, former.not_running⟩

end Scenario

end Rehearsal
