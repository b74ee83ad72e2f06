import Rehearsal.Proofs.Time.PollHistory
import Rehearsal.Proofs.World.CallLog

/-!
Transcripts of a world: its calls in their order, each with its answer. They tell which browsers
were launched and which of those were asked to close, at the end and at any moment before it.
-/

set_option autoImplicit false

namespace Rehearsal

/-- What a scenario takes hold of, and may have to let go of. -/
inductive Resource where
  | browser
  | handle
  | producer
  | consumer
  deriving DecidableEq

def Call.resource? {T : Type} : Call T -> Option Resource
  | .launch _ _ | .closeBrowser _ => some .browser
  | .query _ .handle => some .handle
  | .newProducer _ | .stopProducer _ => some .producer
  | .newConsumer _ _ | .stopConsumer _ => some .consumer
  | _ => none

structure Answered (T : Type) where
  call : Call T
  answer : Except Fault call.Answer

namespace Answered

variable {T : Type}

def called (answered : Answered T) : Called T := Called.of answered.call answered.answer

def launched? : Answered T -> Option BrowserId
  | ⟨.launch _ _, .ok browser⟩ => some browser
  | _ => none

/-- A browser is asked to close whether or not that goes well. -/
def askedToClose? : Answered T -> Option BrowserId
  | ⟨.closeBrowser browser, _⟩ => some browser
  | _ => none

def isLaunch (answered : Answered T) : Bool :=
  match answered.call with
  | .launch _ _ => true
  | _ => false

def IsPlain (answered : Answered T) : Prop := answered.call.resource? = none

end Answered

variable {W T V : Type}

def launched (made : List (Answered T)) : List BrowserId := made.filterMap Answered.launched?

def askedToClose (made : List (Answered T)) : List BrowserId :=
  made.filterMap Answered.askedToClose?

def launches (made : List (Answered T)) : Nat := made.countP Answered.isLaunch

@[simp] theorem launched_append (made more : List (Answered T)) :
    launched (made ++ more) = launched made ++ launched more :=
  List.filterMap_append

@[simp] theorem askedToClose_append (made more : List (Answered T)) :
    askedToClose (made ++ more) = askedToClose made ++ askedToClose more :=
  List.filterMap_append

@[simp] theorem launches_append (made more : List (Answered T)) :
    launches (made ++ more) = launches made + launches more :=
  List.countP_append

theorem launched_grows {part made : List (Answered T)} (early : part <+: made) :
    launched part <+: launched made := early.filterMap _

theorem askedToClose_grows {part made : List (Answered T)} (early : part <+: made) :
    askedToClose part <+: askedToClose made := early.filterMap _

/-- Of the browsers that were launched, all but the one that is held were asked to close, in the
order that they were launched in. -/
def Balanced (made : List (Answered T)) (held : Option BrowserId) : Prop :=
  launched made = askedToClose made ++ held.toList

/-- No more than one browser is held, now and at every moment before. -/
structure Tended (made : List (Answered T)) (held : Option BrowserId) : Prop where
  balanced : Balanced made held
  always : ∀ moment, moment <+: made → ∃ held, Balanced moment held

theorem tended_nil : Tended ([] : List (Answered T)) none where
  balanced := rfl
  always moment early := by
    obtain rfl := List.prefix_nil.mp early
    exact ⟨none, rfl⟩

theorem Tended.append {made more : List (Answered T)} {held after : Option BrowserId}
    (tended : Tended made held) (balanced : Balanced (made ++ more) after)
    (between : ∀ part, part <+: more → ∃ held, Balanced (made ++ part) held) :
    Tended (made ++ more) after := by
  refine ⟨balanced, fun moment early => ?_⟩
  rcases List.prefix_or_prefix_of_prefix early (List.prefix_append made more) with before | since
  · exact tended.always moment before
  · obtain ⟨part, rfl⟩ := since
    exact between part ((List.prefix_append_right_inj made).mp early)

theorem Tended.hold {made more : List (Answered T)} {held : Option BrowserId}
    (tended : Tended made none) (unasked : askedToClose more = [])
    (holds : launched more = held.toList) : Tended (made ++ more) held := by
  have balanced : launched made = askedToClose made := by
    simpa [Balanced] using tended.balanced
  refine tended.append (by simp [Balanced, balanced, unasked, holds]) fun part early => ?_
  have none_asked : askedToClose part = [] :=
    List.prefix_nil.mp (unasked ▸ askedToClose_grows early)
  have some_held : launched part <+: held.toList := holds ▸ launched_grows early
  -- At any moment between either nothing was launched yet or the browser was.
  obtain ⟨least, same⟩ : ∃ least : Option BrowserId, launched part = least.toList := by
    cases held with
    | none => exact ⟨none, List.prefix_nil.mp some_held⟩
    | some browser =>
      rcases List.prefix_cons_iff.mp some_held with empty | ⟨rest, whole, nothing⟩
      · exact ⟨none, empty⟩
      · exact ⟨some browser, by rw [whole, List.prefix_nil.mp nothing]; rfl⟩
  exact ⟨least, by simp [Balanced, balanced, none_asked, same]⟩

theorem Tended.close {made : List (Answered T)} {browser : BrowserId} {answer : Except Fault Unit}
    (tended : Tended made (some browser)) :
    Tended (made ++ [⟨.closeBrowser browser, answer⟩]) none := by
  have closed : Balanced (made ++ [⟨.closeBrowser browser, answer⟩]) none := by
    rw [Balanced, launched_append, askedToClose_append, tended.balanced, List.append_assoc,
      List.append_assoc]
    rfl
  refine tended.append closed fun part early => ?_
  rcases List.prefix_cons_iff.mp early with rfl | ⟨rest, rfl, nothing⟩
  · exact ⟨some browser, by simpa using tended.balanced⟩
  · exact ⟨none, by rw [List.prefix_nil.mp nothing]; exact closed⟩

/-- No browser is launched or asked to close, and none is tried to launch. -/
structure Aside (made : List (Answered T)) : Prop where
  unlaunched : launched made = []
  unasked : askedToClose made = []
  uncounted : launches made = 0

theorem aside_of_resource {made : List (Answered T)}
    (apart : ∀ answered ∈ made, answered.call.resource? ≠ some .browser) : Aside made := by
  have each : ∀ answered ∈ made, answered.launched? = none ∧ answered.askedToClose? = none ∧
      answered.isLaunch = false := by
    rintro ⟨call, answer⟩ member
    have other := apart _ member
    cases call <;> first | exact ⟨rfl, rfl, rfl⟩ | exact absurd rfl other
  refine ⟨List.filterMap_eq_nil_iff.mpr fun answered member => (each answered member).1,
    List.filterMap_eq_nil_iff.mpr fun answered member => (each answered member).2.1,
    List.countP_eq_zero.mpr fun answered member => ?_⟩
  simp [(each answered member).2.2]

theorem aside_of_plain {made : List (Answered T)}
    (plain : ∀ answered ∈ made, answered.IsPlain) : Aside made := by
  refine aside_of_resource fun answered member concerns => ?_
  cases (plain answered member).symm.trans concerns

theorem Tended.aside {made more : List (Answered T)} {held : Option BrowserId}
    (tended : Tended made held) (aside : Aside more) : Tended (made ++ more) held := by
  have same : ∀ part, part <+: more → Balanced (made ++ part) held := by
    intro part early
    have unlaunched := List.prefix_nil.mp (aside.unlaunched ▸ launched_grows early)
    have unasked := List.prefix_nil.mp (aside.unasked ▸ askedToClose_grows early)
    rw [Balanced, launched_append, askedToClose_append, unlaunched, unasked, List.append_nil,
      List.append_nil]
    exact tended.balanced
  exact tended.append (same more List.prefix_rfl) fun part early => ⟨held, same part early⟩

namespace World

structure IsTranscript (world : World W T) (transcript : W -> List (Answered T)) : Prop where
  performed : ∀ call state,
    transcript (world.perform call state).2 =
      transcript state ++ [⟨call, (world.perform call state).1⟩]
  slept : ∀ span state, transcript (world.clock.sleep span state) = transcript state

def transcribed (world : World W T) : World (W × List (Answered T)) T where
  clock :=
    { now := fun state => world.clock.now state.1
      sleep := fun span state => (world.clock.sleep span state.1, state.2) }
  isClosed := fun state => world.isClosed state.1
  url := fun state => world.url state.1
  today := world.today
  perform := fun call state =>
    let (answer, after) := world.perform call state.1
    (answer, after, state.2 ++ [⟨call, answer⟩])

theorem transcribed_isTranscript (world : World W T) :
    world.transcribed.IsTranscript Prod.snd where
  performed := fun _ _ => rfl
  slept := fun _ _ => rfl

end World

namespace Scenario

variable {scenario : Scenario W T} {transcript : W -> List (Answered T)}

theorem call_answered (transcribes : scenario.world.IsTranscript transcript) (call : Call T)
    (scene : Scene W) :
    (∃ answer world, scenario.call call scene = (.ok answer, { scene with world }) ∧
        transcript world = transcript scene.world ++ [⟨call, .ok answer⟩]) ∨
      ∃ fault world, scenario.call call scene = (.failed (.fault fault), { scene with world }) ∧
        transcript world = transcript scene.world ++ [⟨call, .error fault⟩] := by
  have performed := transcribes.performed call scene.world
  unfold Scenario.call
  split
  next answer world ran =>
    rw [ran] at performed
    exact .inl ⟨answer, world, rfl, performed⟩
  next fault world ran =>
    rw [ran] at performed
    exact .inr ⟨fault, world, rfl, performed⟩

/-! ## What is added to a transcript -/

variable {kind : Answered T -> Prop} {view : Scene W -> V}

theorem call_adding (transcribes : scenario.world.IsTranscript transcript)
    (worldless : ∀ scene world, view { scene with world } = view scene) (call : Call T)
    (allowed : ∀ answer, kind ⟨call, answer⟩) :
    (scenario.call call).Follows (adding transcript kind view) := by
  intro scene
  refine ⟨?_, fun _ _ => trivial⟩
  rcases call_answered transcribes call scene with ⟨_, _, ran, grown⟩ | ⟨_, _, ran, grown⟩ <;>
    rw [ran] <;> exact ⟨worldless _ _, _, grown, by simpa using allowed _⟩

/-! ## What a transcript tells -/

open Activity

variable {A B : Type} {law : List (Answered T) -> Outcome A -> Prop}

/-- Wherever an activity starts, what it adds to the transcript fits with how it ends. -/
def Tells (transcript : W -> List (Answered T)) (law : List (Answered T) -> Outcome A -> Prop)
    (activity : Activity (Scene W) A) : Prop :=
  ∀ scene, ∃ made, transcript (activity scene).2.world = transcript scene.world ++ made ∧
    law made (activity scene).1

theorem Tells.mono {weaker : List (Answered T) -> Outcome A -> Prop}
    {activity : Activity (Scene W) A} (tells : Tells transcript law activity)
    (implied : ∀ made outcome, law made outcome → weaker made outcome) :
    Tells transcript weaker activity := by
  intro scene
  obtain ⟨made, grown, told⟩ := tells scene
  exact ⟨made, grown, implied _ _ told⟩

theorem tells_pure {value : A} (told : law [] (.ok value)) : Tells transcript law (pure value) :=
  fun _ => ⟨[], (List.append_nil _).symm, told⟩

theorem tells_throw {failure : Failure} (told : law [] (.failed failure)) :
    Tells transcript law (throw failure) :=
  fun _ => ⟨[], (List.append_nil _).symm, told⟩

/-- The law of what follows is that of the whole, for what was added before. -/
theorem tells_bind {before : List (Answered T) -> Outcome B -> Prop}
    {first : Activity (Scene W) B} {next : B -> Activity (Scene W) A}
    (begins : Tells transcript before first)
    (passed : ∀ made value, before made (.ok value) →
      Tells transcript (fun more => law (made ++ more)) (next value))
    (failed : ∀ made failure, before made (.failed failure) → law made (.failed failure))
    (stalled : ∀ made, before made .stalled → law made .stalled) :
    Tells transcript law (first >>= next) := by
  intro scene
  obtain ⟨made, grown, told⟩ := begins scene
  rw [bind_run]
  rcases ran : first scene with ⟨value | failure | _, between⟩ <;> rw [ran] at grown told
  · obtain ⟨more, grownOn, toldOn⟩ := passed made value told between
    exact ⟨made ++ more, by rw [grownOn, grown, List.append_assoc], toldOn⟩
  · exact ⟨made, grown, failed made failure told⟩
  · exact ⟨made, grown, stalled made told⟩

variable (transcribes : scenario.world.IsTranscript transcript)

include transcribes

theorem tells_call_bind {call : Call T} {next : call.Answer -> Activity (Scene W) A}
    (passed : ∀ answer,
      Tells transcript (fun more => law (⟨call, .ok answer⟩ :: more)) (next answer))
    (refused : ∀ fault, law [⟨call, .error fault⟩] (.failed (.fault fault))) :
    Tells transcript law (scenario.call call >>= next) := by
  intro scene
  rw [bind_run]
  rcases call_answered transcribes call scene with
    ⟨answer, world, ran, grown⟩ | ⟨fault, world, ran, grown⟩
  · obtain ⟨more, grownOn, told⟩ := passed answer { scene with world }
    rw [ran]
    exact ⟨_, by rw [grownOn, grown, List.append_assoc, List.singleton_append], told⟩
  · rw [ran]
    exact ⟨_, grown, refused fault⟩

theorem tells_call {call : Call T} {law : List (Answered T) -> Outcome call.Answer -> Prop}
    (answered : ∀ answer, law [⟨call, .ok answer⟩] (.ok answer))
    (refused : ∀ fault, law [⟨call, .error fault⟩] (.failed (.fault fault))) :
    Tells transcript law (scenario.call call) := by
  intro scene
  rcases call_answered transcribes call scene with
    ⟨answer, world, ran, grown⟩ | ⟨fault, world, ran, grown⟩
  · rw [ran]
    exact ⟨_, grown, answered answer⟩
  · rw [ran]
    exact ⟨_, grown, refused fault⟩

/-- The looks of a polling before the last were in vain, and what the last one comes to decides what
the polling does. -/
theorem tells_polling [Scale T] {polling : Polling T} {fuel : Nat}
    {probe : Activity (Scene W) (Option A)} {looked : List (Answered T) -> Sight A -> Prop}
    (looks : ∀ {state finding after}, Polling.Finds probe state finding after →
      ∃ made, transcript after.world = transcript state.world ++ made ∧ looked made finding)
    (ends : ∀ state, (probe state).1 ≠ .stalled)
    (vain : ∀ {made finding}, looked made finding → finding.isVain = true →
      ∀ answered ∈ made, kind answered)
    (concludes : ∀ {made last finding} latest, (∀ answered ∈ made, kind answered) →
      looked last finding → law (made ++ last) (polling.verdict latest finding))
    (spent : ∀ {made}, (∀ answered ∈ made, kind answered) → law made .stalled) :
    Tells transcript law (polling.run scenario.clock fuel probe) := by
  intro scene
  have earlier : ∀ {deadline earlier final},
      polling.Looks scenario.clock probe deadline scene earlier final →
      ∃ made, transcript final.world = transcript scene.world ++ made ∧
        ∀ answered ∈ made, kind answered := by
    intro deadline earlier final before
    refine before.notes (transcript ·.world)
      (fun span state => transcribes.slept span state.world) fun found missed => ?_
    obtain ⟨made, grown, looked⟩ := looks found
    exact ⟨made, grown, vain looked missed⟩
  rcases polling.run_of_history scenario.clock fuel probe scene with
    ⟨_, last, final, ending, -, ran⟩ | ⟨_, final, breaks, ran⟩
  · obtain ⟨made, grown, kinds⟩ := earlier ending.looks
    obtain ⟨more, grownOn, looked⟩ := looks ending.finds
    rw [ran]
    exact ⟨made ++ more, by rw [grownOn, grown, List.append_assoc], concludes _ kinds looked⟩
  · rw [ran]
    cases breaks with
    | spent before _ =>
      obtain ⟨made, grown, kinds⟩ := earlier before
      exact ⟨made, grown, spent kinds⟩
    | hung before within hung => exact absurd (congrArg Prod.fst hung) (ends _)

end Scenario

end Rehearsal
