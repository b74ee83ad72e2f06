import Rehearsal.Proofs.Scenario.Confirming
import Rehearsal.Proofs.Scenario.Lifetime
import Rehearsal.Proofs.Scenario.Fallback

/-!
Interactions that change what a field or a list shows. An element is made ready first, then it is
changed, and then the page is asked for the change until it shows it or the time for that is up.
What the calls of an interaction tell about its end is the same on every page.
-/

set_option autoImplicit false

namespace Rehearsal

open Activity

def Call.changes {T : Type} : Call T -> Bool
  | .act _ (.fill _ _) | .act _ (.clear _) | .act _ (.select _ _ _) => true
  | _ => false

def Answered.IsChange {T : Type} (answered : Answered T) : Prop := answered.call.changes = true

inductive Mutation where
  | fill (value : String)
  | clear
  | select (label : String)

namespace Mutation

def ofOperation? (value : String) : Operation -> Option Mutation
  | .enterText => some (.fill value)
  | .clear => some .clear
  | .selectOption => some (.select value)
  | _ => none

@[reducible] def asked : Mutation -> Query
  | .fill _ | .clear => .inputValue
  | .select _ => .selection

def shows : (mutation : Mutation) -> mutation.asked.Answer -> Bool
  | .fill value, shown => shown == value
  | .clear, shown => shown == ""
  | .select label, shown => (shown.map Text.trim).contains label

def awaited : Mutation -> String
  | .fill value => s!"value '{value}'"
  | .clear => "empty value"
  | .select label => s!"option '{label}'"

variable {W T : Type} (scenario : Scenario W T) (target : Target)

def change (limit : Quantity T) : Mutation -> Activity (Scene W) Unit
  | .fill value => do
    scenario.act target (.fill "" limit)
    scenario.act target (.fill value limit)
  | .clear => scenario.act target (.clear limit)
  | .select label =>
    Scenario.orElse (scenario.act target (.select .label label limit))
      (scenario.act target (.select .value label limit))

def make (limit : Quantity T) (mutation : Mutation) : Activity (Scene W) Unit := do
  scenario.prepare target limit
  mutation.change scenario target limit

def test (mutation : Mutation) : Activity (Scene W) Bool := do
  return mutation.shows (← scenario.ask target mutation.asked)

variable [Scale T] (patience : Patience T) (timeout : T)

def run : Mutation -> Activity (Scene W) Unit
  | .fill value => scenario.fillField target value patience timeout
  | .clear => scenario.clearField target patience timeout
  | .select label => scenario.selectOption target label patience timeout

def polling (timeout : T) (mutation : Mutation) : Polling T :=
  { timeout, interval := Scale.earlier Polling.defaultInterval timeout
    awaited := s!"element to show {mutation.awaited}", kind := .mutationNotConfirmed }

theorem run_eq (mutation : Mutation) :
    mutation.run scenario target patience timeout =
      mutation.make scenario target patience.limit >>= fun _ =>
        (mutation.polling timeout).test scenario.clock scenario.fuel
          (mutation.test scenario target) := by
  cases mutation with
  | fill value =>
    simp only [make, change, bind_assoc]
    rfl
  | clear | select label =>
    simp only [make, bind_assoc]
    rfl

end Mutation

/-! ## What the calls tell -/

/-- The calls that make an element ready, as they have to be answered. -/
def readied {T : Type} (target : Target) (limit : Quantity T) : List (Answered T) :=
  [⟨.act target (.waitFor .attached limit), .ok ()⟩, ⟨.act target (.scrollIntoView limit), .ok ()⟩,
   ⟨.act target (.waitFor .visible limit), .ok ()⟩, ⟨.query target .isEnabled, .ok true⟩]

section

variable {T : Type}

structure Readies (target : Target) (limit : Quantity T) (made : List (Answered T))
    (outcome : Outcome Unit) : Prop where
  idle : ∀ answered ∈ made, ¬ answered.IsChange
  ready : outcome = .ok () → made = readied target limit
  disabled : ⟨.query target .isEnabled, .ok false⟩ ∈ made → outcome = .failed .elementDisabled

structure Changes (target : Target) (made : List (Answered T)) (outcome : Outcome Unit) :
    Prop where
  each : ∀ answered ∈ made, answered.IsChange ∧ ∃ deed, answered.call = .act target deed
  last : ∃ before last, made = before ++ [last] ∧
    (outcome = .ok () ∧ last.called.fault? = none ∨
      (∃ failure, outcome = .failed failure) ∧ last.called.fault? ≠ none)

/-- An answer by which the page shows a change. -/
def Mutation.ShownBy (mutation : Mutation) (target : Target) (answered : Answered T) : Prop :=
  ∃ shown, answered = ⟨.query target mutation.asked, .ok shown⟩ ∧ mutation.shows shown = true

/-- What a look for a change comes to. -/
def Mutation.Spots (mutation : Mutation) (target : Target) (made : List (Answered T))
    (finding : Sight Unit) : Prop :=
  ∃ answered, made = [answered] ∧ answered.call = .query target mutation.asked ∧
    (mutation.ShownBy target answered ↔ finding = .found ()) ∧
    (answered.called.IsLost ↔ ∃ failure, finding = .lost failure)

structure Mutation.Misses (mutation : Mutation) (target : Target) (answered : Answered T) :
    Prop where
  asked : answered.call = .query target mutation.asked
  unshown : ¬ mutation.ShownBy target answered
  live : ¬ answered.called.IsLost

theorem Mutation.Spots.misses {mutation : Mutation} {target : Target} {made : List (Answered T)}
    {finding : Sight Unit} (spots : mutation.Spots target made finding)
    (vain : finding.isVain = true) : ∀ answered ∈ made, mutation.Misses target answered := by
  obtain ⟨answered, rfl, call, shown, lost⟩ := spots
  refine List.forall_mem_singleton.mpr ⟨call, ?_, ?_⟩
  · rw [shown]
    rintro rfl
    cases vain
  · rw [lost]
    rintro ⟨failure, rfl⟩
    cases vain

structure Confirms (mutation : Mutation) (target : Target) (probes : List (Answered T))
    (outcome : Outcome Unit) : Prop where
  asked : ∀ probe ∈ probes, probe.call = .query target mutation.asked
  shown : outcome = .ok () → ∃ probe ∈ probes, mutation.ShownBy target probe
  unshown : (∀ probe ∈ probes, ¬ mutation.ShownBy target probe ∧ ¬ probe.called.IsLost) →
    outcome ≠ .stalled → ∃ failure, outcome = .failed failure ∧
      failure.kind? = some .mutationNotConfirmed

/-- What the calls of an interaction tell about its end. -/
structure Interacts (mutation : Mutation) (target : Target) (limit : Quantity T)
    (made : List (Answered T)) (outcome : Outcome Unit) : Prop where
  prepared : ∀ {before change after}, made = before ++ change :: after → change.IsChange →
    (∃ deed, change.call = .act target deed) ∧ readied target limit <+: before
  disabled : ⟨.query target .isEnabled, .ok false⟩ ∈ made →
    (∀ answered ∈ made, ¬ answered.IsChange) ∧ ∃ failure, outcome = .failed failure ∧
      failure.kind? = some .execution ∧ failure.code? = some "ELEMENT_DISABLED"
  shown : outcome = .ok () → ∃ before last probes, made = before ++ last :: probes ∧
    last.IsChange ∧ (∀ probe ∈ probes, ¬ probe.IsChange) ∧
      ∃ probe ∈ probes, mutation.ShownBy target probe
  unshown : ∀ {before last probes}, made = before ++ last :: probes → last.IsChange →
    (∀ probe ∈ probes, ¬ probe.IsChange) → last.called.fault? = none →
      (∀ probe ∈ probes, ¬ mutation.ShownBy target probe ∧ ¬ probe.called.IsLost) →
        outcome ≠ .stalled → ∃ failure, outcome = .failed failure ∧
          failure.kind? = some .mutationNotConfirmed

variable {target : Target} {limit : Quantity T} {made more : List (Answered T)}
  {outcome : Outcome Unit} {mutation : Mutation}

theorem readied_idle : ∀ answered ∈ readied target limit, ¬ answered.IsChange := by
  simp [readied, Answered.IsChange, Call.changes]

theorem Readies.of_fault {fault : Fault} (idle : ∀ answered ∈ made, ¬ answered.IsChange)
    (undenied : ⟨.query target .isEnabled, .ok false⟩ ∉ made) :
    Readies target limit made (.failed (.fault fault)) where
  idle := idle
  ready := nofun
  disabled denied := absurd denied undenied

namespace Scenario

variable {W : Type} {scenario : Scenario W T} {transcript : W -> List (Answered T)}
  (transcribes : scenario.world.IsTranscript transcript)

include transcribes

theorem prepare_tells (target : Target) (limit : Quantity T) :
    Tells transcript (Readies target limit) (scenario.prepare target limit) := by
  -- Each of the four calls may be refused; only the last has two answers.
  refine tells_call_bind transcribes (fun _ => ?_) fun fault => ?_
  refine tells_call_bind transcribes (fun _ => ?_) fun fault => ?_
  refine tells_call_bind transcribes (fun _ => ?_) fun fault => ?_
  refine tells_call_bind transcribes (fun enabled => ?_) fun fault => ?_
  · cases enabled with
    | true =>
      refine tells_pure ⟨readied_idle, fun _ => rfl, fun denied => ?_⟩
      simp at denied
    | false =>
      refine tells_throw ⟨?_, nofun, fun _ => rfl⟩
      simp [Answered.IsChange, Call.changes]
  all_goals
    refine .of_fault ?_ ?_
    · simp [Answered.IsChange, Call.changes]
    · simp

end Scenario

theorem Changes.one {deed : Deed T} {answer : Except Fault (Call.act target deed).Answer}
    (changes : (Call.act target deed).changes = true)
    (ended : outcome = .ok () ∧ answer = .ok () ∨
      ∃ fault, outcome = .failed (.fault fault) ∧ answer = .error fault) :
    Changes target [⟨.act target deed, answer⟩] outcome where
  each := by
    intro answered member
    obtain rfl := List.mem_singleton.mp member
    exact ⟨changes, deed, rfl⟩
  last := by
    refine ⟨[], _, rfl, ?_⟩
    rcases ended with ⟨rfl, rfl⟩ | ⟨fault, rfl, rfl⟩
    · exact .inl ⟨rfl, rfl⟩
    · exact .inr ⟨⟨_, rfl⟩, nofun⟩

theorem Changes.after {earlier : Answered T} (rest : Changes target made outcome)
    (changes : earlier.IsChange ∧ ∃ deed, earlier.call = .act target deed) :
    Changes target (earlier :: made) outcome where
  each := List.forall_mem_cons.mpr ⟨changes, rest.each⟩
  last := by
    obtain ⟨before, last, rfl, ended⟩ := rest.last
    exact ⟨earlier :: before, last, rfl, ended⟩

namespace Scenario

variable {W : Type} {scenario : Scenario W T} {transcript : W -> List (Answered T)}
  (transcribes : scenario.world.IsTranscript transcript)

include transcribes

theorem act_tells {deed : Deed T} (changes : (Call.act target deed).changes = true) :
    Tells transcript (Changes target) (scenario.act target deed) :=
  tells_call transcribes (fun _ => .one changes (.inl ⟨rfl, rfl⟩))
    fun fault => .one changes (.inr ⟨fault, rfl, rfl⟩)

omit transcribes in
theorem orElse_tells {law : List (Answered T) -> Outcome Unit -> Prop}
    {first second : Activity (Scene W) Unit} (tells : Tells transcript law first)
    (missed : ∀ made failure, law made (.failed failure) →
      Tells transcript (fun more => law (made ++ more)) second) :
    Tells transcript law (orElse first second) := by
  intro scene
  obtain ⟨made, grown, told⟩ := tells scene
  rw [orElse, bind_run, attempt_run]
  rcases ran : first scene with ⟨_ | failure | _, between⟩ <;> rw [ran] at grown told
  · exact ⟨made, grown, told⟩
  · by_cases lost : failure.isSessionLost = true
    · simp only [lost, if_true, throw_run]
      exact ⟨made, grown, told⟩
    · simp only [lost]
      obtain ⟨more, grownOn, toldOn⟩ := missed made failure told between
      exact ⟨made ++ more, by rw [← List.append_assoc, ← grown]; exact grownOn, toldOn⟩
  · exact ⟨made, grown, told⟩

theorem change_tells (target : Target) (limit : Quantity T) (mutation : Mutation) :
    Tells transcript (Changes target) (mutation.change scenario target limit) := by
  cases mutation with
  | fill value =>
    refine tells_call_bind transcribes (fun _ => ?_) fun fault => ?_
    · refine (act_tells transcribes rfl).mono fun made outcome changes => ?_
      exact changes.after ⟨rfl, _, rfl⟩
    · exact .one rfl (.inr ⟨fault, rfl, rfl⟩)
  | clear => exact act_tells transcribes rfl
  | select label =>
    refine orElse_tells (act_tells transcribes rfl) fun made failure earlier => ?_
    refine (act_tells transcribes rfl).mono fun more outcome changes => ?_
    -- What came before the last call is no matter.
    obtain ⟨before, last, rfl, ended⟩ := changes.last
    exact ⟨List.forall_mem_append.mpr ⟨earlier.each, changes.each⟩,
      made ++ before, last, (List.append_assoc ..).symm, ended⟩

/-! ### Looks for a change -/

omit transcribes in
theorem test_after (scenario : Scenario W T) (target : Target) (mutation : Mutation)
    (scene : Scene W) :
    (mutation.test scenario target scene).1 ≠ .stalled ∧
      (mutation.test scenario target scene).2.world =
        (scenario.world.perform (.query target mutation.asked) scene.world).2 := by
  have asked := scenario.ask_after target mutation.asked scene
  rw [Mutation.test, bind_run]
  rcases ran : scenario.ask target mutation.asked scene with ⟨_ | _ | _, after⟩ <;>
    rw [ran] at asked
  · exact ⟨Outcome.ok_ne_stalled _, asked.2⟩
  · exact ⟨Outcome.failed_ne_stalled _, asked.2⟩
  · exact absurd rfl asked.1

theorem test_tells (target : Target) (mutation : Mutation) :
    Tells transcript (fun made outcome => ∃ answered, made = [answered] ∧
        answered.call = .query target mutation.asked ∧
        (mutation.ShownBy target answered ↔ outcome = .ok true) ∧
        (answered.called.IsLost ↔ ∃ failure, outcome = .failed failure ∧
          failure.isSessionLost = true))
      (mutation.test scenario target) := by
  refine tells_call_bind transcribes (fun shown => tells_pure ?_) fun fault => ?_
  · refine ⟨_, rfl, rfl, ?_, ?_⟩
    · simp [Mutation.ShownBy]
    · simp [Called.IsLost, Answered.called, Called.of]
  · refine ⟨_, rfl, rfl, ?_, ?_⟩
    · simp [Mutation.ShownBy]
    · simp [Called.IsLost, Answered.called, Called.of]

theorem look_tells {state after : Scene W} {finding : Sight Unit}
    (found : Polling.Finds (Polling.probing (mutation.test scenario target)) state finding after) :
    ∃ made, transcript after.world = transcript state.world ++ made ∧
      mutation.Spots target made finding := by
  obtain ⟨made, grown, answered, one, call, shown, lost⟩ :=
    test_tells transcribes target mutation state
  have same : after = (mutation.test scenario target state).2 := by
    rw [← found.after, (Polling.probing_after ..).2]
  exact ⟨made, same ▸ grown, answered, one, call, shown.trans found.found_iff.symm,
    lost.trans found.lost_iff.symm⟩

theorem confirm_tells [Scale T] (target : Target) (timeout : T) (mutation : Mutation) :
    Tells transcript (Confirms mutation target)
      ((mutation.polling timeout).test scenario.clock scenario.fuel
        (mutation.test scenario target)) := by
  intro scene
  rw [Polling.test_eq_run]
  have ends (state : Scene W) :
      (Polling.probing (mutation.test scenario target) state).1 ≠ .stalled :=
    mt (Polling.probing_after ..).1.mp (scenario.test_after target mutation state).1
  refine tells_polling transcribes (look_tells transcribes) ends Mutation.Spots.misses ?_ ?_ scene
  · rintro made _ finding latest misses ⟨answered, rfl, call, shown, lost⟩
    refine ⟨?_, ?_, ?_⟩
    · exact List.forall_mem_append.mpr
        ⟨fun probe member => (misses probe member).asked, List.forall_mem_singleton.mpr call⟩
    · intro passed
      refine ⟨answered, by simp, shown.mpr ?_⟩
      -- A polling passes only with what its last look found.
      cases finding with
      | found value => rfl
      | nothing | erred failure | lost failure => simp [Polling.verdict] at passed
    · intro unshown unstalled
      have last_unshown := unshown answered (by simp)
      cases finding with
      | found value => exact absurd (shown.mpr rfl) last_unshown.1
      | lost failure => exact absurd (lost.mpr ⟨failure, rfl⟩) last_unshown.2
      | nothing | erred failure => exact ⟨_, rfl, rfl⟩
  · intro made misses
    refine ⟨fun probe member => (misses probe member).asked, ?_, fun _ ended => absurd rfl ended⟩
    rintro ⟨⟩

end Scenario

end

/-! ## Whole interactions -/

section

variable {T : Type} {target : Target} {limit : Quantity T} {mutation : Mutation}
  {made changes probes : List (Answered T)} {outcome : Outcome Unit}

theorem last_change_unique {before others after rest : List (Answered T)}
    {last other : Answered T} (same : before ++ last :: after = others ++ other :: rest)
    (change : last.IsChange) (idle : ∀ answered ∈ after, ¬ answered.IsChange)
    (changeToo : other.IsChange) (idleToo : ∀ answered ∈ rest, ¬ answered.IsChange) :
    before = others ∧ last = other ∧ after = rest := by
  -- If they were apart, one of the changes would be among what follows the other.
  rcases List.append_eq_append_iff.mp same with ⟨between, rfl, split⟩ | ⟨between, rfl, split⟩ <;>
    rcases List.cons_eq_append_iff.mp split with ⟨rfl, met⟩ | ⟨more, rfl, rfl⟩
  · cases met
    exact ⟨(List.append_nil _).symm, rfl, rfl⟩
  · exact absurd changeToo (idle other (by simp))
  · cases met
    exact ⟨List.append_nil _, rfl, rfl⟩
  · exact absurd change (idleToo last (by simp))

theorem readied_first {more before after : List (Answered T)} {change : Answered T}
    (same : readied target limit ++ more = before ++ change :: after) (changes : change.IsChange) :
    change ∈ more ∧ readied target limit <+: before := by
  rcases List.append_eq_append_iff.mp same with ⟨between, rfl, rfl⟩ | ⟨between, split, rest⟩
  · exact ⟨by simp, List.prefix_append _ _⟩
  · rcases List.cons_eq_append_iff.mp rest with ⟨rfl, rfl⟩ | ⟨_, rfl, -⟩
    · exact ⟨by simp, (split.trans (List.append_nil _)) ▸ List.prefix_rfl⟩
    · have early : change ∈ readied target limit := by simp [split]
      exact absurd changes (readied_idle change early)

theorem Interacts.of_unready (readies : Readies target limit made outcome)
    (unready : outcome ≠ .ok ()) : Interacts mutation target limit made outcome where
  prepared same change := absurd change (readies.idle _ (by simp [same]))
  disabled denied := ⟨readies.idle, _, readies.disabled denied, rfl, rfl⟩
  shown passed := absurd passed unready
  unshown same change := absurd change (readies.idle _ (by simp [same]))

theorem Interacts.of_parts {before : List (Answered T)} {last : Answered T}
    (each : ∀ answered ∈ before ++ [last],
      answered.IsChange ∧ ∃ deed, answered.call = .act target deed)
    (asked : ∀ probe ∈ probes, probe.call = .query target mutation.asked)
    (shown : outcome = .ok () → ∃ probe ∈ probes, mutation.ShownBy target probe)
    (unshown : last.called.fault? = none →
      (∀ probe ∈ probes, ¬ mutation.ShownBy target probe ∧ ¬ probe.called.IsLost) →
        outcome ≠ .stalled → ∃ failure, outcome = .failed failure ∧
          failure.kind? = some .mutationNotConfirmed) :
    Interacts mutation target limit (readied target limit ++ (before ++ last :: probes))
      outcome := by
  have changed := (each last (by simp)).1
  have idle : ∀ probe ∈ probes, ¬ probe.IsChange := by
    intro probe member
    simp [Answered.IsChange, asked probe member, Call.changes]
  refine ⟨?_, ?_, ?_, ?_⟩
  · intro earlier change after same changes
    obtain ⟨member, ready⟩ := readied_first same changes
    refine ⟨?_, ready⟩
    rw [List.append_cons, List.mem_append] at member
    rcases member with member | late
    · exact (each change member).2
    · exact absurd changes (idle change late)
  · intro denied
    -- The element was enabled, and nothing else asks for that.
    rw [List.append_cons, List.mem_append, List.mem_append] at denied
    rcases denied with early | changing | late
    · simp [readied] at early
    · obtain ⟨-, deed, call⟩ := each _ changing
      cases call
    · have call := asked _ late
      cases mutation <;> cases call
  · intro passed
    exact ⟨readied target limit ++ before, last, probes, (List.append_assoc ..).symm, changed, idle,
      shown passed⟩
  · intro earlier other rest same changes others succeeded silent unstalled
    rw [← List.append_assoc] at same
    obtain ⟨-, rfl, rfl⟩ := last_change_unique same changed idle changes others
    exact unshown succeeded silent unstalled

theorem Interacts.of_refused (changed : Changes target changes outcome)
    (refused : outcome ≠ .ok ()) :
    Interacts mutation target limit (readied target limit ++ changes) outcome := by
  obtain ⟨before, last, rfl, ⟨passed, -⟩ | ⟨-, faulty⟩⟩ := changed.last
  · exact absurd passed refused
  · exact .of_parts changed.each (List.forall_mem_nil _) (fun passed => absurd passed refused)
      fun succeeded => absurd succeeded faulty

theorem Interacts.of_confirms (changed : Changes target changes (.ok ()))
    (confirms : Confirms mutation target probes outcome) :
    Interacts mutation target limit (readied target limit ++ changes ++ probes) outcome := by
  obtain ⟨before, last, rfl, -⟩ := changed.last
  rw [List.append_assoc, ← List.append_cons]
  exact .of_parts changed.each confirms.asked confirms.shown fun _ => confirms.unshown

namespace Scenario

variable {W : Type} {scenario : Scenario W T} {transcript : W -> List (Answered T)}
  (transcribes : scenario.world.IsTranscript transcript)

include transcribes

theorem make_tells (target : Target) (limit : Quantity T) (mutation : Mutation) :
    Tells transcript (fun made outcome =>
        Readies target limit made outcome ∧ outcome ≠ .ok () ∨
          ∃ changes, made = readied target limit ++ changes ∧ Changes target changes outcome)
      (mutation.make scenario target limit) := by
  refine tells_bind (prepare_tells transcribes target limit) ?_ ?_ ?_
  · intro made _ readies
    obtain rfl := readies.ready rfl
    exact (change_tells transcribes target limit mutation).mono
      fun changes outcome changed => .inr ⟨changes, rfl, changed⟩
  · exact fun made failure readies => .inl ⟨readies, nofun⟩
  · exact fun made readies => .inl ⟨readies, nofun⟩

theorem run_tells [Scale T] (target : Target) (patience : Patience T) (timeout : T)
    (mutation : Mutation) :
    Tells transcript (Interacts mutation target patience.limit)
      (mutation.run scenario target patience timeout) := by
  rw [Mutation.run_eq]
  refine tells_bind (make_tells transcribes target patience.limit mutation) ?_ ?_ ?_
  · rintro made _ (⟨-, unready⟩ | ⟨changes, rfl, changed⟩)
    · exact absurd rfl unready
    · exact (confirm_tells transcribes target timeout mutation).mono
        fun probes outcome confirms => .of_confirms changed confirms
  · rintro made failure (⟨readies, unready⟩ | ⟨changes, rfl, changed⟩)
    · exact .of_unready readies unready
    · exact .of_refused changed nofun
  · rintro made (⟨readies, unready⟩ | ⟨changes, rfl, changed⟩)
    · exact .of_unready readies unready
    · exact .of_refused changed nofun

end Scenario

end

/-! ## Records -/

section

variable {W T : Type} [Scale T] {scenario : Scenario W T} {transcript : W -> List (Answered T)}
  {mutation : Mutation} {action : Action} {row : Option Row} {scene final : Scene W}
  {outcome : StepOutcome}

theorem Scenario.perform_mutates
    (mutates : Mutation.ofOperation? (scenario.valueFor action row) action.operation =
      some mutation) :
    ∃ details, scenario.perform action row =
      scenario.onElement action.header row details fun target patience =>
        mutation.run scenario target patience scenario.confirmTimeout := by
  cases kind : action.operation <;> rw [kind] at mutates <;> cases mutates <;>
    exact ⟨_, by rw [perform, kind]; rfl⟩

theorem Scenario.takeAction_shown (transcribes : scenario.world.IsTranscript transcript)
    (mutates : Mutation.ofOperation? (scenario.valueFor action row) action.operation =
      some mutation)
    (ran : scenario.takeAction action row scene = (.ok outcome, final)) :
    ∃ resolved made, outcome.resolved = some resolved ∧
      transcript final.world = transcript scene.world ++ made ∧
      ∃ probe ∈ made, mutation.ShownBy resolved.target probe := by
  obtain ⟨details, performs⟩ := perform_mutates mutates
  rw [takeAction, prepared_eq, performs] at ran
  obtain ⟨_, ready, prepared, ran⟩ := (bind_ok ..).mp ran
  obtain ⟨resolved, found, looked, ran⟩ := (bind_ok ..).mp ran
  obtain ⟨_, live, lived, ran⟩ := (bind_ok ..).mp ran
  obtain ⟨_, changed, interacted, reported⟩ := (bind_ok ..).mp ran
  cases reported
  -- What comes before the interaction adds to the transcript as well.
  let conduct := adding transcript (fun _ => True) (Scene.session (W := W))
  have admits : scenario.Admits conduct :=
    (permits_adding transcribes Scene.blind_session fun _ _ => trivial).admits
  have allows : scenario.AllowsLookup conduct action.header true := fun _ _ _ => trivial
  have prepares := (prepared_follows admits allows row (follows_pure ())).of_run prepared
  have looks := (resolveFor_follows admits (fun _ _ => trivial) row).of_run looked
  have lives := (follows_discard (livePage_follows admits)).of_run lived
  obtain ⟨-, before, grown, -⟩ := conduct.onward prepares.1 (conduct.onward looks.1 lives.1)
  dsimp only at interacted
  obtain ⟨made, grownOn, interacts⟩ := run_tells transcribes resolved.target
    (scenario.patienceFor action.header) scenario.confirmTimeout mutation live
  rw [interacted] at grownOn interacts
  obtain ⟨earlier, last, probes, rfl, -, -, probe, member, shown⟩ := interacts.shown rfl
  refine ⟨resolved, before ++ (earlier ++ last :: probes), rfl, ?_, probe, ?_, shown⟩
  · rw [← List.append_assoc, ← grown]
    exact grownOn
  · simp [member]

end

/-! ## Time -/

namespace Scenario

section

variable {W T : Type} {scenario : Scenario W T}

theorem orElse_ends {property : Failure -> Prop} {first second : Activity (Scene W) Unit}
    (before : first.Ends property) (after : second.Ends property) :
    (orElse first second).Ends property := by
  intro scene
  have ended := before scene
  rw [orElse, bind_run, attempt_run]
  rcases ran : first scene with ⟨_ | failure | _, between⟩ <;> rw [ran] at ended
  · exact ⟨nofun, nofun⟩
  · by_cases lost : failure.isSessionLost = true
    · simp only [lost, if_true, throw_run]
      exact ended
    · simp only [lost]
      exact after between
  · exact absurd rfl ended.1

theorem make_ends (scenario : Scenario W T) (target : Target) (limit : Quantity T)
    (mutation : Mutation) :
    (mutation.make scenario target limit).Ends (·.kind? ≠ some .mutationNotConfirmed) := by
  have calls : ∀ call : Call T,
      (scenario.call call).Ends (·.kind? ≠ some .mutationNotConfirmed) := by
    intro call
    refine (scenario.call_ends call).mono ?_
    rintro _ ⟨fault, rfl⟩
    nofun
  refine ends_bind ?_ fun _ => ?_
  · refine ends_bind (calls _) fun _ => ?_
    refine ends_bind (calls _) fun _ => ?_
    refine ends_bind (calls _) fun _ => ?_
    refine ends_bind (calls _) fun enabled => ?_
    cases enabled with
    | true => exact ends_pure _
    | false => exact ends_throw nofun
  · cases mutation with
    | fill value => exact ends_bind (calls _) fun _ => calls _
    | clear => exact calls _
    | select label => exact orElse_ends (calls _) (calls _)

end

variable {W : Type} {scenario : Scenario W Rat} {target : Target} {patience : Patience Rat}
  {timeout : Rat} {mutation : Mutation} {scene final : Scene W}

theorem test_onward (timed : scenario.KeepsTime) (target : Target) (mutation : Mutation)
    (scene : Scene W) :
    (mutation.test scenario target scene).1 ≠ .stalled ∧
      scenario.clock.now scene ≤ scenario.clock.now (mutation.test scenario target scene).2 := by
  obtain ⟨ended, same⟩ := scenario.test_after target mutation scene
  refine ⟨ended, (timed.queries target mutation.asked scene.world).trans ?_⟩
  exact (congrArg scenario.world.clock.now same).ge

theorem run_ends (timed : scenario.KeepsTime)
    (enough : (mutation.polling timeout).limit ≤ scenario.fuel) (scene : Scene W) :
    (mutation.run scenario target patience timeout scene).1 ≠ .stalled := by
  have made := scenario.make_ends target patience.limit mutation scene
  rw [Mutation.run_eq, bind_run]
  rcases ran : mutation.make scenario target patience.limit scene with ⟨_ | met | _, changed⟩ <;>
    rw [ran] at made
  · have probes := Polling.keepsTime_probing timed.clock_sleeps (test_onward timed target mutation)
    refine Polling.run_not_stalled probes (fun room => ?_) enough changed
    rw [Mutation.polling, Scale.earlier_exact]
    refine lt_min ?_ room
    norm_num [Polling.defaultInterval, Scale.hundredths]
  · exact nofun
  · exact absurd rfl made.1

theorem run_overdue {failure : Failure}
    (ran : mutation.run scenario target patience timeout scene = (.failed failure, final))
    (unconfirmed : failure.kind? = some .mutationNotConfirmed) :
    ∃ changed, mutation.make scenario target patience.limit scene = (.ok (), changed) ∧
      scenario.clock.now changed + timeout ≤ scenario.clock.now final := by
  rw [Mutation.run_eq, bind_run] at ran
  rcases made : mutation.make scenario target patience.limit scene with ⟨_ | met | _, changed⟩ <;>
    rw [made] at ran <;> dsimp only at ran
  · refine ⟨changed, rfl, ?_⟩
    have reachable : failure.kind? ≠ some .sessionUnreachable := by
      rw [unconfirmed]
      nofun
    obtain ⟨earlier, last, concludes, vain⟩ := Polling.concludes_of_failed ran reachable
    exact Polling.isOver_exact.mp (concludes.overdue vain)
  · cases ran
    exact absurd unconfirmed ((scenario.make_ends target patience.limit mutation).raises _ _ _ made)
  · cases ran

end Scenario

/-- A field or a list is only changed when its element was seen attached, visible and enabled in the
same interaction, and an interaction passes only if the page has shown the change after it was made.
If the page does not show it in time, and the session is not lost, that is what it fails for. -/
theorem mutations_are_confirmed :
    (∀ {W T : Type} [Scale T] {scenario : Scenario W T} {transcript : W -> List (Answered T)},
      scenario.world.IsTranscript transcript →
        (∀ (mutation : Mutation) (target : Target) (patience : Patience T) (timeout : T)
            (scene : Scene W), ∃ made,
          transcript (mutation.run scenario target patience timeout scene).2.world =
            transcript scene.world ++ made ∧
          Interacts mutation target patience.limit made
            (mutation.run scenario target patience timeout scene).1) ∧
        ∀ (action : Action) (row : Option Row) (mutation : Mutation) (scene final : Scene W)
            (outcome : StepOutcome),
          Mutation.ofOperation? (scenario.valueFor action row) action.operation = some mutation →
          scenario.takeAction action row scene = (.ok outcome, final) →
            ∃ resolved made, outcome.resolved = some resolved ∧
              transcript final.world = transcript scene.world ++ made ∧
              ∃ probe ∈ made, mutation.ShownBy resolved.target probe) ∧
    ∀ {W : Type} {scenario : Scenario W Rat} (mutation : Mutation) (target : Target)
        (patience : Patience Rat) (timeout : Rat) (scene : Scene W),
      (scenario.KeepsTime → (mutation.polling timeout).limit ≤ scenario.fuel →
        (mutation.run scenario target patience timeout scene).1 ≠ .stalled) ∧
      ∀ failure final,
        mutation.run scenario target patience timeout scene = (.failed failure, final) →
        failure.kind? = some .mutationNotConfirmed →
          ∃ changed, mutation.make scenario target patience.limit scene = (.ok (), changed) ∧
            scenario.clock.now changed + timeout ≤ scenario.clock.now final := by
  refine ⟨?_, ?_⟩
  · intro W T _ scenario transcript transcribes
    refine ⟨?_, ?_⟩
    · intro mutation target patience timeout scene
      exact Scenario.run_tells transcribes target patience timeout mutation scene
    · intro action row mutation scene final outcome mutates ran
      exact Scenario.takeAction_shown transcribes mutates ran
  · intro W scenario mutation target patience timeout scene
    refine ⟨?_, ?_⟩
    · intro timed enough
      exact Scenario.run_ends timed enough scene
    · intro failure final ran unconfirmed
      exact Scenario.run_overdue ran unconfirmed

/-! ## A field that stays empty -/

theorem Mutation.limit_polling_one (mutation : Mutation) :
    (mutation.polling (1 : Rat)).limit = 5 := by
  have interval : (mutation.polling (1 : Rat)).interval = 1 / 4 := by
    change Scale.earlier Polling.defaultInterval (1 : Rat) = 1 / 4
    decide +kernel
  have fit : ⌈(max 1 0 / (1 / 4) : Rat)⌉₊ = 4 := by norm_num
  rw [Polling.limit, interval]
  exact congrArg (· + 1) fit

/-- Pages that answer each call in one way only, and take no time for it. -/
def World.prompt (answer : (call : Call Rat) -> Except Fault call.Answer) : World Rat Rat where
  clock := Polling.seconds
  isClosed := fun _ _ => false
  url := fun _ _ => ""
  today := 0
  perform := fun call now => (answer call, now)

namespace Scenario

def editing : Scenario (Rat × List (Answered Rat)) Rat :=
  .standard (World.prompt World.willing).transcribed (onePage World.willing).catalog
    { Settings.plain with confirmTimeout := 1.0 } "run" 5

def editingOpen : Scene (Rat × List (Answered Rat)) :=
  { Scene.opening (0, []) (Files.empty "/") with
    session := { Session.idle with page := some ⟨0⟩ } }

def clearing : Action where
  header :=
    { index := 1, page := some "login", element := some "user", wait := none, timeout := none }
  value := none
  operation := .clear

end Scenario

theorem empty_field_is_confirmed_as_cleared :
    (∃ outcome final resolved,
      Scenario.editing.takeAction Scenario.clearing none Scenario.editingOpen =
        (.ok outcome, final) ∧
      outcome.resolved = some resolved ∧
      ∃ probe ∈ final.world.2, Mutation.clear.ShownBy resolved.target probe) ∧
    ((Mutation.fill "Ada").run Scenario.editing Scenario.onePageTarget .standard 1
        Scenario.editingOpen).1 ≠ .stalled ∧
    ∃ failure final,
      (Mutation.fill "Ada").run Scenario.editing Scenario.onePageTarget .standard 1
        Scenario.editingOpen = (.failed failure, final) ∧
      failure.kind? = some .mutationNotConfirmed ∧ 1 ≤ final.world.1 := by
  have transcribes : Scenario.editing.world.IsTranscript Prod.snd :=
    World.transcribed_isTranscript _
  have timed : Scenario.editing.KeepsTime :=
    { sleeps := fun _ _ => rfl
      queries := fun _ _ _ => le_rfl }
  obtain ⟨told, timely⟩ := mutations_are_confirmed
  refine ⟨?_, ?_⟩
  · have passed : (Scenario.editing.takeAction Scenario.clearing none
        Scenario.editingOpen).1.value?.isSome = true := by decide +kernel
    obtain ⟨outcome, ended⟩ := Option.isSome_iff_exists.mp passed
    have ran := run_of_outcome (Outcome.of_value? ended)
    obtain ⟨resolved, made, same, grown, shown⟩ := (told transcribes).2 _ _ _ _ _ _ rfl ran
    exact ⟨outcome, _, resolved, ran, same, grown ▸ shown⟩
  · have enough : ((Mutation.fill "Ada").polling (1 : Rat)).limit ≤ Scenario.editing.fuel :=
      (Mutation.limit_polling_one _).le
    obtain ⟨ends, overdue⟩ := timely (Mutation.fill "Ada") Scenario.onePageTarget .standard 1
      Scenario.editingOpen
    refine ⟨ends timed enough, ?_⟩
    have told : ((Mutation.fill "Ada").run Scenario.editing Scenario.onePageTarget .standard 1
      Scenario.editingOpen).1.fails (·.kind? == some .mutationNotConfirmed) = true := by
      decide +kernel
    rcases ran : (Mutation.fill "Ada").run Scenario.editing Scenario.onePageTarget .standard 1
      Scenario.editingOpen with ⟨outcome, final⟩
    rw [ran] at told
    obtain ⟨failure, rfl, kind⟩ := Outcome.of_fails told
    obtain ⟨changed, made, late⟩ := overdue failure final ran (eq_of_beq kind)
    have began : ((Mutation.fill "Ada").make Scenario.editing Scenario.onePageTarget
      (Patience.limit .standard) Scenario.editingOpen).2.world.1 = 0 := by decide +kernel
    rw [made] at began
    have now : Scenario.editing.clock.now changed = 0 := began
    rw [now, zero_add] at late
    exact ⟨failure, final, rfl, eq_of_beq kind, late⟩

end Rehearsal
