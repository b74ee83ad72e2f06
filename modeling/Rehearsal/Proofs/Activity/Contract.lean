import Rehearsal.Proofs.Activity.Conduct
import Rehearsal.Time.Retry

/-!
Contracts of activities. From a state that is as required an activity leads to such states only,
and it ends with values and failures as promised. A retried step that keeps a contract makes the
whole run keep it, down to the cause that the run is given up for.
-/

set_option autoImplicit false

namespace Rehearsal

structure Promise (A : Type) where
  yields : A -> Prop
  raises : Failure -> Prop

def Outcome.Meets {A : Type} (promise : Promise A) : Outcome A -> Prop
  | .ok value => promise.yields value
  | .failed failure => promise.raises failure
  | .stalled => True

namespace Activity

variable {S A B : Type} {required : S -> Prop} {raises : Failure -> Prop}

def Ensures (required : S -> Prop) (promise : Promise A) (activity : Activity S A) : Prop :=
  ∀ state, required state → required (activity state).2 ∧ (activity state).1.Meets promise

theorem Ensures.of_run {activity : Activity S A} {promise : Promise A}
    (ensures : activity.Ensures required promise) {state last : S} {outcome : Outcome A}
    (given : required state) (ran : activity state = (outcome, last)) :
    required last ∧ outcome.Meets promise := by
  have ensured := ensures state given
  rwa [ran] at ensured

theorem Ensures.mono {activity : Activity S A} {promise weaker : Promise A}
    (ensures : activity.Ensures required promise)
    (yields : ∀ value, promise.yields value → weaker.yields value)
    (raises : ∀ failure, promise.raises failure → weaker.raises failure) :
    activity.Ensures required weaker := by
  intro state given
  rcases ran : activity state with ⟨value | failure | _, last⟩ <;>
    obtain ⟨kept, met⟩ := ensures.of_run given ran
  · exact ⟨kept, yields value met⟩
  · exact ⟨kept, raises failure met⟩
  · exact ⟨kept, trivial⟩

theorem ensures_of_yields {conduct : Conduct S} {activity : Activity S A} {yields : A -> Prop}
    (follows : activity.Follows conduct)
    (leads : ∀ {before after}, conduct.leads before after → required before → required after)
    (yielded : activity.Yields yields) :
    activity.Ensures required ⟨yields, conduct.raises⟩ := by
  intro state given
  obtain ⟨led, raised⟩ := follows state
  refine ⟨leads led given, ?_⟩
  rcases ran : activity state with ⟨value | failure | _, last⟩
  · exact yielded _ _ _ ran
  · exact raised failure (by rw [ran])
  · trivial

theorem ensures_of_follows {conduct : Conduct S} {activity : Activity S A}
    (follows : activity.Follows conduct)
    (leads : ∀ {before after}, conduct.leads before after → required before → required after) :
    activity.Ensures required ⟨fun _ => True, conduct.raises⟩ :=
  ensures_of_yields follows leads fun _ _ _ _ => trivial

theorem ensures_pure {promise : Promise A} {value : A} (yielded : promise.yields value) :
    (pure value : Activity S A).Ensures required promise :=
  fun _ given => ⟨given, yielded⟩

theorem ensures_throw {promise : Promise A} {failure : Failure} (raised : promise.raises failure) :
    (throw failure : Activity S A).Ensures required promise :=
  fun _ given => ⟨given, raised⟩

theorem ensures_ofExcept {result : Except Failure A}
    (raised : ∀ failure, result = .error failure → raises failure) :
    (ofExcept result : Activity S A).Ensures required
      ⟨fun value => result = .ok value, raises⟩ := by
  cases result with
  | ok value => exact ensures_pure rfl
  | error failure => exact ensures_throw (raised failure rfl)

theorem ensures_look (view : S -> A) :
    (look view).Ensures required
      ⟨fun value => ∃ state, required state ∧ view state = value, raises⟩ :=
  fun state given => ⟨given, state, given, rfl⟩

theorem ensures_change {update : S -> S}
    (kept : ∀ state, required state → required (update state)) :
    (change update).Ensures required ⟨fun _ => True, raises⟩ :=
  fun state given => ⟨kept state given, trivial⟩

theorem ensures_bind {first : Activity S A} {next : A -> Activity S B} {yields : A -> Prop}
    {promise : Promise B} (before : first.Ensures required ⟨yields, promise.raises⟩)
    (each : ∀ value, yields value → (next value).Ensures required promise) :
    (first >>= next).Ensures required promise := by
  intro state given
  rw [bind_run]
  rcases ran : first state with ⟨value | failure | _, between⟩
  · obtain ⟨kept, yielded⟩ := before.of_run given ran
    exact each value yielded between kept
  · exact before.of_run given ran
  · exact before.of_run given ran

theorem ensures_attempt {activity : Activity S A} {yields : A -> Prop}
    (ensures : activity.Ensures required ⟨yields, raises⟩) (never : Failure -> Prop) :
    activity.attempt.Ensures required
      ⟨fun | .ok value => yields value | .error failure => raises failure, never⟩ := by
  intro state given
  rw [attempt]
  rcases ran : activity state with ⟨value | failure | _, between⟩
  · exact ensures.of_run given ran
  · exact ensures.of_run given ran
  · exact ensures.of_run given ran

theorem ensures_of_raises {activity : Activity S A} (raised : activity.Raises raises) :
    activity.Ensures (fun _ => True) ⟨fun _ => True, raises⟩ := by
  intro state given
  refine ⟨given, ?_⟩
  rcases ran : activity state with ⟨value | failure | _, last⟩
  · trivial
  · exact raised _ _ _ ran
  · trivial

theorem raises_of_ensures {activity : Activity S A} {yields : A -> Prop}
    (ensures : activity.Ensures (fun _ => True) ⟨yields, raises⟩) : activity.Raises raises :=
  fun _ _ _ ran => (ensures.of_run trivial ran).2

end Activity

/-! ## Polling -/

namespace Polling

open Activity

variable {S T A : Type} [Scale T] {polling : Polling T} {clock : Clock S T} {required : S -> Prop}
  (sleeps : ∀ span state, required state → required (clock.sleep span state))

include sleeps

/-- Polling with a probe that never fails finds something, or times out over nothing found. -/
theorem rounds_ensures {probe : Activity S (Option A)} {yields : Option A -> Prop}
    (probes : probe.Ensures required ⟨yields, fun _ => False⟩) (deadline : T) (fuel : Nat) :
    (polling.rounds clock deadline probe fuel none).Ensures required
      ⟨fun value => yields (some value),
        fun failure => yields none ∧ failure = polling.timeoutFailure none⟩ := by
  induction fuel with
  | zero => exact fun state given => ⟨given, trivial⟩
  | succ fuel ih =>
    intro state given
    rw [rounds]
    dsimp only
    rcases ran : probe state with ⟨(_ | value) | failure | _, between⟩
    · obtain ⟨kept, nothing⟩ := probes.of_run given ran
      dsimp only
      split
      · exact ⟨kept, nothing, rfl⟩
      · exact ih _ (sleeps _ _ kept)
    · exact probes.of_run given ran
    · exact (probes.of_run given ran).2.elim
    · exact probes.of_run given ran

theorem test_ensures {test : Activity S Bool} {yields : Bool -> Prop}
    (tests : test.Ensures required ⟨yields, fun _ => False⟩) (fuel : Nat) :
    (polling.test clock fuel test).Ensures required
      ⟨fun _ => yields true,
        fun failure => yields false ∧ failure = polling.timeoutFailure none⟩ := by
  have probes : (do if ← test then return some () else return none :
      Activity S (Option Unit)).Ensures required
      ⟨fun found => yields found.isSome, fun _ => False⟩ := by
    refine ensures_bind tests fun found held => ?_
    cases found <;> exact ensures_pure held
  exact fun state => rounds_ensures sleeps probes _ fuel state

end Polling

/-! ## Retried steps -/

namespace Retrier

open Activity

variable {S T A : Type} [Scale T] {retrier : Retrier S T} {required : S -> Prop}
  {yields : A -> Prop} {raises : Failure -> Prop} {step : Activity S A}

/-- What a contract has to put up with where a step is retried. -/
structure Suits (retrier : Retrier S T) (required : S -> Prop) (raises : Failure -> Prop) :
    Prop where
  attempts : ∀ number state, required state → required (retrier.noteAttempts number state)
  reinitializations : ∀ state, required state → required (retrier.noteReinitialization state)
  sleeps : ∀ span state, required state → required (retrier.clock.sleep span state)
  reopens : ∀ reopen, retrier.reopen = some reopen →
    reopen.Ensures required ⟨fun _ => True, raises⟩
  timesOut : ∀ description seconds, raises (.stepTimedOut description seconds)
  overflows : raises (.fault ⟨.overflow, "int too large to convert to float"⟩)

/-- A run ends with a value of the step, or is given up for a cause that the step may raise. -/
def promised (yields : A -> Prop) (raises : Failure -> Prop) : Promise (Except StepFailure A) :=
  ⟨fun | .ok value => yields value | .error failure => raises failure.cause, raises⟩

variable (suits : retrier.Suits required raises)

include suits

omit [Scale T] in
theorem recover_ensures {last : Option Failure} (noted : ∀ failure ∈ last, raises failure) :
    (retrier.recover last).Ensures required
      ⟨fun cause => ∀ failure ∈ cause, raises failure, raises⟩ := by
  refine ensures_bind (ensures_change suits.reinitializations) fun _ _ => ?_
  split
  next => exact ensures_pure noted
  next reopen present =>
    refine ensures_bind (ensures_attempt (suits.reopens reopen present) raises) fun tried met => ?_
    cases tried with
    | ok value => exact ensures_pure noted
    | error failure => exact ensures_pure (by simpa using met)

theorem rounds_ensures (ensures : step.Ensures required ⟨yields, raises⟩)
    (description : String) (budget deadline : T) (fuel attempts : Nat) {last : Option Failure}
    (noted : ∀ failure ∈ last, raises failure) :
    (retrier.rounds description step budget deadline fuel attempts last).Ensures required
      (promised yields raises) := by
  induction fuel generalizing attempts last with
  | zero => exact fun state given => ⟨given, trivial⟩
  | succ fuel ih =>
    -- A failed attempt is followed by a look at the clock, and then by the end or another round.
    have goesOn : ∀ last : Option Failure, (∀ failure ∈ last, raises failure) →
        (do
          let remaining := Scale.sub deadline (← look retrier.clock.now)
          if Scale.le remaining Scale.zero then
            return .error (giveUp description budget (attempts + 1) last)
          else
            change (retrier.clock.sleep (Scale.earlier retrier.policy.pause remaining))
            rounds retrier description step budget deadline fuel (attempts + 1) last :
          Activity S (Except StepFailure A)).Ensures required (promised yields raises) := by
      intro last noted
      refine ensures_bind (ensures_look _) fun now _ => ?_
      dsimp only
      split
      · refine ensures_pure ?_
        cases last with
        | none => exact suits.timesOut _ _
        | some cause => exact noted cause rfl
      · refine ensures_bind (ensures_change (suits.sleeps _)) fun _ _ => ?_
        exact ih _ noted
    rw [rounds]
    refine ensures_bind (ensures_change (suits.attempts _)) fun _ _ => ?_
    refine ensures_bind (ensures_attempt ensures raises) fun tried met => ?_
    cases tried with
    | ok value => exact ensures_pure met
    | error failure =>
      dsimp only
      split
      next => exact ensures_pure met
      next => exact ensures_bind (recover_ensures suits noted) fun cause causes => goesOn cause causes
      next => exact goesOn (some failure) (by simpa using met)

theorem run_ensures (ensures : step.Ensures required ⟨yields, raises⟩) (fuel : Nat)
    (description : String) :
    (retrier.run fuel description step).Ensures required (promised yields raises) := by
  unfold run
  split
  next => exact ensures_throw suits.overflows
  next =>
    refine ensures_bind (ensures_look _) fun start _ => ?_
    exact rounds_ensures suits ensures _ _ _ _ _ (by simp)

end Retrier

end Rehearsal
