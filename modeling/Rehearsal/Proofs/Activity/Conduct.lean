import Rehearsal.Proofs.Activity.Sequence
import Rehearsal.Time.Poll

/-!
The conduct of activities: where they may lead from a state, and which failures they may raise.
To keep a view of the state is a conduct that may raise anything, so a whole program is followed
once for what it keeps and for what it raises.
-/

set_option autoImplicit false

namespace Rehearsal

structure Conduct (S : Type) where
  leads : S -> S -> Prop
  raises : Failure -> Prop
  still : ∀ state, leads state state
  onward : ∀ {first second third}, leads first second → leads second third → leads first third

namespace Activity

variable {S A B V : Type} {conduct : Conduct S}

def Follows (conduct : Conduct S) (activity : Activity S A) : Prop :=
  ∀ state, conduct.leads state (activity state).2 ∧
    ∀ failure, (activity state).1 = .failed failure → conduct.raises failure

theorem Follows.of_run {activity : Activity S A} (follows : activity.Follows conduct)
    {state last : S} {outcome : Outcome A} (ran : activity state = (outcome, last)) :
    conduct.leads state last ∧ ∀ failure, outcome = .failed failure → conduct.raises failure := by
  have followed := follows state
  rwa [ran] at followed

theorem follows_pure (value : A) : (pure value : Activity S A).Follows conduct :=
  fun state => ⟨conduct.still state, nofun⟩

theorem follows_look (view : S -> A) : (look view).Follows conduct :=
  fun state => ⟨conduct.still state, nofun⟩

theorem follows_throw {failure : Failure} (allowed : conduct.raises failure) :
    (throw failure : Activity S A).Follows conduct := by
  intro state
  refine ⟨conduct.still state, fun met raised => ?_⟩
  simp only [throw_run, Outcome.failed.injEq] at raised
  exact raised ▸ allowed

theorem follows_change {update : S -> S} (leads : ∀ state, conduct.leads state (update state)) :
    (change update).Follows conduct :=
  fun state => ⟨leads state, nofun⟩

theorem follows_ofExcept {result : Except Failure A}
    (allowed : ∀ failure, result = .error failure → conduct.raises failure) :
    (ofExcept result : Activity S A).Follows conduct := by
  cases result with
  | ok value => exact follows_pure value
  | error failure => exact follows_throw (allowed failure rfl)

theorem follows_bind_of_yields {first : Activity S A} {next : A -> Activity S B}
    {property : A -> Prop} (before : first.Follows conduct) (yields : first.Yields property)
    (each : ∀ value, property value → (next value).Follows conduct) :
    (first >>= next).Follows conduct := by
  intro state
  have led := before state
  rw [bind_run]
  rcases ran : first state with ⟨value | failure | _, between⟩ <;> rw [ran] at led
  · have rest := each value (yields _ _ _ ran) between
    exact ⟨conduct.onward led.1 rest.1, rest.2⟩
  · exact ⟨led.1, fun met raised => led.2 met (by simpa using raised)⟩
  · exact ⟨led.1, nofun⟩

theorem follows_bind {first : Activity S A} {next : A -> Activity S B}
    (before : first.Follows conduct) (each : ∀ value, (next value).Follows conduct) :
    (first >>= next).Follows conduct := by
  have yields : first.Yields fun _ => True := fun _ _ _ _ => trivial
  exact follows_bind_of_yields before yields fun value _ => each value

theorem follows_bind_attempt {first : Activity S A} {next : Except Failure A -> Activity S B}
    (before : first.Follows conduct) (passed : ∀ value, (next (.ok value)).Follows conduct)
    (failed : ∀ failure, conduct.raises failure → (next (.error failure)).Follows conduct) :
    (first.attempt >>= next).Follows conduct := by
  intro state
  have led := before state
  rw [bind_run, attempt]
  rcases ran : first state with ⟨value | failure | _, between⟩ <;> rw [ran] at led
  · have rest := passed value between
    exact ⟨conduct.onward led.1 rest.1, rest.2⟩
  · -- A handler only meets what the first activity may raise.
    have rest := failed failure (led.2 failure rfl) between
    exact ⟨conduct.onward led.1 rest.1, rest.2⟩
  · refine ⟨led.1, ?_⟩
    rintro _ ⟨⟩

/-- What comes after the first activity, if that passes, may be taken together with it. -/
theorem follows_bind_attempt_of_bind {first : Activity S A}
    {next : Except Failure A -> Activity S B}
    (joined : (first >>= fun value => next (.ok value)).Follows conduct)
    (failed : ∀ failure, conduct.raises failure → (next (.error failure)).Follows conduct) :
    (first.attempt >>= next).Follows conduct := by
  intro state
  have led := joined state
  rw [bind_run] at led
  rw [bind_run, attempt]
  rcases ran : first state with ⟨value | failure | _, between⟩ <;> rw [ran] at led
  · exact led
  · have rest := failed failure (led.2 failure rfl) between
    exact ⟨conduct.onward led.1 rest.1, rest.2⟩
  · exact ⟨led.1, fun _ broke => by cases broke⟩

theorem follows_discard {activity : Activity S A} (follows : activity.Follows conduct) :
    (discard activity).Follows conduct :=
  follows_bind follows fun _ => follows_pure ()

end Activity

/-! ## Keeping a view -/

namespace Conduct

open Activity

variable {S A V : Type}

def keeping (view : S -> V) : Conduct S where
  leads before after := view after = view before
  raises _ := True
  still _ := rfl
  onward first second := second.trans first

theorem follows_keeping {view : S -> V} {activity : Activity S A} :
    activity.Follows (keeping view) ↔ activity.Keeps view :=
  ⟨fun follows state => (follows state).1, fun keeps state => ⟨keeps state, fun _ _ => trivial⟩⟩

end Conduct

/-! ## Polling -/

namespace Polling

open Activity

variable {S T A V : Type} [Scale T] {polling : Polling T} {clock : Clock S T} {conduct : Conduct S}

/-- What a conduct has to allow for whoever polls: the pauses, the timeout whatever it rests on,
and the loss of the session. -/
structure Suits (polling : Polling T) (clock : Clock S T) (conduct : Conduct S) : Prop where
  sleeps : ∀ span state, conduct.leads state (clock.sleep span state)
  expires : ∀ cause : Option Failure, (∀ failure ∈ cause, conduct.raises failure) →
    conduct.raises (polling.timeoutFailure cause)
  loses : ∀ failure, conduct.raises failure → conduct.raises (asUnreachable failure)

variable (suits : polling.Suits clock conduct)

include suits

theorem rounds_follows (deadline : T) {probe : Activity S (Option A)}
    (probes : probe.Follows conduct) (fuel : Nat) {last : Option Failure}
    (noted : ∀ failure ∈ last, conduct.raises failure) :
    (polling.rounds clock deadline probe fuel last).Follows conduct := by
  induction fuel generalizing last with
  | zero => exact fun state => ⟨conduct.still state, nofun⟩
  | succ fuel ih =>
    intro state
    have led := probes state
    -- A pause ends the polling or goes on with it; either way it may name the last error.
    have pauses : ∀ (last : Option Failure) (between : S),
        (∀ failure ∈ last, conduct.raises failure) → conduct.leads state between →
        let remaining := Scale.sub deadline (clock.now between)
        let paused := if Scale.le remaining Scale.zero then
            (.failed (polling.timeoutFailure last), between)
          else polling.rounds clock deadline probe fuel last
            (clock.sleep (Scale.earlier polling.interval remaining) between)
        conduct.leads state paused.2 ∧
          ∀ failure, paused.1 = .failed failure → conduct.raises failure := by
      intro last between noted arrived remaining paused
      by_cases late : Scale.le remaining Scale.zero = true
      · simp only [paused, late, if_true, Outcome.failed.injEq]
        exact ⟨arrived, fun failure named => named ▸ suits.expires last noted⟩
      · simp only [paused, late]
        have rest := ih noted (clock.sleep (Scale.earlier polling.interval remaining) between)
        exact ⟨conduct.onward (conduct.onward arrived (suits.sleeps _ _)) rest.1, rest.2⟩
    rcases ran : probe state with ⟨(_ | value) | failure | _, between⟩ <;> rw [ran] at led <;>
      simp only [rounds, ran]
    · exact pauses last between noted led.1
    · exact ⟨led.1, nofun⟩
    · have allowed := led.2 failure rfl
      by_cases lost : failure.isSessionLost = true
      · simp only [lost, if_true, Outcome.failed.injEq]
        exact ⟨led.1, fun met raised => raised ▸ suits.loses failure allowed⟩
      · simp only [lost]
        exact pauses (some failure) between (by simpa using allowed) led.1
    · exact ⟨led.1, nofun⟩

theorem run_follows (fuel : Nat) {probe : Activity S (Option A)}
    (probes : probe.Follows conduct) : (polling.run clock fuel probe).Follows conduct :=
  fun state => rounds_follows suits _ probes fuel (by simp) state

theorem test_follows (fuel : Nat) {probe : Activity S Bool} (probes : probe.Follows conduct) :
    (polling.test clock fuel probe).Follows conduct := by
  refine run_follows suits fuel (follows_bind probes fun found => ?_)
  cases found <;> exact follows_pure _

omit suits in
theorem suits_keeping {view : S -> V}
    (sleeps : ∀ span state, view (clock.sleep span state) = view state) :
    polling.Suits clock (.keeping view) :=
  ⟨sleeps, fun _ _ => trivial, fun _ _ => trivial⟩

omit suits in
theorem test_keeps {view : S -> V}
    (sleeps : ∀ span state, view (clock.sleep span state) = view state) (fuel : Nat)
    {probe : Activity S Bool} (probes : probe.Keeps view) :
    (polling.test clock fuel probe).Keeps view :=
  Conduct.follows_keeping.mp
    (test_follows (suits_keeping sleeps) fuel (Conduct.follows_keeping.mpr probes))

end Polling

end Rehearsal
