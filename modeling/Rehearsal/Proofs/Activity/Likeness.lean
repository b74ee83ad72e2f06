import Rehearsal.Proofs.Activity.Sequence
import Rehearsal.Time.Poll

/-!
What activities have nothing to do with. An activity ignores a part of the state if it ends the same
whatever the part is, and leaves it as it is. From states that are alike in the sense of a relation
that it respects, it ends the same, in states that are alike again.
-/

set_option autoImplicit false

namespace Rehearsal

namespace Activity

variable {S P A B : Type}

/-! ## Ignoring a part -/

/-- `replace` puts something else in the place of the part. -/
def Ignores (replace : P -> S -> S) (activity : Activity S A) : Prop :=
  ∀ part state,
    activity (replace part state) = ((activity state).1, replace part (activity state).2)

variable {replace : P -> S -> S}

theorem ignores_pure (value : A) : (pure value : Activity S A).Ignores replace := fun _ _ => rfl

theorem ignores_throw (failure : Failure) : (throw failure : Activity S A).Ignores replace :=
  fun _ _ => rfl

theorem ignores_look {view : S -> A}
    (blind : ∀ part state, view (replace part state) = view state) :
    (look view).Ignores replace := by
  intro part state
  simp only [look_run, blind]

theorem ignores_change {update : S -> S}
    (apart : ∀ part state, update (replace part state) = replace part (update state)) :
    (change update).Ignores replace := by
  intro part state
  simp only [change_run, apart]

theorem ignores_ofExcept (result : Except Failure A) :
    (ofExcept result : Activity S A).Ignores replace := by
  cases result with
  | ok value => exact ignores_pure value
  | error failure => exact ignores_throw failure

theorem ignores_attempt {activity : Activity S A} (ignores : activity.Ignores replace) :
    activity.attempt.Ignores replace := by
  intro part state
  simp only [attempt, ignores part state]
  rcases activity state with ⟨_ | _ | _, last⟩ <;> rfl

theorem ignores_bind_of_yields {first : Activity S A} {next : A -> Activity S B}
    {property : A -> Prop} (before : first.Ignores replace) (yields : first.Yields property)
    (each : ∀ value, property value → (next value).Ignores replace) :
    (first >>= next).Ignores replace := by
  intro part state
  rw [bind_run, bind_run, before part state]
  rcases ran : first state with ⟨value | failure | _, between⟩
  · exact each value (yields _ _ _ ran) part between
  · rfl
  · rfl

theorem ignores_bind {first : Activity S A} {next : A -> Activity S B}
    (before : first.Ignores replace) (each : ∀ value, (next value).Ignores replace) :
    (first >>= next).Ignores replace := by
  have yields : first.Yields fun _ => True := fun _ _ _ _ => trivial
  exact ignores_bind_of_yields before yields fun value _ => each value

theorem ignores_discard {activity : Activity S A} (ignores : activity.Ignores replace) :
    (discard activity).Ignores replace :=
  ignores_bind ignores fun _ => ignores_pure ()

/-! ## Respecting a relation -/

variable {relation : S -> S -> Prop}

def Respects (relation : S -> S -> Prop) (activity : Activity S A) : Prop :=
  ∀ state other, relation state other →
    (activity other).1 = (activity state).1 ∧ relation (activity state).2 (activity other).2

theorem Respects.of_run {activity : Activity S A} (respects : activity.Respects relation)
    {state other last : S} {outcome : Outcome A} (alike : relation state other)
    (ran : activity state = (outcome, last)) :
    ∃ after, activity other = (outcome, after) ∧ relation last after := by
  obtain ⟨same, related⟩ := respects state other alike
  rw [ran] at same related
  exact ⟨_, run_of_outcome same, related⟩

theorem respects_pure (value : A) : (pure value : Activity S A).Respects relation :=
  fun _ _ alike => ⟨rfl, alike⟩

theorem respects_throw (failure : Failure) : (throw failure : Activity S A).Respects relation :=
  fun _ _ alike => ⟨rfl, alike⟩

theorem respects_look {view : S -> A}
    (blind : ∀ state other, relation state other → view other = view state) :
    (look view).Respects relation :=
  fun state other alike => ⟨congrArg Outcome.ok (blind state other alike), alike⟩

theorem respects_change {update : S -> S}
    (kept : ∀ state other, relation state other → relation (update state) (update other)) :
    (change update).Respects relation :=
  fun state other alike => ⟨rfl, kept state other alike⟩

theorem respects_ofExcept (result : Except Failure A) :
    (ofExcept result : Activity S A).Respects relation := by
  cases result with
  | ok value => exact respects_pure value
  | error failure => exact respects_throw failure

theorem respects_attempt {activity : Activity S A} (respects : activity.Respects relation) :
    activity.attempt.Respects relation := by
  intro state other alike
  rcases ran : activity state with ⟨_ | _ | _, last⟩ <;>
    obtain ⟨after, same, related⟩ := respects.of_run alike ran <;>
    simp only [attempt, ran, same] <;> exact ⟨trivial, related⟩

theorem respects_bind_of_yields {first : Activity S A} {next : A -> Activity S B}
    {property : A -> Prop} (before : first.Respects relation) (yields : first.Yields property)
    (each : ∀ value, property value → (next value).Respects relation) :
    (first >>= next).Respects relation := by
  intro state other alike
  rcases ran : first state with ⟨value | failure | _, between⟩ <;>
    obtain ⟨after, same, related⟩ := before.of_run alike ran <;>
    simp only [bind_run, ran, same]
  · exact each value (yields _ _ _ ran) between after related
  · exact ⟨trivial, related⟩
  · exact ⟨trivial, related⟩

theorem respects_bind {first : Activity S A} {next : A -> Activity S B}
    (before : first.Respects relation) (each : ∀ value, (next value).Respects relation) :
    (first >>= next).Respects relation := by
  have yields : first.Yields fun _ => True := fun _ _ _ _ => trivial
  exact respects_bind_of_yields before yields fun value _ => each value

theorem respects_discard {activity : Activity S A} (respects : activity.Respects relation) :
    (discard activity).Respects relation :=
  respects_bind respects fun _ => respects_pure ()

end Activity

/-! ## Polling -/

namespace Polling

open Activity

variable {S P T A : Type} [Scale T] {polling : Polling T} {clock : Clock S T}

section

variable {replace : P -> S -> S}
  (blind : ∀ part state, clock.now (replace part state) = clock.now state)
  (apart : ∀ span part state,
    clock.sleep span (replace part state) = replace part (clock.sleep span state))

include blind apart

theorem rounds_ignores (deadline : T) {probe : Activity S (Option A)}
    (probes : probe.Ignores replace) (fuel : Nat) (last : Option Failure) :
    (polling.rounds clock deadline probe fuel last).Ignores replace := by
  induction fuel generalizing last with
  | zero => exact fun _ _ => rfl
  | succ fuel ih =>
    intro part state
    -- The clock shows the same with either part, so the rounds end at the same time.
    rcases ran : probe state with ⟨(_ | value) | failure | _, between⟩ <;>
      simp only [rounds, probes part state, ran, blind, apart]
    · split
      · rfl
      · exact ih last part _
    · cases failure.isSessionLost with
      | true => rfl
      | false =>
        simp only [Bool.false_eq_true, if_false]
        split
        · rfl
        · exact ih (some failure) part _

theorem run_ignores (fuel : Nat) {probe : Activity S (Option A)} (probes : probe.Ignores replace) :
    (polling.run clock fuel probe).Ignores replace := by
  intro part state
  simp only [run, blind]
  exact rounds_ignores blind apart _ probes fuel none part state

theorem test_ignores (fuel : Nat) {probe : Activity S Bool} (probes : probe.Ignores replace) :
    (polling.test clock fuel probe).Ignores replace := by
  refine run_ignores blind apart fuel (ignores_bind probes fun found => ?_)
  cases found <;> exact ignores_pure _

end

end Polling

end Rehearsal
