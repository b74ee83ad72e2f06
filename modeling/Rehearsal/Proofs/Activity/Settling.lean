import Rehearsal.Proofs.Activity.Contract
import Rehearsal.Proofs.Time.PollHistory

/-!
Activities that settle: from every state that is as required they come to the same value or to the
same failure, unless they run out of their allowance. Polling with a test that settles does too.
-/

set_option autoImplicit false

namespace Rehearsal

def Promise.only {A : Type} (result : Except Failure A) : Promise A where
  yields value := result = .ok value
  raises failure := result = .error failure

def Outcome.ofExcept {A : Type} : Except Failure A -> Outcome A
  | .ok value => .ok value
  | .error failure => .failed failure

theorem Outcome.ofExcept_inj {A : Type} {result other : Except Failure A} :
    Outcome.ofExcept result = .ofExcept other ↔ result = other := by
  cases result <;> cases other <;> simp [Outcome.ofExcept]

theorem Outcome.Meets.ofExcept {A : Type} (result : Except Failure A) :
    (Outcome.ofExcept result).Meets (.only result) := by
  cases result <;> rfl

namespace Activity

variable {S A B : Type} {required : S -> Prop}

def Settles (required : S -> Prop) (activity : Activity S A) (result : Except Failure A) : Prop :=
  activity.Ensures required (.only result)

theorem Settles.outcome {activity : Activity S A} {result : Except Failure A} {state : S}
    (settles : activity.Settles required result) (given : required state)
    (ended : (activity state).1 ≠ .stalled) : (activity state).1 = .ofExcept result := by
  rcases ran : activity state with ⟨value | failure | _, last⟩
  · rw [(settles.of_run given ran).2, Outcome.ofExcept]
  · rw [(settles.of_run given ran).2, Outcome.ofExcept]
  · exact absurd (congrArg Prod.fst ran) ended

theorem settles_pure (value : A) : (pure value : Activity S A).Settles required (.ok value) :=
  ensures_pure rfl

theorem settles_bind {first : Activity S A} {next : A -> Activity S B} {result : Except Failure A}
    {onward : A -> Except Failure B} (before : first.Settles required result)
    (each : ∀ value, (next value).Settles required (onward value)) :
    (first >>= next).Settles required (result >>= onward) := by
  cases result with
  | ok value =>
    have yielded : first.Ensures required ⟨(· = value), (Promise.only (onward value)).raises⟩ :=
      before.mono (fun _ same => (Except.ok.inj same).symm) nofun
    refine ensures_bind yielded ?_
    rintro _ rfl
    exact each _
  | error failure =>
    have raised : first.Ensures required ⟨fun _ => False, (· = failure)⟩ :=
      before.mono nofun fun _ same => (Except.error.inj same).symm
    have passed : (first >>= next).Ensures required ⟨fun _ => False, (· = failure)⟩ :=
      ensures_bind raised nofun
    exact passed.mono nofun fun _ same => congrArg Except.error same.symm

end Activity

/-! ## Polling -/

namespace Sight

/-- What a test is seen as. -/
def ofTest : Except Failure Bool -> Sight Unit
  | .ok true => .found ()
  | .ok false => .nothing
  | .error failure => if failure.isSessionLost then .lost failure else .erred failure

end Sight

namespace Polling

open Activity

variable {S T : Type} [Scale T]

/-- What polling comes to if its test always comes to the same; `latest` is the error of the
latest look that had one. -/
def settled (polling : Polling T) (latest : Option Failure) :
    Except Failure Bool -> Except Failure Unit
  | .ok true => .ok ()
  | .ok false => .error (polling.timeoutFailure latest)
  | .error failure =>
    .error (if failure.isSessionLost then asUnreachable failure
      else polling.timeoutFailure (some failure))

variable {polling : Polling T} {clock : Clock S T} {required : S -> Prop}
  {test : Activity S Bool} {result : Except Failure Bool}

omit [Scale T] in
theorem probing_settles (tests : test.Settles required result) :
    (probing test).Settles required
      (result >>= fun passed => .ok (if passed then some () else none)) := by
  refine settles_bind tests fun passed => ?_
  cases passed <;> exact settles_pure _

omit [Scale T] in
theorem finds_settled (tests : test.Settles required result) {state after : S}
    {finding : Sight Unit} (given : required state)
    (found : Finds (probing test) state finding after) :
    required after ∧ finding = Sight.ofTest result := by
  cases found with
  | found ran =>
    obtain ⟨kept, met⟩ := (probing_settles tests).of_run given ran
    rcases result with _ | (_ | _) <;> cases met
    exact ⟨kept, rfl⟩
  | nothing ran =>
    obtain ⟨kept, met⟩ := (probing_settles tests).of_run given ran
    rcases result with _ | (_ | _) <;> cases met
    exact ⟨kept, rfl⟩
  | erred ran live =>
    obtain ⟨kept, met⟩ := (probing_settles tests).of_run given ran
    cases result <;> cases met
    exact ⟨kept, by simp [Sight.ofTest, live]⟩
  | lost ran lost =>
    obtain ⟨kept, met⟩ := (probing_settles tests).of_run given ran
    cases result <;> cases met
    exact ⟨kept, by simp [Sight.ofTest, lost]⟩

theorem verdict_settled (polling : Polling T) (latest : Option Failure)
    (result : Except Failure Bool) :
    polling.verdict ((Sight.ofTest result).error?.or latest) (Sight.ofTest result) =
      .ofExcept (polling.settled latest result) := by
  rcases result with failure | (_ | _)
  · cases lost : failure.isSessionLost <;>
      simp [Sight.ofTest, settled, lost, verdict, Sight.error?, Outcome.ofExcept]
  · rfl
  · rfl

/-- After a look in vain the polling comes to what it would have come to without it. -/
theorem settled_again (polling : Polling T) (latest : Option Failure)
    {result : Except Failure Bool} (vain : (Sight.ofTest result).isVain = true) :
    polling.settled ((Sight.ofTest result).error?.or latest) result =
      polling.settled latest result := by
  rcases result with failure | (_ | _)
  · rfl
  · rfl
  · cases vain

theorem rounds_settles (sleeps : ∀ span state, required state → required (clock.sleep span state))
    (tests : test.Settles required result) (deadline : T) (fuel : Nat)
    (latest : Option Failure) :
    (polling.rounds clock deadline (probing test) fuel latest).Settles required
      (polling.settled latest result) := by
  -- A look in vain may only bring the error that every other look brings, so the latest is free.
  induction fuel generalizing latest with
  | zero => exact fun state given => ⟨given, trivial⟩
  | succ fuel ih =>
    intro state given
    rcases finds_or_hangs (probing test) state with ⟨finding, after, found⟩ | ⟨after, hung⟩
    · obtain ⟨kept, rfl⟩ := finds_settled tests given found
      rw [rounds_of_finds found]
      split
      next goesOn =>
        have vain := (Bool.and_eq_true_iff.mp goesOn).1
        rw [← settled_again polling latest vain]
        exact ih _ _ (sleeps _ _ kept)
      next =>
        rw [verdict_settled]
        exact ⟨kept, .ofExcept _⟩
    · rw [rounds_of_hangs hung]
      exact (probing_settles tests).of_run given hung

theorem test_settles (sleeps : ∀ span state, required state → required (clock.sleep span state))
    (tests : test.Settles required result) (fuel : Nat) :
    (polling.test clock fuel test).Settles required (polling.settled none result) :=
  fun state => rounds_settles sleeps tests _ fuel none state

end Polling

end Rehearsal
