import Rehearsal.Activity

/-!
How a sequence of activities ends. A sequence passes exactly if both of its parts pass. What an
activity yields is a property of the values it can end with, whatever state it starts in; what it
raises is one of the failures it can end with; and it keeps a view of the state if it shows the same
in it before and after, however it ends.
-/

set_option autoImplicit false

namespace Rehearsal

namespace Outcome

variable {A : Type}

def value? : Outcome A -> Option A
  | .ok value => some value
  | .failed _ | .stalled => none

theorem of_value? {outcome : Outcome A} {value : A} (ended : outcome.value? = some value) :
    outcome = .ok value := by
  cases outcome with
  | ok found => exact congrArg Outcome.ok (Option.some.inj ended)
  | failed failure | stalled => cases ended

def fails (test : Failure -> Bool) : Outcome A -> Bool
  | .failed failure => test failure
  | .ok _ | .stalled => false

theorem of_fails {test : Failure -> Bool} {outcome : Outcome A}
    (told : outcome.fails test = true) :
    ∃ failure, outcome = .failed failure ∧ test failure = true := by
  cases outcome with
  | failed failure => exact ⟨failure, rfl, told⟩
  | ok value | stalled => cases told

theorem ok_ne_stalled (value : A) : Outcome.ok value ≠ .stalled := by
  rintro ⟨⟩

theorem failed_ne_stalled (failure : Failure) : (Outcome.failed failure : Outcome A) ≠ .stalled := by
  rintro ⟨⟩

end Outcome

namespace Activity

variable {S A B : Type}

theorem run_of_outcome {activity : Activity S A} {state : S} {outcome : Outcome A}
    (ended : (activity state).1 = outcome) : activity state = (outcome, (activity state).2) := by
  rw [← ended]

theorem bind_ok (first : Activity S A) (next : A -> Activity S B) (state last : S) (value : B) :
    (first >>= next) state = (.ok value, last) ↔
      ∃ middle between, first state = (.ok middle, between) ∧
        next middle between = (.ok value, last) := by
  rw [bind_run]
  constructor
  · intro passed
    rcases ran : first state with ⟨middle | failure | _, between⟩ <;> rw [ran] at passed
    · exact ⟨middle, between, rfl, passed⟩
    all_goals simp at passed
  · rintro ⟨middle, between, ran, rest⟩
    rw [ran]
    exact rest

theorem change_bind_run (update : S -> S) (next : Unit -> Activity S A) (state : S) :
    (change update >>= next) state = next () (update state) := rfl

theorem bind_assoc {C : Type} (first : Activity S A) (next : A -> Activity S B)
    (last : B -> Activity S C) :
    first >>= next >>= last = first >>= fun value => next value >>= last := by
  funext state
  rw [bind_run, bind_run, bind_run]
  rcases first state with ⟨_ | _ | _, between⟩ <;> rfl

theorem bind_done (activity : Activity S Unit) : (activity >>= fun _ => pure ()) = activity := by
  funext state
  rw [bind_run]
  rcases activity state with ⟨_ | _ | _, last⟩ <;> rfl

theorem ofExcept_ok_bind (value : A) (next : A -> Activity S B) :
    (ofExcept (.ok value) >>= next) = next value := rfl

theorem attempt_run (activity : Activity S A) (state : S) :
    activity.attempt state =
      match activity state with
      | (.ok value, last) => (.ok (.ok value), last)
      | (.failed failure, last) => (.ok (.error failure), last)
      | (.stalled, last) => (.stalled, last) := rfl

theorem discard_run (activity : Activity S A) (state : S) :
    (discard activity) state =
      match activity state with
      | (.ok _, last) => (.ok (), last)
      | (.failed failure, last) => (.failed failure, last)
      | (.stalled, last) => (.stalled, last) := rfl

@[simp] theorem throw_run (failure : Failure) (state : S) :
    (throw failure : Activity S A) state = (.failed failure, state) := rfl

theorem bind_ended {first : Activity S A} {next : A -> Activity S B} {state : S}
    (ended : ((first >>= next) state).1 ≠ .stalled) : (first state).1 ≠ .stalled := by
  intro stalled
  rcases ran : first state with ⟨_ | _ | _, last⟩ <;> rw [ran] at stalled <;> cases stalled
  exact ended (by rw [bind_run, ran])

theorem attempt_ended {activity : Activity S A} {state : S}
    (ended : (activity.attempt state).1 ≠ .stalled) : (activity state).1 ≠ .stalled := by
  intro stalled
  rcases ran : activity state with ⟨_ | _ | _, last⟩ <;> rw [ran] at stalled <;> cases stalled
  exact ended (by rw [attempt_run, ran])

def Yields (activity : Activity S A) (property : A -> Prop) : Prop :=
  ∀ state value last, activity state = (.ok value, last) → property value

theorem yields_pure {property : A -> Prop} {value : A} (holds : property value) :
    (pure value : Activity S A).Yields property := by
  intro state result last ran
  simp only [pure_run, Prod.mk.injEq, Outcome.ok.injEq] at ran
  exact ran.1 ▸ holds

theorem yields_throw (property : A -> Prop) (failure : Failure) :
    (throw failure : Activity S A).Yields property := by
  intro state result last ran
  simp at ran

theorem yields_bind {first : Activity S A} {next : A -> Activity S B} {property : B -> Prop}
    (each : ∀ middle, (next middle).Yields property) : (first >>= next).Yields property := by
  intro state value last ran
  obtain ⟨middle, between, -, rest⟩ := (bind_ok ..).mp ran
  exact each middle between value last rest

/-! ## What an activity raises -/

def Raises (activity : Activity S A) (property : Failure -> Prop) : Prop :=
  ∀ state failure last, activity state = (.failed failure, last) → property failure

theorem Raises.mono {activity : Activity S A} {property weaker : Failure -> Prop}
    (raises : activity.Raises property) (implied : ∀ failure, property failure → weaker failure) :
    activity.Raises weaker :=
  fun state failure last ran => implied failure (raises state failure last ran)

theorem raises_pure (property : Failure -> Prop) (value : A) :
    (pure value : Activity S A).Raises property := by
  intro state failure last ran
  simp at ran

theorem raises_look (property : Failure -> Prop) (view : S -> A) :
    (look view).Raises property := by
  intro state failure last ran
  simp at ran

theorem raises_change (property : Failure -> Prop) (update : S -> S) :
    (change update).Raises property := by
  intro state failure last ran
  simp at ran

theorem raises_throw {property : Failure -> Prop} {failure : Failure} (holds : property failure) :
    (throw failure : Activity S A).Raises property := by
  intro state met last ran
  simp only [throw_run, Prod.mk.injEq, Outcome.failed.injEq] at ran
  exact ran.1 ▸ holds

theorem raises_bind_attempt {first : Activity S A} {next : Except Failure A -> Activity S B}
    {property before : Failure -> Prop} (met : first.Raises before)
    (passed : ∀ value, (next (.ok value)).Raises property)
    (failed : ∀ failure, before failure → (next (.error failure)).Raises property) :
    (first.attempt >>= next).Raises property := by
  intro state failure last ran
  rw [bind_run, attempt] at ran
  rcases started : first state with ⟨value | cause | _, between⟩ <;> rw [started] at ran
  · exact passed value between failure last ran
  · exact failed cause (met _ _ _ started) between failure last ran
  · cases ran

theorem raises_bind {first : Activity S A} {next : A -> Activity S B}
    {property : Failure -> Prop} (before : first.Raises property)
    (each : ∀ middle, (next middle).Raises property) : (first >>= next).Raises property := by
  intro state failure last ran
  rw [bind_run] at ran
  rcases started : first state with ⟨middle | met | _, between⟩ <;> rw [started] at ran
  · exact each middle between failure last ran
  · cases ran
    exact before _ _ _ started
  · cases ran

/-! ## Activities that come to an end -/

/-- The activity never stalls, and it raises no other failures than these. -/
def Ends (activity : Activity S A) (property : Failure -> Prop) : Prop :=
  ∀ state, (activity state).1 ≠ .stalled ∧
    ∀ failure, (activity state).1 = .failed failure → property failure

variable {property : Failure -> Prop}

theorem Ends.raises {activity : Activity S A} (ends : activity.Ends property) :
    activity.Raises property := by
  intro state failure last ran
  exact (ends state).2 failure (by rw [ran])

theorem Ends.mono {activity : Activity S A} {weaker : Failure -> Prop}
    (ends : activity.Ends property) (implied : ∀ failure, property failure → weaker failure) :
    activity.Ends weaker :=
  fun state => ⟨(ends state).1, fun failure raised => implied failure ((ends state).2 failure raised)⟩

theorem ends_pure (value : A) : (pure value : Activity S A).Ends property :=
  fun _ => ⟨nofun, nofun⟩

theorem ends_throw {failure : Failure} (holds : property failure) :
    (throw failure : Activity S A).Ends property := by
  intro state
  refine ⟨nofun, ?_⟩
  rintro _ ⟨⟩
  exact holds

theorem ends_look (view : S -> A) : (look view).Ends property := fun _ => ⟨nofun, nofun⟩

theorem ends_change (update : S -> S) : (change update).Ends property := fun _ => ⟨nofun, nofun⟩

theorem ends_attempt {activity : Activity S A} (ends : activity.Ends fun _ => True) :
    activity.attempt.Ends property := by
  intro state
  rw [attempt_run]
  rcases ran : activity state with ⟨value | failure | _, last⟩
  · exact ⟨nofun, nofun⟩
  · exact ⟨nofun, nofun⟩
  · exact absurd (congrArg Prod.fst ran) (ends state).1

theorem ends_bind {first : Activity S A} {next : A -> Activity S B} (before : first.Ends property)
    (each : ∀ middle, (next middle).Ends property) : (first >>= next).Ends property := by
  intro state
  have ended := before state
  rw [bind_run]
  rcases ran : first state with ⟨middle | failure | _, between⟩ <;> rw [ran] at ended
  · exact each middle between
  · refine ⟨nofun, ?_⟩
    rintro _ ⟨⟩
    exact ended.2 failure rfl
  · exact absurd rfl ended.1

/-! ## Keeping a view -/

variable {V : Type} {view : S -> V}

def Keeps (view : S -> V) (activity : Activity S A) : Prop :=
  ∀ state, view (activity state).2 = view state

theorem Keeps.of_run {activity : Activity S A} (keeps : activity.Keeps view) {state last : S}
    {outcome : Outcome A} (ran : activity state = (outcome, last)) : view last = view state := by
  have kept := keeps state
  rwa [ran] at kept

theorem keeps_pure (value : A) : (pure value : Activity S A).Keeps view := fun _ => rfl

theorem keeps_look (seen : S -> A) : (look seen).Keeps view := fun _ => rfl

theorem keeps_throw (failure : Failure) : (throw failure : Activity S A).Keeps view := fun _ => rfl

theorem keeps_change {update : S -> S} (kept : ∀ state, view (update state) = view state) :
    (change update).Keeps view := kept

theorem keeps_ofExcept (result : Except Failure A) :
    (ofExcept result : Activity S A).Keeps view := by
  intro state
  cases result <;> rfl

theorem keeps_bind_of_yields {first : Activity S A} {next : A -> Activity S B}
    {property : A -> Prop} (before : first.Keeps view) (yields : first.Yields property)
    (each : ∀ value, property value → (next value).Keeps view) : (first >>= next).Keeps view := by
  intro state
  rw [← before state, bind_run]
  rcases ran : first state with ⟨value | failure | _, between⟩
  · exact each value (yields _ _ _ ran) between
  · rfl
  · rfl

theorem keeps_bind {first : Activity S A} {next : A -> Activity S B} (before : first.Keeps view)
    (each : ∀ value, (next value).Keeps view) : (first >>= next).Keeps view := by
  have yields : first.Yields fun _ => True := fun _ _ _ _ => trivial
  exact keeps_bind_of_yields before yields fun value _ => each value

end Activity

end Rehearsal
