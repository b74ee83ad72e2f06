import Rehearsal.Failure

/-!
Activities: what changes a state and may fail on the way. A failure keeps the state that it was
met in, so a later step sees all effects of an earlier one that failed. Loops that ran out of
their allowance neither succeed nor fail, and nothing catches that.
-/

set_option autoImplicit false

namespace Rehearsal

inductive Outcome (A : Type) where
  | ok (value : A)
  | failed (failure : Failure)
  | stalled

def Activity (S A : Type) := S -> Outcome A × S

namespace Activity

variable {S A B : Type}

def done (value : A) : Activity S A := fun state => (.ok value, state)

def andThen (first : Activity S A) (next : A -> Activity S B) : Activity S B := fun state =>
  match first state with
  | (.ok value, state) => next value state
  | (.failed failure, state) => (.failed failure, state)
  | (.stalled, state) => (.stalled, state)

instance : Monad (Activity S) where
  pure := done
  bind := andThen

def fail (failure : Failure) : Activity S A := fun state => (.failed failure, state)

def stall : Activity S A := fun state => (.stalled, state)

/-- Goes on with `handler` where the activity failed. -/
def rescue (activity : Activity S A) (handler : Failure -> Activity S A) : Activity S A :=
  fun state =>
    match activity state with
    | (.failed failure, state) => handler failure state
    | result => result

instance : MonadExceptOf Failure (Activity S) where
  throw := fail
  tryCatch := rescue

/-- Turns a failure into a value. -/
def attempt (activity : Activity S A) : Activity S (Except Failure A) := fun state =>
  match activity state with
  | (.ok value, state) => (.ok (.ok value), state)
  | (.failed failure, state) => (.ok (.error failure), state)
  | (.stalled, state) => (.stalled, state)

def look (view : S -> A) : Activity S A := fun state => (.ok (view state), state)

def change (update : S -> S) : Activity S Unit := fun state => (.ok (), update state)

def ofExcept : Except Failure A -> Activity S A
  | .ok value => done value
  | .error failure => fail failure

@[simp] theorem pure_run (value : A) (state : S) :
    (pure value : Activity S A) state = (.ok value, state) := rfl

theorem bind_run (first : Activity S A) (next : A -> Activity S B) (state : S) :
    (first >>= next) state =
      match first state with
      | (.ok value, state) => next value state
      | (.failed failure, state) => (.failed failure, state)
      | (.stalled, state) => (.stalled, state) := rfl

@[simp] theorem look_run (view : S -> A) (state : S) :
    look view state = (.ok (view state), state) := rfl

@[simp] theorem change_run (update : S -> S) (state : S) :
    change update state = (.ok (), update state) := rfl

@[simp] theorem fail_run (failure : Failure) (state : S) :
    (fail failure : Activity S A) state = (.failed failure, state) := rfl

end Activity

end Rehearsal
