import Rehearsal.Comparison
import Rehearsal.Proofs.Number.Doubles
import Rehearsal.Proofs.Record.FormReading

/-!
How the operators hang together. Each reads the same two values in a way of its own, so what passes
for one of them says something of the others. A comparison that fails shows both sides, or the one
that could not be read.
-/

set_option autoImplicit false

/-! ## Refusal -/

namespace Rehearsal.Comparison

/-- A comparison that fails shows both sides, or the one that could not be read. -/
inductive Refuses (actual expected : Datum) : Failure -> Prop where
  | mismatch (operator : Operator) :
      Refuses actual expected
        (.mismatch (textOf actual) expected (textOf expected) operator.label)
  | notBoolean {value : Datum} (member : value = actual ∨ value = expected) :
      Refuses actual expected (.notBoolean value.display)
  | notNumeric {role : String} {value : Datum}
      (known : role = "Actual" ∧ value = actual ∨ role = "Expected" ∧ value = expected) :
      Refuses actual expected (.notNumeric role value.display)

theorem truthOf_error {value : Datum} {failure : Failure}
    (unread : truthOf value = .error failure) : failure = .notBoolean value.display := by
  unfold truthOf at unread
  split at unread
  · cases unread
  · split at unread <;> cases unread
    rfl

theorem numberOf_error {role : String} {value : Datum} {failure : Failure}
    (unread : numberOf role value = .error failure) : failure = .notNumeric role value.display := by
  unfold numberOf at unread
  split at unread <;> cases unread
  rfl

theorem numbers_error {A : Type} {actual expected : Datum} {failure : Failure}
    (compare : Float -> Float -> A)
    (unread : (do
      let left ← numberOf "Actual" actual
      let right ← numberOf "Expected" expected
      return compare left right) = .error failure) :
    Refuses actual expected failure := by
  cases left : numberOf "Actual" actual with
  | error met =>
    rw [left] at unread
    cases unread
    exact numberOf_error left ▸ .notNumeric (.inl ⟨rfl, rfl⟩)
  | ok number =>
    cases right : numberOf "Expected" expected with
    | error met =>
      rw [left, right] at unread
      cases unread
      exact numberOf_error right ▸ .notNumeric (.inr ⟨rfl, rfl⟩)
    | ok other =>
      rw [left, right] at unread
      cases unread

theorem holds_error {actual expected : Datum} {operator : Operator} {failure : Failure}
    (unread : holds actual expected operator = .error failure) :
    Refuses actual expected failure := by
  have unreadTruth : ∀ {value : Datum}, value = actual ∨ value = expected →
      truthOf value = .error failure → Refuses actual expected failure := by
    intro value member unread
    exact truthOf_error unread ▸ .notBoolean member
  cases operator with
  | equals =>
    cases actual with
    | bool truth =>
      cases read : truthOf expected with
      | ok other =>
        rw [holds, read] at unread
        cases unread
      | error met =>
        rw [holds, read] at unread
        cases unread
        exact unreadTruth (.inr rfl) read
    | _ => cases unread
  | contains => cases unread
  | isTrue => exact unreadTruth (.inl rfl) unread
  | isFalse =>
    cases read : truthOf actual with
    | ok truth =>
      rw [holds, read] at unread
      cases unread
    | error met =>
      rw [holds, read] at unread
      cases unread
      exact unreadTruth (.inl rfl) read
  | greaterThan => exact numbers_error _ unread
  | lessThan => exact numbers_error _ unread

theorem check_error {actual expected : Datum} {operator : Operator} {failure : Failure}
    (failed : check actual expected operator = .error failure) :
    Refuses actual expected failure := by
  cases held : holds actual expected operator with
  | error met =>
    rw [check, held] at failed
    cases failed
    exact holds_error held
  | ok truth =>
    rw [check, held] at failed
    cases truth with
    | true => cases failed
    | false =>
      cases failed
      exact .mismatch operator

end Rehearsal.Comparison

/-! ## What passes -/

namespace Rehearsal.Comparison

variable {actual expected : Datum} {operator : Operator}

def Passes (actual expected : Datum) (operator : Operator) : Prop :=
  checkLabelled actual expected operator.label = .ok ()

/-- The value is written as a number. -/
def Reads (value : Datum) (number : Float) : Prop :=
  Number.readFloat? (Text.trim (textOf value)) = some number

/-- The operator that asks for this truth. -/
def asking : Bool -> Operator
  | true => .isTrue
  | false => .isFalse

theorem checkLabelled_label (actual expected : Datum) (operator : Operator) :
    checkLabelled actual expected operator.label = check actual expected operator := by
  cases operator <;> rfl

theorem Refuses.kind {failure : Failure} (refuses : Refuses actual expected failure) :
    failure.kind? = some .assertionMismatch := by
  cases refuses <;> rfl

theorem settles (actual expected : Datum) (operator : Operator) :
    Passes actual expected operator ∨ ∃ failure,
      checkLabelled actual expected operator.label = .error failure ∧
        failure.kind? = some .assertionMismatch := by
  rw [Passes, checkLabelled_label]
  cases told : check actual expected operator with
  | ok passed => exact .inl rfl
  | error failure => exact .inr ⟨failure, rfl, (check_error told).kind⟩

/-! ## Truth values -/

structure Coherent (actual expected : Datum) : Prop where
  settles : ∀ operator, Passes actual expected operator ∨ ∃ failure,
    checkLabelled actual expected operator.label = .error failure ∧
      failure.kind? = some .assertionMismatch
  exclusive : ∀ other, ¬ (Passes actual expected .isTrue ∧ Passes actual other .isFalse)
  truth : ∀ truth, actual = .bool truth →
    (Passes actual expected .equals ↔
      ∃ other, truthOf expected = .ok other ∧ Passes actual expected (asking other))
  contained : (∀ truth, actual ≠ .bool truth) →
    Passes actual expected .equals → Passes actual expected .contains
  mirrored : Passes actual expected .greaterThan ↔ Passes expected actual .lessThan
  apart : ¬ (Passes actual expected .greaterThan ∧ Passes actual expected .lessThan)
  numeric : Passes actual expected .greaterThan ∨ Passes actual expected .lessThan →
    (∃ number, Reads actual number) ∧ ∃ number, Reads expected number

end Rehearsal.Comparison
