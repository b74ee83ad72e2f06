import Rehearsal.Proofs.Time.PollReading

/-!
Exact seconds together with the infinities, and with what is no number. Who waits for a deadline
pauses again and again, and comes to it after finitely many pauses only if the time that is left is
finite and each pause takes something off it.
-/

set_option autoImplicit false

namespace Rehearsal

namespace Scale

variable {T : Type} [Scale T] {interval deadline now : T}

def isDue (deadline now : T) : Bool := le (sub deadline now) zero

/-- The time after a pause before the deadline; none turns the time back. -/
def tick (interval deadline now : T) : T :=
  add now (later (earlier interval (sub deadline now)) zero)

def Expires (interval deadline now : T) : Prop :=
  ∃ count, isDue deadline ((tick interval deadline)^[count] now) = true

theorem expires_of_tick (later : Expires interval deadline (tick interval deadline now)) :
    Expires interval deadline now := by
  obtain ⟨count, due⟩ := later
  exact ⟨count + 1, due⟩

/-- Something that holds of all times from now on keeps them all before the deadline. -/
theorem not_expires (holds : T -> Prop) (start : holds now)
    (early : ∀ time, holds time → isDue deadline time = false)
    (kept : ∀ time, holds time → holds (tick interval deadline time)) :
    ¬ Expires interval deadline now := by
  rintro ⟨count, due⟩
  have held : holds ((tick interval deadline)^[count] now) := by
    clear due
    induction count with
    | zero => exact start
    | succ count ih =>
      rw [Function.iterate_succ_apply']
      exact kept _ ih
  rw [early _ held] at due
  cases due

end Scale

open Scale (isDue tick Expires)

/-- Exact seconds, and what doubles have beside them. -/
inductive Extent where
  | finite (seconds : Rat)
  | infinite (negative : Bool)
  | nan
  deriving DecidableEq

namespace Extent

def neg : Extent -> Extent
  | .finite seconds => .finite (-seconds)
  | .infinite negative => .infinite (!negative)
  | .nan => .nan

def add : Extent -> Extent -> Extent
  | .nan, _ | _, .nan => .nan
  | .finite left, .finite right => .finite (left + right)
  | .infinite negative, .finite _ | .finite _, .infinite negative => .infinite negative
  | .infinite left, .infinite right => if left = right then .infinite left else .nan

def mul : Extent -> Extent -> Extent
  | .nan, _ | _, .nan => .nan
  | .finite left, .finite right => .finite (left * right)
  | .infinite negative, .finite seconds | .finite seconds, .infinite negative =>
    if seconds = 0 then .nan else .infinite (negative != decide (seconds < 0))
  | .infinite left, .infinite right => .infinite (left != right)

def lt : Extent -> Extent -> Bool
  | .nan, _ | _, .nan => false
  | .finite left, .finite right => left < right
  | .infinite negative, .finite _ => negative
  | .finite _, .infinite negative => !negative
  | .infinite left, .infinite right => left && !right

def le : Extent -> Extent -> Bool
  | .nan, _ | _, .nan => false
  | .finite left, .finite right => left <= right
  | .infinite negative, .finite _ => negative
  | .finite _, .infinite negative => !negative
  | .infinite left, .infinite right => left || !right

def ofFloat (value : Float) : Extent :=
  match Number.Binary.ofFloat value with
  | .finite _ _ _ => .finite ((Number.toRat? value).getD 0)
  | .infinite negative => .infinite negative
  | .nan => .nan

def text : Extent -> String
  | .finite seconds => Number.generalRat seconds
  | .infinite negative => if negative then "-inf" else "inf"
  | .nan => "nan"

/-- Whole numbers that no double comes near are too large here as well. -/
instance : Scale Extent where
  zero := .finite 0
  add := add
  sub left right := add left (neg right)
  le := le
  lt := lt
  ofInt? count := (Number.ofInt? count).map fun _ => .finite count
  mul := mul
  ofSeconds := ofFloat
  hundredths count := .finite (mkRat count 100)
  thousandfold value := mul value (.finite 1000)
  whole?
    | .finite seconds => some (seconds.num.tdiv seconds.den)
    | _ => none
  text := text

def IsPositive : Extent -> Prop
  | .finite seconds => 0 < seconds
  | .infinite negative => negative = false
  | .nan => False

/-- The time is up after finitely many pauses of this length. -/
def Bounds : (timeout interval : Extent) -> Prop
  | .finite seconds, interval => 0 < seconds → interval.IsPositive
  | .infinite negative, _ => negative = true
  | .nan, _ => False

variable {start now deadline : Rat} {interval : Extent}

/-! ## One pause -/

theorem isDue_finite : isDue (finite deadline) (finite now) = true ↔ deadline ≤ now := by
  change decide (deadline + -now ≤ 0) = true ↔ _
  rw [decide_eq_true_iff, ← sub_eq_add_neg, sub_nonpos]

theorem earlier_finite (left right : Rat) :
    Scale.earlier (finite left) (finite right) = finite (min left right) := by
  change (if decide (right < left) = true then finite right else finite left) = _
  by_cases less : right < left
  · rw [if_pos (decide_eq_true less), min_eq_right less.le]
  · rw [if_neg (by simpa using less), min_eq_left (not_lt.mp less)]

theorem later_finite (left right : Rat) :
    Scale.later (finite left) (finite right) = finite (max left right) := by
  change (if decide (left < right) = true then finite right else finite left) = _
  by_cases less : left < right
  · rw [if_pos (decide_eq_true less), max_eq_right less.le]
  · rw [if_neg (by simpa using less), max_eq_left (not_lt.mp less)]

theorem tick_finite (seconds deadline now : Rat) :
    tick (finite seconds) (finite deadline) (finite now) =
      finite (now + max (min seconds (deadline - now)) 0) := by
  change add (finite now) (Scale.later (Scale.earlier (finite seconds) (finite (deadline + -now)))
    (finite 0)) = _
  rw [earlier_finite, later_finite, ← sub_eq_add_neg]
  rfl

theorem tick_infinite (early : now < deadline) :
    tick (infinite false) (finite deadline) (finite now) = finite deadline := by
  have left : max (deadline - now) 0 = deadline - now := max_eq_left (by linarith)
  change add (finite now) (Scale.later (finite (deadline + -now)) (finite 0)) = _
  rw [later_finite, ← sub_eq_add_neg, left]
  exact congrArg finite (add_sub_cancel now deadline)

theorem tick_back (back : ¬ interval.IsPositive) (number : interval ≠ nan) :
    tick interval (finite deadline) (finite now) = finite now := by
  cases interval with
  | finite seconds =>
    have none : max (min seconds (deadline - now)) 0 = 0 :=
      max_eq_right (min_le_of_left_le (not_lt.mp back))
    rw [tick_finite, none, add_zero]
  | infinite negative =>
    obtain rfl : negative = true := by simpa [IsPositive] using back
    exact congrArg finite (add_zero now)
  | nan => exact absurd rfl number

theorem isDue_nan (time : Extent) : isDue nan time = false := by cases time <;> rfl

theorem isDue_at_nan (deadline : Extent) : isDue deadline nan = false := by cases deadline <;> rfl

theorem tick_at_nan (interval deadline : Extent) : tick interval deadline nan = nan := by
  cases interval <;> cases deadline <;> rfl

theorem tick_nan : tick nan (finite deadline) (finite now) = nan := rfl

/-! ## All pauses -/

theorem expires_of_pauses {seconds : Rat} (forward : 0 < seconds) (count : Nat)
    (enough : deadline - now ≤ count * seconds) :
    Expires (finite seconds) (finite deadline) (finite now) := by
  induction count generalizing now with
  | zero =>
    rw [Nat.cast_zero, zero_mul, sub_nonpos] at enough
    exact ⟨0, isDue_finite.mpr enough⟩
  | succ count ih =>
    apply Scale.expires_of_tick
    rw [tick_finite]
    apply ih
    have left := Polling.sub_min_le forward enough
    have taken := le_max_left (min seconds (deadline - now)) 0
    linarith

theorem expires_of_forward (forward : interval.IsPositive) :
    Expires interval (finite deadline) (finite now) := by
  cases interval with
  | finite seconds =>
    have enough := Nat.le_ceil ((deadline - now) / seconds)
    exact expires_of_pauses forward _ ((div_le_iff₀ forward).mp enough)
  | infinite negative =>
    obtain rfl : negative = false := forward
    by_cases late : deadline ≤ now
    · exact ⟨0, isDue_finite.mpr late⟩
    · refine ⟨1, ?_⟩
      rw [Function.iterate_one, tick_infinite (not_le.mp late)]
      exact isDue_finite.mpr le_rfl
  | nan => exact forward.elim

/-- Where the pauses take nothing off it, the time that is left stays. -/
theorem not_expires_of_back (back : ¬ interval.IsPositive) (early : now < deadline) :
    ¬ Expires interval (finite deadline) (finite now) := by
  have open_ : isDue (finite deadline) (finite now) = false := by
    rw [Bool.eq_false_iff, ne_eq, isDue_finite]
    exact not_le.mpr early
  -- A pause that is no number makes the time none either, and then it is never due.
  by_cases number : interval = nan
  · subst number
    refine Scale.not_expires (fun time => time = finite now ∨ time = nan) (.inl rfl) ?_ ?_
    · rintro time (rfl | rfl)
      · exact open_
      · exact isDue_at_nan _
    · rintro time (rfl | rfl)
      · exact .inr tick_nan
      · exact .inr (tick_at_nan _ _)
  · refine Scale.not_expires (fun time => time = finite now) rfl ?_ ?_
    · rintro time rfl
      exact open_
    · rintro time rfl
      exact tick_back back number

theorem later_begun (time : Extent) : Scale.later time (finite 0) ≠ infinite true := by
  cases time with
  | finite seconds =>
    rw [later_finite]
    nofun
  | infinite negative => cases negative <;> nofun
  | nan => nofun

theorem add_begun {left right : Extent} (one : left ≠ infinite true)
    (other : right ≠ infinite true) : add left right ≠ infinite true := by
  cases left with
  | finite seconds => cases right <;> simp_all [add]
  | infinite negative =>
    obtain rfl : negative = false := by simpa using one
    cases right <;> simp_all [add]
  | nan => nofun

/-- The deadline is infinitely far away, and the time stays before it, or is no number any more. -/
theorem not_expires_of_infinite {time : Extent} (begun : time ≠ infinite true) :
    ¬ Expires interval (infinite false) time := by
  refine Scale.not_expires (fun time => time ≠ infinite true) begun ?_ ?_
  · intro time begun
    cases time with
    | finite seconds => rfl
    | infinite negative =>
      cases negative with
      | false => rfl
      | true => exact absurd rfl begun
    | nan => rfl
  · intro time begun
    exact add_begun begun (later_begun _)

theorem expires_iff (timeout interval : Extent) (start : Rat) :
    Expires interval (Scale.add (finite start) timeout) (finite start) ↔
      Bounds timeout interval := by
  cases timeout with
  | finite seconds =>
    change Expires interval (finite (start + seconds)) (finite start) ↔
      (0 < seconds → interval.IsPositive)
    constructor
    · intro expires room
      by_contra back
      exact not_expires_of_back back (by linarith) expires
    · intro forward
      by_cases room : 0 < seconds
      · exact expires_of_forward (forward room)
      · exact ⟨0, isDue_finite.mpr (by linarith)⟩
  | infinite negative =>
    cases negative with
    | true => exact iff_of_true ⟨0, rfl⟩ rfl
    | false => exact iff_of_false (not_expires_of_infinite nofun) nofun
  | nan =>
    refine iff_of_false ?_ nofun
    exact Scale.not_expires (fun _ => True) trivial (fun time _ => isDue_nan time)
      fun _ _ => trivial

end Extent

end Rehearsal
