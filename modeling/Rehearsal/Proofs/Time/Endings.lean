import Rehearsal.Proofs.Time.Extents
import Rehearsal.Proofs.Time.PollHistory

/-!
Where only the pauses take time, and nothing that is tried ever succeeds. The loops then end exactly
if the time comes to the deadline by pauses alone, and else go on for as long as there is fuel.
-/

set_option autoImplicit false

namespace Rehearsal

open Scale (isDue tick Expires)

variable {S T A : Type} [Scale T]

/-- The clock is moved by what is slept, and never turned back. -/
def Clock.Forward (clock : Clock S T) : Prop :=
  ∀ span state, clock.now (clock.sleep span state) =
    Scale.add (clock.now state) (Scale.later span Scale.zero)

namespace Polling

variable {polling : Polling T} {clock : Clock S T} {probe : Activity S (Option A)} {deadline : T}
  {fuel count : Nat} {state : S} {latest : Option Failure}

/-- All looks are in vain and take no time. -/
def Vain (clock : Clock S T) (probe : Activity S (Option A)) : Prop :=
  ∀ state, ∃ finding last, Finds probe state finding last ∧ finding.isVain = true ∧
    clock.now last = clock.now state

def TimesOut (polling : Polling T) (ended : Outcome A × S) : Prop :=
  ∃ cause, ended.1 = .failed (polling.timeoutFailure cause)

theorem tick_pauses (forward : clock.Forward) (state : S) :
    clock.now (polling.pauses clock deadline state) =
      tick polling.interval deadline (clock.now state) := forward _ _

theorem isOver_eq (deadline : T) (state : S) :
    isOver clock deadline state = isDue deadline (clock.now state) := rfl

theorem verdict_of_vain {finding : Sight A} (vain : finding.isVain = true) :
    polling.verdict latest finding = .failed (polling.timeoutFailure latest) := by
  cases finding <;> first | rfl | cases vain

theorem rounds_time_out (forward : clock.Forward) (vain : Vain clock probe)
    (due : isDue deadline ((tick polling.interval deadline)^[count] (clock.now state)) = true)
    (enough : count < fuel) :
    polling.TimesOut (polling.rounds clock deadline probe fuel latest state) := by
  -- `count` pauses lead up to the deadline; each round takes one of them.
  induction fuel generalizing count state latest with
  | zero => omega
  | succ fuel ih =>
    obtain ⟨finding, after, found, none, free⟩ := vain state
    rw [rounds_of_finds found, none, Bool.true_and]
    cases late : isOver clock deadline after with
    | true => exact ⟨_, verdict_of_vain none⟩
    | false =>
      cases count with
      | zero =>
        rw [isOver_eq, free] at late
        exact absurd (due.symm.trans late) nofun
      | succ count =>
        have enough : count < fuel := by omega
        refine ih ?_ enough
        rwa [tick_pauses forward, free]

theorem rounds_stall (forward : clock.Forward) (vain : Vain clock probe)
    (endless : ¬ Expires polling.interval deadline (clock.now state)) :
    (polling.rounds clock deadline probe fuel latest state).1 = .stalled := by
  induction fuel generalizing state latest with
  | zero => rfl
  | succ fuel ih =>
    obtain ⟨finding, after, found, none, free⟩ := vain state
    have timely : isOver clock deadline after = false := by
      rw [isOver_eq, free, Bool.eq_false_iff]
      exact fun due => endless ⟨0, due⟩
    rw [rounds_of_finds found, none, timely]
    refine ih fun expires => endless (Scale.expires_of_tick ?_)
    rwa [tick_pauses forward, free] at expires

end Polling

namespace Retrier

variable {retrier : Retrier S T} {step : Activity S A} {budget deadline : T} {description : String}
  {fuel attempts count : Nat} {state : S} {cause : Option Failure}

/-- All attempts fail and take no time, and so does what is done to restore the session. -/
def Failing (retrier : Retrier S T) (step : Activity S A) : Prop :=
  ∀ number state, ∃ trial last, retrier.Tries step number state trial last ∧
    (∀ value, trial ≠ .passed value) ∧ retrier.clock.now last = retrier.clock.now state

/-- No attempt shows that the configuration is wrong. -/
def Retried (retrier : Retrier S T) (step : Activity S A) : Prop :=
  ∀ number state failure last, ¬ retrier.Tries step number state (.refused failure) last

def Fails (ended : Outcome (Except StepFailure A) × S) : Prop :=
  ∃ failure, ended.1 = .ok (.error failure)

theorem tick_pauses (forward : retrier.clock.Forward) (state : S) :
    retrier.clock.now (retrier.pauses deadline state) =
      tick retrier.policy.pause deadline (retrier.clock.now state) := forward _ _

omit [Scale T] in
theorem retried_or_refused {trial : Trial A} (failed : ∀ value, trial ≠ .passed value) :
    trial.isRetried = true ∨ ∃ failure, trial = .refused failure := by
  cases trial with
  | passed value => exact absurd rfl (failed value)
  | refused failure => exact .inr ⟨failure, rfl⟩
  | failed failure => exact .inl rfl
  | lost failure flaw => exact .inl rfl

theorem isOver_eq (deadline : T) (state : S) :
    retrier.isOver deadline state = isDue deadline (retrier.clock.now state) := rfl

theorem verdict_fails {trial : Trial A} (failed : ∀ value, trial ≠ .passed value)
    (description : String) (budget : T) (attempts : Nat) (cause : Option Failure) :
    ∃ failure, verdict description budget attempts cause trial = .error failure := by
  cases trial with
  | passed value => exact absurd rfl (failed value)
  | _ => exact ⟨_, rfl⟩

theorem rounds_fail (forward : retrier.clock.Forward) (failing : retrier.Failing step)
    (due : isDue deadline
      ((tick retrier.policy.pause deadline)^[count] (retrier.clock.now state)) = true)
    (enough : count < fuel) :
    Fails (retrier.rounds description step budget deadline fuel attempts cause state) := by
  -- As for polling, `count` is one less after each round.
  induction fuel generalizing count attempts cause state with
  | zero => omega
  | succ fuel ih =>
    obtain ⟨trial, after, tried, failed, free⟩ := failing (attempts + 1) state
    rw [rounds_of_tries tried]
    cases goesOn : trial.isRetried && !retrier.isOver deadline after with
    | false =>
      obtain ⟨failure, ended⟩ := verdict_fails failed description budget (attempts + 1) _
      exact ⟨failure, congrArg Outcome.ok ended⟩
    | true =>
      have timely := Bool.eq_false_of_not_eq_true' (Bool.and_eq_true_iff.mp goesOn).2
      cases count with
      | zero =>
        rw [isOver_eq, free] at timely
        exact absurd (due.symm.trans timely) nofun
      | succ count =>
        have enough : count < fuel := by omega
        refine ih ?_ enough
        rwa [tick_pauses forward, free]

theorem rounds_stall (forward : retrier.clock.Forward) (failing : retrier.Failing step)
    (retried : retrier.Retried step)
    (endless : ¬ Expires retrier.policy.pause deadline (retrier.clock.now state)) :
    (retrier.rounds description step budget deadline fuel attempts cause state).1 = .stalled := by
  induction fuel generalizing attempts cause state with
  | zero => rfl
  | succ fuel ih =>
    obtain ⟨trial, after, tried, failed, free⟩ := failing (attempts + 1) state
    have again : trial.isRetried = true := by
      rcases retried_or_refused failed with again | ⟨failure, rfl⟩
      · exact again
      · exact absurd tried (retried _ _ _ _)
    have timely : retrier.isOver deadline after = false := by
      rw [isOver_eq, free, Bool.eq_false_iff]
      exact fun due => endless ⟨0, due⟩
    rw [rounds_of_tries tried, again, timely]
    refine ih fun expires => endless (Scale.expires_of_tick ?_)
    rwa [tick_pauses forward, free] at expires

/-- Without a number on the scale for the attempts there is no attempt. -/
theorem run_unheld {attempts : Int} {delay : T} (unheld : (Scale.ofInt? attempts : Option T) = none)
    (policy : retrier.policy = { attempts := .whole attempts, delay := .exact delay }) :
    retrier.run fuel description step state = (.failed beyondScale, state) := by
  apply run_of_no_budget
  rw [policy]
  change (do
    let product ← (Scale.ofInt? attempts).bind fun left =>
      some (Quantity.exact (Scale.mul left (Scale.add delay (Scale.hundredths 100))))
    product.onScale?) = none
  rw [unheld]
  rfl

end Retrier

/-! ## From a finite time on -/

namespace Polling

variable {polling : Polling Extent} {clock : Clock S Extent} {probe : Activity S (Option A)}
  {start : S} {begun : Rat}

theorem run_bounded (forward : clock.Forward) (vain : Vain clock probe)
    (here : clock.now start = .finite begun)
    (bounds : polling.timeout.Bounds polling.interval) :
    ∃ limit, ∀ fuel, limit ≤ fuel → polling.TimesOut (polling.run clock fuel probe start) := by
  obtain ⟨count, due⟩ := (Extent.expires_iff _ _ begun).mpr bounds
  rw [← here] at due
  refine ⟨count + 1, fun fuel enough => ?_⟩
  exact rounds_time_out forward vain due (by omega)

theorem run_endless (forward : clock.Forward) (vain : Vain clock probe)
    (here : clock.now start = .finite begun)
    (unbounded : ¬ polling.timeout.Bounds polling.interval) (fuel : Nat) :
    (polling.run clock fuel probe start).1 = .stalled := by
  apply rounds_stall forward vain
  rwa [here, Extent.expires_iff]

end Polling

namespace Extent

/-- The time that so many attempts with this delay may take in all comes to its end. -/
def Affords (attempts : Int) : (delay : Extent) -> Prop
  | .finite _ => True
  | .infinite negative => if negative then 0 < attempts else attempts < 0
  | .nan => False

theorem isPositive_pause (delay : Rat) :
    (Scale.later (finite delay) (Scale.hundredths 10)).IsPositive := by
  have tenth : (0 : Rat) < mkRat 10 100 := by decide
  change (Scale.later (finite delay) (finite (mkRat 10 100))).IsPositive
  rw [later_finite]
  exact lt_max_of_lt_right tenth

theorem bounds_budget_iff (attempts : Int) (delay : Extent) :
    Bounds (Scale.mul (finite attempts) (Scale.add delay (Scale.hundredths 100)))
      (Scale.later delay (Scale.hundredths 10)) ↔ Affords attempts delay := by
  cases delay with
  | finite seconds => exact iff_of_true (fun _ => isPositive_pause seconds) trivial
  | infinite negative =>
    change Bounds (if (attempts : Rat) = 0 then nan
      else infinite (negative != decide ((attempts : Rat) < 0))) _ ↔ _
    by_cases none : (attempts : Rat) = 0
    · rw [if_pos none]
      obtain rfl : attempts = 0 := by exact_mod_cast none
      cases negative <;> simp [Bounds, Affords]
    · rw [if_neg none]
      have other : attempts ≠ 0 := by exact_mod_cast none
      cases negative with
      | false => simp [Bounds, Affords]
      | true =>
        have sign : (attempts : Rat) < 0 ↔ attempts < 0 := Int.cast_lt_zero
        simp only [Bounds, Affords, if_true, sign, Bool.true_bne, Bool.not_eq_true',
          decide_eq_false_iff_not]
        omega
  | nan => exact Iff.rfl

end Extent

namespace Retrier

variable {retrier : Retrier S Extent} {step : Activity S A} {description : String} {start : S}
  {begun : Rat} {attempts : Int} {delay : Extent}

theorem budget?_eq (attempts : Int) (delay : Extent) :
    RetryPolicy.budget? { attempts := .whole attempts, delay := .exact delay } =
      (Number.ofInt? attempts).map fun _ =>
        Scale.mul (Extent.finite attempts) (Scale.add delay (Scale.hundredths 100)) := by
  change (do
    let product ← ((Number.ofInt? attempts).map fun _ => Extent.finite attempts).bind fun left =>
      some (Quantity.exact (Scale.mul left (Scale.add delay (Scale.hundredths 100))))
    product.onScale?) = _
  cases Number.ofInt? attempts <;> rfl

section

variable (policy : retrier.policy = { attempts := .whole attempts, delay := .exact delay })

include policy

theorem expires_pauses_iff :
    Expires retrier.policy.pause
      (Scale.add (.finite begun)
        (Scale.mul (.finite attempts) (Scale.add delay (Scale.hundredths 100))))
      (.finite begun) ↔ delay.Affords attempts := by
  rw [Extent.expires_iff, policy]
  exact Extent.bounds_budget_iff attempts delay

variable (forward : retrier.clock.Forward) (failing : retrier.Failing step)
  (here : retrier.clock.now start = .finite begun) (fits : (Number.ofInt? attempts).isSome)

include forward failing here fits

theorem run_bounded (affords : delay.Affords attempts) :
    ∃ limit, ∀ fuel, limit ≤ fuel → Fails (retrier.run fuel description step start) := by
  obtain ⟨image, fits⟩ := Option.isSome_iff_exists.mp fits
  have held := budget?_eq attempts delay
  rw [fits, Option.map_some, ← policy] at held
  obtain ⟨count, due⟩ := (expires_pauses_iff policy).mpr affords
  refine ⟨count + 1, fun fuel enough => ?_⟩
  rw [run_of_budget held]
  refine rounds_fail forward failing ?_ (Nat.lt_of_succ_le enough)
  rwa [here]

theorem run_endless (retried : retrier.Retried step) (unbounded : ¬ delay.Affords attempts)
    (fuel : Nat) : (retrier.run fuel description step start).1 = .stalled := by
  obtain ⟨image, fits⟩ := Option.isSome_iff_exists.mp fits
  have held := budget?_eq attempts delay
  rw [fits, Option.map_some, ← policy] at held
  rw [run_of_budget held]
  refine rounds_stall forward failing retried ?_
  rwa [here, expires_pauses_iff policy]

end

end Retrier

end Rehearsal
