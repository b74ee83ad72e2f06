import Rehearsal.Proofs.Time.RetryHistory
import Rehearsal.Simulation.Tape

/-!
What a retried step ends with. The outcome of a run is read off its history: the value or the
refusal of the last attempt, or else the latest cause that the attempts left behind.
-/

set_option autoImplicit false

namespace Rehearsal.Retrier

variable {S T A : Type} [Scale T]

def verdict (description : String) (budget : T) (attempts : Nat) (cause : Option Failure) :
    Trial A -> Except StepFailure A
  | .passed value => .ok value
  | .refused failure => .error { description, attempts, ending := .refused, cause := failure }
  | .failed _ | .lost _ _ => .error (giveUp description budget attempts cause)

theorem giveUp_attempts (description : String) (budget : T) (attempts : Nat)
    (cause : Option Failure) : (giveUp description budget attempts cause).attempts = attempts := by
  cases cause <;> rfl

theorem giveUp_cause (description : String) (budget : T) (attempts : Nat)
    (cause : Option Failure) :
    (giveUp description budget attempts cause).cause =
      cause.getD (.stepTimedOut description (Scale.text budget)) := by
  cases cause <;> rfl

theorem giveUp_ending (description : String) (budget : T) (attempts : Nat)
    (cause : Option Failure) : (giveUp description budget attempts cause).ending ≠ .refused := by
  cases cause <;> simp [giveUp]

theorem verdict_gives_up (description : String) (budget : T) (attempts : Nat)
    (cause : Option Failure) (trial : Trial A) :
    (∃ failure, verdict description budget attempts cause trial = .error failure ∧
        failure.ending ≠ .refused) ↔ trial.isRetried = true := by
  cases trial with
  | passed value => simp [verdict, Trial.isRetried]
  | refused failure => simp [verdict, Trial.isRetried]
  | failed failure =>
    simpa [verdict, Trial.isRetried] using giveUp_ending description budget attempts cause
  | lost failure flaw =>
    simpa [verdict, Trial.isRetried] using giveUp_ending description budget attempts cause

variable {retrier : Retrier S T} {step : Activity S A} {budget deadline : T}
  {description : String} {fuel count : Nat} {start state final : S} {cause : Option Failure}
  {trial : Trial A} {earlier : List (Round S A)}

omit [Scale T] in
theorem recover_of_restores {flaw : Option Failure}
    (restored : retrier.Restores state flaw final) :
    retrier.recover cause state = (.ok (flaw.or cause), final) := by
  cases restored with
  | unattended absent => simp [recover, Activity.bind_run, absent]
  | succeeded present ran => simp [recover, Activity.bind_run, present, Activity.attempt, ran]
  | broke present ran => simp [recover, Activity.bind_run, present, Activity.attempt, ran]

/-- A round is one attempt; what follows depends on what came of it and on the time left. -/
theorem rounds_of_tries (tried : retrier.Tries step (count + 1) state trial final) :
    retrier.rounds description step budget deadline (fuel + 1) count cause state =
      if trial.isRetried && !retrier.isOver deadline final then
        retrier.rounds description step budget deadline fuel (count + 1) (trial.cause?.or cause)
          (retrier.pauses deadline final)
      else (.ok (verdict description budget (count + 1) (trial.cause?.or cause) trial), final) := by
  cases tried with
  | passed ran => simp [rounds, Activity.bind_run, Activity.attempt, ran, Trial.isRetried, verdict]
  | refused ran kind =>
    simp [rounds, Activity.bind_run, Activity.attempt, ran, kind, Trial.isRetried, verdict]
  -- Only failures and losses look at the time that is left, so only here does it split the case.
  | failed ran kind =>
    cases overdue : retrier.isOver deadline final <;> simp only [isOver] at overdue <;>
      simp [rounds, Activity.bind_run, Activity.attempt, ran, kind, Trial.isRetried, Trial.cause?,
        verdict, pauses, overdue]
  | lost ran kind restored =>
    cases overdue : retrier.isOver deadline final <;> simp only [isOver] at overdue <;>
      simp [rounds, Activity.bind_run, Activity.attempt, ran, kind, recover_of_restores restored,
        Trial.isRetried, Trial.cause?, verdict, pauses, overdue]

theorem rounds_of_hangs (hung : retrier.Hangs step (count + 1) state final) :
    retrier.rounds description step budget deadline (fuel + 1) count cause state =
      (.stalled, final) := by
  cases hung with
  | step ran => simp [rounds, Activity.bind_run, Activity.attempt, ran]
  | recovery ran kind present hung =>
    simp [rounds, Activity.bind_run, Activity.attempt, ran, kind, recover, present, hung]

/-- Repeated attempts only move the run on: to the next number, with the latest cause so far. -/
theorem rounds_of_repeats (repeated : retrier.Repeats step deadline count start earlier state) :
    retrier.rounds description step budget deadline (earlier.length + fuel) count cause start =
      retrier.rounds description step budget deadline fuel (count + earlier.length)
        ((Trial.latestCause (earlier.map Round.trial)).or cause) state := by
  -- Each attempt uses up one unit of fuel and may replace the cause, so the cause is not fixed.
  induction repeated generalizing cause with
  | none => simp [Trial.latestCause]
  | @again count start after state trial earlier tried retried timely rest ih =>
    have fuels : earlier.length + 1 + fuel = earlier.length + fuel + 1 := by omega
    have counts : count + 1 + earlier.length = count + (earlier.length + 1) := by omega
    simp only [List.length_cons, fuels, rounds_of_tries tried, retried, timely, Bool.not_false,
      Bool.and_self, if_true, ih, counts, List.map_cons, Trial.latestCause_cons, Option.or_assoc]

theorem rounds_of_ends {last : Round S A}
    (ends : retrier.Ends step deadline count start earlier last final)
    (within : earlier.length < fuel) :
    retrier.rounds description step budget deadline fuel count cause start =
      (.ok (verdict description budget (count + earlier.length + 1)
        ((Trial.latestCause (earlier.map Round.trial ++ [last.trial])).or cause) last.trial),
        final) := by
  obtain ⟨spare, rfl⟩ : ∃ spare, fuel = earlier.length + (spare + 1) :=
    ⟨fuel - earlier.length - 1, by omega⟩
  have stops : (last.trial.isRetried && !retrier.isOver deadline final) = false := by
    cases retried : last.trial.isRetried with
    | false => rfl
    | true => simp [ends.overdue retried]
  rw [rounds_of_repeats ends.repeats, rounds_of_tries ends.tries, stops,
    Trial.latestCause_append, Trial.latestCause_singleton, Option.or_assoc]
  rfl

theorem rounds_of_breaks (breaks : retrier.Breaks step deadline fuel count start earlier final) :
    retrier.rounds description step budget deadline fuel count cause start = (.stalled, final) := by
  cases breaks with
  | spent repeats spent =>
    subst spent
    rw [← Nat.add_zero earlier.length, rounds_of_repeats repeats]
    rfl
  | hung repeats within hung =>
    obtain ⟨spare, rfl⟩ : ∃ spare, fuel = earlier.length + (spare + 1) :=
      ⟨fuel - earlier.length - 1, by omega⟩
    rw [rounds_of_repeats repeats, rounds_of_hangs hung]

/-! ## What a run counts -/

/-- A count that a run changes in two ways only: by `noted` where it notes that a session is to be
set up anew, and by `called` where it calls the way to do that. -/
structure Counts (retrier : Retrier S T) (step : Activity S A) (noted called : Nat)
    (tally : S -> Nat) : Prop where
  notes : ∀ state, tally (retrier.noteReinitialization state) = tally state + noted
  calls : ∀ reopen, retrier.reopen = some reopen →
    ∀ state, tally (reopen state).2 = tally state + called
  attempts : ∀ number state, tally (retrier.noteAttempts number state) = tally state
  steps : ∀ state, tally (step state).2 = tally state
  sleeps : ∀ span state, tally (retrier.clock.sleep span state) = tally state

def losses (trials : List (Trial A)) : Nat := trials.countP Trial.isLost

section

variable {noted called : Nat} {tally : S -> Nat}

omit [Scale T] in
theorem Counts.restores (counts : retrier.Counts step noted called tally) {flaw : Option Failure}
    (restored : retrier.Restores state flaw final) :
    tally final = tally state + (noted + if retrier.reopen.isSome then called else 0) := by
  cases restored with
  | unattended absent => simp [counts.notes, absent]
  | succeeded present ran =>
    have called := counts.calls _ present (retrier.noteReinitialization state)
    rw [ran, counts.notes] at called
    simp [called, present, Nat.add_assoc]
  | broke present ran =>
    have called := counts.calls _ present (retrier.noteReinitialization state)
    rw [ran, counts.notes] at called
    simp [called, present, Nat.add_assoc]

omit [Scale T] in
theorem Counts.tries (counts : retrier.Counts step noted called tally)
    (tried : retrier.Tries step count state trial final) :
    tally final = tally state +
      losses [trial] * (noted + if retrier.reopen.isSome then called else 0) := by
  have stepped := counts.steps (retrier.noteAttempts count state)
  rw [counts.attempts] at stepped
  cases tried with
  | passed ran => simpa [ran, losses, Trial.isLost] using stepped
  | refused ran kind => simpa [ran, losses, Trial.isLost] using stepped
  | failed ran kind => simpa [ran, losses, Trial.isLost] using stepped
  | lost ran kind restored =>
    rw [ran] at stepped
    simp [counts.restores restored, stepped, losses, Trial.isLost]

theorem Counts.repeats (counts : retrier.Counts step noted called tally)
    (repeated : retrier.Repeats step deadline count start earlier final) :
    tally final = tally start + losses (earlier.map Round.trial) *
      (noted + if retrier.reopen.isSome then called else 0) := by
  induction repeated with
  | none => simp [losses]
  | @again count start after state trial earlier tried retried timely rest ih =>
    have first := counts.tries tried
    have split : losses ((⟨start, trial⟩ :: earlier : List (Round S A)).map Round.trial) =
        losses [trial] + losses (earlier.map Round.trial) := by
      simp [losses, List.countP_cons, Nat.add_comm]
    rw [ih, pauses, counts.sleeps, first, split, Nat.add_mul, Nat.add_assoc]

theorem Counts.ends (counts : retrier.Counts step noted called tally) {last : Round S A}
    (ends : retrier.Ends step deadline count start earlier last final) :
    tally final = tally start + losses (earlier.map Round.trial ++ [last.trial]) *
      (noted + if retrier.reopen.isSome then called else 0) := by
  have split : losses (earlier.map Round.trial ++ [last.trial]) =
      losses (earlier.map Round.trial) + losses [last.trial] := by
    simp [losses]
  rw [counts.tries ends.tries, counts.repeats ends.repeats, split, Nat.add_mul, Nat.add_assoc]

end

/-! ## Runs -/

/-- What a run that came to its end has to do with its history, the last attempt of which was
the last of all. -/
structure Answers (retrier : Retrier S T) (step : Activity S A) (description : String)
    (budget : T) (start : S) (earlier : List (Round S A)) (last : Round S A) (final : S)
    (result : Except StepFailure A) : Prop where
  classified : ∀ round ∈ earlier, ∃ failure, round.trial.failure? = some failure ∧
    (failure.classify = .failure ∨ failure.classify = .sessionLost)
  passed : ∀ value, last.trial = .passed value → result = .ok value
  -- Nothing is done after the attempt that was refused.
  refused : ∀ failure, last.trial = .refused failure →
    failure.classify = .configuration ∧
      step (retrier.noteAttempts (earlier.length + 1) last.began) = (.failed failure, final) ∧
      result = .error
        { description, attempts := earlier.length + 1, ending := .refused, cause := failure }
  -- The latest cause is reported, and if there is none, that the time is up.
  exhausted : last.trial.isRetried = true →
    retrier.isOver (Scale.add (retrier.clock.now start) budget) final = true ∧
      ∃ failure, result = .error failure ∧ failure.attempts = earlier.length + 1 ∧
        failure.cause = (Trial.latestCause (earlier.map Round.trial ++ [last.trial])).getD
          (.stepTimedOut description (Scale.text budget))
  noted : ∀ tally, retrier.Counts step 1 0 tally →
    tally final = tally start + losses (earlier.map Round.trial ++ [last.trial])
  called : retrier.reopen.isSome = true → ∀ tally, retrier.Counts step 0 1 tally →
    tally final = tally start + losses (earlier.map Round.trial ++ [last.trial])

theorem Ends.answers {last : Round S A}
    (ends : retrier.Ends step (Scale.add (retrier.clock.now start) budget) 0 start earlier last
      final) :
    retrier.Answers step description budget start earlier last final
      (verdict description budget (earlier.length + 1)
        (Trial.latestCause (earlier.map Round.trial ++ [last.trial])) last.trial) where
  classified := ends.repeats.classified
  passed := by
    intro value passed
    rw [passed, verdict]
  refused := by
    intro failure refused
    have tried := ends.tries
    rw [refused, Nat.zero_add] at tried
    cases tried with
    | refused ran kind => exact ⟨kind, ran, by rw [refused, verdict]⟩
  exhausted := by
    intro retried
    refine ⟨ends.overdue retried, giveUp description budget _ _, ?_, giveUp_attempts ..,
      giveUp_cause ..⟩
    cases trial : last.trial with
    | passed value => simp [trial, Trial.isRetried] at retried
    | refused failure => simp [trial, Trial.isRetried] at retried
    | failed failure => rfl
    | lost failure flaw => rfl
  noted := by
    intro tally counts
    simpa using counts.ends ends
  called := by
    intro present tally counts
    simpa [present] using counts.ends ends

theorem budget?_whole (attempts delay : Int) :
    RetryPolicy.budget? { attempts := .whole attempts, delay := .whole delay } =
      (Scale.ofInt? (attempts * (delay + 1)) : Option T) := rfl

/-- How a run fails whose budget is beyond the scale of its clock. -/
def beyondScale : Failure := .fault ⟨.overflow, "int too large to convert to float"⟩

theorem run_of_no_budget (unheld : retrier.policy.budget? = none) :
    retrier.run fuel description step start = (.failed beyondScale, start) := by
  simp only [run, unheld]
  rfl

theorem run_of_budget (held : retrier.policy.budget? = some budget) :
    retrier.run fuel description step start =
      retrier.rounds description step budget (Scale.add (retrier.clock.now start) budget) fuel 0
        none start := by
  simp [run, held, Activity.bind_run]

theorem run_of_ends {last : Round S A} (held : retrier.policy.budget? = some budget)
    (ends : retrier.Ends step (Scale.add (retrier.clock.now start) budget) 0 start earlier last
      final)
    (within : earlier.length < fuel) :
    retrier.run fuel description step start =
      (.ok (verdict description budget (earlier.length + 1)
        (Trial.latestCause (earlier.map Round.trial ++ [last.trial])) last.trial), final) := by
  rw [run_of_budget held, rounds_of_ends ends within, Option.or_none, Nat.zero_add]

theorem run_of_history (step : Activity S A) (held : retrier.policy.budget? = some budget)
    (fuel : Nat) (description : String) (start : S) :
    (∃ earlier last final,
        retrier.Ends step (Scale.add (retrier.clock.now start) budget) 0 start earlier last final ∧
        retrier.run fuel description step start =
          (.ok (verdict description budget (earlier.length + 1)
            (Trial.latestCause (earlier.map Round.trial ++ [last.trial])) last.trial), final)) ∨
      ∃ earlier final,
        retrier.Breaks step (Scale.add (retrier.clock.now start) budget) fuel 0 start earlier
          final ∧
        retrier.run fuel description step start = (.stalled, final) := by
  rcases retrier.exists_history step (Scale.add (retrier.clock.now start) budget) fuel 0 start
    with ⟨earlier, last, final, ends, within⟩ | ⟨earlier, final, breaks⟩
  · exact .inl ⟨earlier, last, final, ends, run_of_ends held ends within⟩
  · exact .inr ⟨earlier, final, breaks, by rw [run_of_budget held, rounds_of_breaks breaks]⟩

theorem run_yields {property : A -> Prop} (yields : step.Yields property) {value : A}
    (ran : retrier.run fuel description step start = (.ok (.ok value), final)) :
    property value := by
  cases held : retrier.policy.budget? with
  | none => simp [run_of_no_budget held] at ran
  | some budget =>
    rcases run_of_history step held fuel description start
      with ⟨earlier, last, between, ends, ended⟩ | ⟨earlier, between, breaks, broke⟩
    · have tried := ends.tries
      rw [ended] at ran
      cases trial : last.trial with
      | passed passed =>
        rw [trial] at tried ran
        simp only [verdict, Prod.mk.injEq, Outcome.ok.injEq, Except.ok.injEq] at ran
        cases tried with
        | passed stepped => exact ran.1 ▸ yields _ _ _ stepped
      | _ => simp [trial, verdict] at ran
    · simp [broke] at ran

/-- A run itself fails only where it makes no attempt. -/
theorem run_failed {failure : Failure}
    (ran : retrier.run fuel description step start = (.failed failure, final)) :
    retrier.policy.budget? = none ∧ failure = beyondScale := by
  cases held : retrier.policy.budget? with
  | none =>
    simp only [run_of_no_budget held, Prod.mk.injEq, Outcome.failed.injEq] at ran
    exact ⟨rfl, ran.1.symm⟩
  | some budget =>
    rcases run_of_history step held fuel description start
      with ⟨earlier, last, between, ends, ended⟩ | ⟨earlier, between, breaks, broke⟩
    · simp [ended] at ran
    · simp [broke] at ran

/-- A run makes no attempt if the clock cannot hold its budget. Any other run has a history; it
answers as the history says, unless it is still on its way when the fuel is spent or when an
attempt hangs. -/
theorem run_outcome_of_history (retrier : Retrier S T) (step : Activity S A) (fuel : Nat)
    (description : String) (start : S) :
    (retrier.policy.budget? = none ∧
        retrier.run fuel description step start = (.failed beyondScale, start)) ∨
      ∃ budget, retrier.policy.budget? = some budget ∧
        ((∃ earlier last final result,
            retrier.Ends step (Scale.add (retrier.clock.now start) budget) 0 start earlier last
              final ∧
            retrier.run fuel description step start = (.ok result, final) ∧
            retrier.Answers step description budget start earlier last final result) ∨
          ∃ earlier final,
            retrier.Breaks step (Scale.add (retrier.clock.now start) budget) fuel 0 start earlier
              final ∧
            retrier.run fuel description step start = (.stalled, final)) := by
  cases held : retrier.policy.budget? with
  | none => exact .inl ⟨rfl, run_of_no_budget held⟩
  | some budget =>
    refine .inr ⟨budget, rfl, ?_⟩
    rcases run_of_history step held fuel description start
      with ⟨earlier, last, final, ends, ended⟩ | ⟨earlier, final, breaks, broke⟩
    · exact .inl ⟨earlier, last, final, _, ends, ended, ends.answers⟩
    · exact .inr ⟨earlier, final, breaks, broke⟩

/-- A step that would pass at once is not attempted where the number of attempts is no double. -/
theorem no_attempt_beyond_scale :
    let play : Simulation.Play Float := { cost := 0.0, result := .ok (.text "done") }
    let tape : Simulation.Tape Float := { plays := [play], calls := 0 }
    let bench := Simulation.Bench.ofTapes tape tape
    let policy : RetryPolicy Float := { attempts := .whole (Nat.pow 10 400), delay := .whole 2 }
    Simulation.Bench.takeStep bench = (.ok (.text "done"), (Simulation.Bench.takeStep bench).2) ∧
      (Simulation.Bench.retrier policy false).run 1 "step" Simulation.Bench.takeStep bench =
        (.failed beyondScale, bench) := by
  have unheld : (Scale.ofInt? (Nat.pow 10 400 * (2 + 1)) : Option Float).isNone = true := by
    decide +kernel
  refine ⟨rfl, run_of_no_budget ?_⟩
  exact (budget?_whole (Nat.pow 10 400) 2).trans (Option.isNone_iff_eq_none.mp unheld)

end Rehearsal.Retrier
