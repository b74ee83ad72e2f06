import Rehearsal.Proofs.Activity.Sequence
import Rehearsal.Time.Retry

/-!
The history of a retried step: its attempts, one after the other, each with what came of it. A
run of a retrier has earlier attempts, which all called for another one and were followed by a
pause, and a last attempt, which decides what the run ends with.
-/

set_option autoImplicit false

namespace Rehearsal

/-- What came of one attempt at a step. -/
inductive Trial (A : Type) where
  | passed (value : A)
  -- The configuration is wrong.
  | refused (failure : Failure)
  | failed (failure : Failure)
  -- The session was lost, and setting it up anew may have failed as well.
  | lost (failure : Failure) (flaw : Option Failure)

namespace Trial

variable {A : Type}

def isRetried : Trial A -> Bool
  | .passed _ | .refused _ => false
  | .failed _ | .lost _ _ => true

def isLost : Trial A -> Bool
  | .lost _ _ => true
  | _ => false

def failure? : Trial A -> Option Failure
  | .passed _ => none
  | .refused failure | .failed failure | .lost failure _ => some failure

/-- The error that a trial leaves behind as a cause. That of a lost session is none. -/
def cause? : Trial A -> Option Failure
  | .failed failure => some failure
  | .lost _ flaw => flaw
  | .passed _ | .refused _ => none

def latestCause (trials : List (Trial A)) : Option Failure := (trials.filterMap cause?).getLast?

theorem latestCause_append (trials later : List (Trial A)) :
    latestCause (trials ++ later) = (latestCause later).or (latestCause trials) := by
  simp [latestCause, List.getLast?_append]

theorem latestCause_singleton (trial : Trial A) : latestCause [trial] = trial.cause? := by
  cases found : trial.cause? <;> simp [latestCause, found]

theorem latestCause_cons (trial : Trial A) (later : List (Trial A)) :
    latestCause (trial :: later) = (latestCause later).or trial.cause? := by
  simpa [latestCause_singleton] using latestCause_append [trial] later

end Trial

structure Round (S A : Type) where
  began : S
  trial : Trial A

namespace Retrier

variable {S T A : Type}

inductive Restores (retrier : Retrier S T) : S -> Option Failure -> S -> Prop where
  | unattended {state : S} (absent : retrier.reopen = none) :
      Restores retrier state none (retrier.noteReinitialization state)
  | succeeded {state last : S} {reopen : Activity S Unit}
      (present : retrier.reopen = some reopen)
      (ran : reopen (retrier.noteReinitialization state) = (.ok (), last)) :
      Restores retrier state none last
  | broke {state last : S} {reopen : Activity S Unit} {flaw : Failure}
      (present : retrier.reopen = some reopen)
      (ran : reopen (retrier.noteReinitialization state) = (.failed flaw, last)) :
      Restores retrier state (some flaw) last

/-- The attempt of some number, from the state it begins in to the state it leaves. Only a lost
session is set up anew. -/
inductive Tries (retrier : Retrier S T) (step : Activity S A) (number : Nat) :
    S -> Trial A -> S -> Prop where
  | passed {state last : S} {value : A}
      (ran : step (retrier.noteAttempts number state) = (.ok value, last)) :
      Tries retrier step number state (.passed value) last
  | refused {state last : S} {failure : Failure}
      (ran : step (retrier.noteAttempts number state) = (.failed failure, last))
      (kind : failure.classify = .configuration) :
      Tries retrier step number state (.refused failure) last
  | failed {state last : S} {failure : Failure}
      (ran : step (retrier.noteAttempts number state) = (.failed failure, last))
      (kind : failure.classify = .failure) :
      Tries retrier step number state (.failed failure) last
  | lost {state between last : S} {failure : Failure} {flaw : Option Failure}
      (ran : step (retrier.noteAttempts number state) = (.failed failure, between))
      (kind : failure.classify = .sessionLost)
      (restored : retrier.Restores between flaw last) :
      Tries retrier step number state (.lost failure flaw) last

inductive Hangs (retrier : Retrier S T) (step : Activity S A) (number : Nat) : S -> S -> Prop where
  | step {state last : S}
      (ran : step (retrier.noteAttempts number state) = (.stalled, last)) :
      Hangs retrier step number state last
  | recovery {state between last : S} {failure : Failure} {reopen : Activity S Unit}
      (ran : step (retrier.noteAttempts number state) = (.failed failure, between))
      (kind : failure.classify = .sessionLost)
      (present : retrier.reopen = some reopen)
      (hung : reopen (retrier.noteReinitialization between) = (.stalled, last)) :
      Hangs retrier step number state last

theorem tries_or_hangs (retrier : Retrier S T) (step : Activity S A) (number : Nat) (state : S) :
    (∃ trial last, retrier.Tries step number state trial last) ∨
      ∃ last, retrier.Hangs step number state last := by
  rcases ran : step (retrier.noteAttempts number state) with ⟨value | failure | _, between⟩
  · exact .inl ⟨_, _, .passed ran⟩
  · -- What is done about a failure depends on its kind, and only a recovery can hang after it.
    cases kind : failure.classify with
    | configuration => exact .inl ⟨_, _, .refused ran kind⟩
    | failure => exact .inl ⟨_, _, .failed ran kind⟩
    | sessionLost =>
      cases way : retrier.reopen with
      | none => exact .inl ⟨_, _, .lost ran kind (.unattended way)⟩
      | some reopen =>
        rcases restored : reopen (retrier.noteReinitialization between)
          with ⟨_ | flaw | _, last⟩
        · exact .inl ⟨_, _, .lost ran kind (.succeeded way restored)⟩
        · exact .inl ⟨_, _, .lost ran kind (.broke way restored)⟩
        · exact .inr ⟨_, .recovery ran kind way restored⟩
  · exact .inr ⟨_, .step ran⟩

theorem Tries.classified {retrier : Retrier S T} {step : Activity S A} {number : Nat}
    {state last : S} {trial : Trial A} (tried : retrier.Tries step number state trial last)
    (retried : trial.isRetried = true) :
    ∃ failure, trial.failure? = some failure ∧
      (failure.classify = .failure ∨ failure.classify = .sessionLost) := by
  cases tried with
  | passed => simp [Trial.isRetried] at retried
  | refused => simp [Trial.isRetried] at retried
  | failed _ kind => exact ⟨_, rfl, .inl kind⟩
  | lost _ kind => exact ⟨_, rfl, .inr kind⟩

theorem Tries.ran_of_retried {retrier : Retrier S T} {step : Activity S A} {number : Nat}
    {state last : S} {trial : Trial A} (tried : retrier.Tries step number state trial last)
    (retried : trial.isRetried = true) :
    ∃ failure after, step (retrier.noteAttempts number state) = (.failed failure, after) := by
  cases tried with
  | passed => simp [Trial.isRetried] at retried
  | refused => simp [Trial.isRetried] at retried
  | failed ran => exact ⟨_, _, ran⟩
  | lost ran => exact ⟨_, _, ran⟩

/-- Only the class of a failure decides whether the session is set up anew after it. -/
theorem Tries.of_failed {retrier : Retrier S T} {step : Activity S A} {number : Nat}
    {state between last : S} {failure : Failure} {trial : Trial A}
    (tried : retrier.Tries step number state trial last)
    (ran : step (retrier.noteAttempts number state) = (.failed failure, between)) :
    (failure.classify = .failure → trial = .failed failure ∧ last = between) ∧
      (failure.classify = .sessionLost →
        ∃ flaw, trial = .lost failure flaw ∧ retrier.Restores between flaw last) := by
  cases tried with
  | passed passed => cases ran.symm.trans passed
  | refused refused kind =>
    cases ran.symm.trans refused
    simp [kind]
  | failed failed kind =>
    cases ran.symm.trans failed
    simp [kind]
  | lost lost kind restored =>
    cases ran.symm.trans lost
    refine ⟨fun other => ?_, fun _ => ⟨_, rfl, restored⟩⟩
    cases kind.symm.trans other

theorem Tries.lost_iff {retrier : Retrier S T} {step : Activity S A} {number : Nat}
    {state last : S} {trial : Trial A} (tried : retrier.Tries step number state trial last) :
    trial.isLost = true ↔ ∃ failure between,
      step (retrier.noteAttempts number state) = (.failed failure, between) ∧
      failure.classify = .sessionLost := by
  constructor
  · intro lost
    cases tried with
    | lost ran kind => exact ⟨_, _, ran, kind⟩
    | _ => cases lost
  · rintro ⟨failure, between, ran, kind⟩
    obtain ⟨flaw, rfl, -⟩ := (tried.of_failed ran).2 kind
    rfl

/-! ## Histories -/

variable [Scale T]

def isOver (retrier : Retrier S T) (deadline : T) (state : S) : Bool :=
  Scale.le (Scale.sub deadline (retrier.clock.now state)) Scale.zero

def pauses (retrier : Retrier S T) (deadline : T) (state : S) : S :=
  retrier.clock.sleep
    (Scale.earlier retrier.policy.pause (Scale.sub deadline (retrier.clock.now state))) state

/-- Attempts that were each followed by a pause, numbered on from the count of those before. -/
inductive Repeats (retrier : Retrier S T) (step : Activity S A) (deadline : T) :
    Nat -> S -> List (Round S A) -> S -> Prop where
  | none {count : Nat} {state : S} : Repeats retrier step deadline count state [] state
  | again {count : Nat} {state after last : S} {trial : Trial A} {rounds : List (Round S A)}
      (tried : retrier.Tries step (count + 1) state trial after)
      (retried : trial.isRetried = true)
      (timely : retrier.isOver deadline after = false)
      (rest : Repeats retrier step deadline (count + 1) (retrier.pauses deadline after) rounds
        last) :
      Repeats retrier step deadline count state (⟨state, trial⟩ :: rounds) last

structure Ends (retrier : Retrier S T) (step : Activity S A) (deadline : T) (count : Nat)
    (start : S) (earlier : List (Round S A)) (last : Round S A) (final : S) : Prop where
  repeats : retrier.Repeats step deadline count start earlier last.began
  tries : retrier.Tries step (count + earlier.length + 1) last.began last.trial final
  overdue : last.trial.isRetried = true → retrier.isOver deadline final = true

inductive Breaks (retrier : Retrier S T) (step : Activity S A) (deadline : T) (fuel count : Nat)
    (start : S) (earlier : List (Round S A)) : S -> Prop where
  | spent {final : S} (repeats : retrier.Repeats step deadline count start earlier final)
      (spent : earlier.length = fuel) : Breaks retrier step deadline fuel count start earlier final
  | hung {began final : S} (repeats : retrier.Repeats step deadline count start earlier began)
      (within : earlier.length < fuel)
      (hung : retrier.Hangs step (count + earlier.length + 1) began final) :
      Breaks retrier step deadline fuel count start earlier final

variable {retrier : Retrier S T} {step : Activity S A} {deadline : T} {fuel count : Nat}
  {start after final : S} {trial : Trial A} {earlier : List (Round S A)}

theorem Ends.again {last : Round S A} (tried : retrier.Tries step (count + 1) start trial after)
    (retried : trial.isRetried = true) (timely : retrier.isOver deadline after = false)
    (rest : retrier.Ends step deadline (count + 1) (retrier.pauses deadline after) earlier last
      final) :
    retrier.Ends step deadline count start (⟨start, trial⟩ :: earlier) last final where
  repeats := .again tried retried timely rest.repeats
  tries := by
    have numbered : count + (earlier.length + 1) = count + 1 + earlier.length := by omega
    simpa only [List.length_cons, numbered] using rest.tries
  overdue := rest.overdue

theorem Breaks.again (tried : retrier.Tries step (count + 1) start trial after)
    (retried : trial.isRetried = true) (timely : retrier.isOver deadline after = false)
    (rest : retrier.Breaks step deadline fuel (count + 1) (retrier.pauses deadline after) earlier
      final) :
    retrier.Breaks step deadline (fuel + 1) count start (⟨start, trial⟩ :: earlier) final := by
  cases rest with
  | spent repeats spent => exact .spent (.again tried retried timely repeats) (by simp [spent])
  | hung repeats within hung =>
    have numbered : count + (earlier.length + 1) = count + 1 + earlier.length := by omega
    exact .hung (.again tried retried timely repeats) (by simpa using within)
      (by simpa only [List.length_cons, numbered] using hung)

theorem exists_history (retrier : Retrier S T) (step : Activity S A) (deadline : T)
    (fuel count : Nat) (start : S) :
    (∃ earlier last final, retrier.Ends step deadline count start earlier last final ∧
        earlier.length < fuel) ∨
      ∃ earlier final, retrier.Breaks step deadline fuel count start earlier final := by
  -- The deadline is fixed for the whole history; each attempt moves on the count and the state.
  induction fuel generalizing count start with
  | zero => exact .inr ⟨[], start, .spent .none rfl⟩
  | succ fuel ih =>
    rcases retrier.tries_or_hangs step (count + 1) start with ⟨trial, after, tried⟩ | ⟨after, hung⟩
    · cases going : trial.isRetried && !retrier.isOver deadline after with
      | false =>
        have overdue : trial.isRetried = true → retrier.isOver deadline after = true := by
          intro retried
          simpa [retried] using going
        exact .inl ⟨[], ⟨start, trial⟩, after, ⟨.none, tried, overdue⟩, by simp⟩
      | true =>
        simp only [Bool.and_eq_true, Bool.not_eq_true'] at going
        obtain ⟨retried, timely⟩ := going
        rcases ih (count + 1) (retrier.pauses deadline after) with
          ⟨earlier, last, final, ends, within⟩ | ⟨earlier, final, breaks⟩
        · exact .inl ⟨_, last, final, ends.again tried retried timely, by simpa using within⟩
        · exact .inr ⟨_, final, breaks.again tried retried timely⟩
    · exact .inr ⟨[], after, .hung .none (by simp) hung⟩

theorem Repeats.classified (repeated : retrier.Repeats step deadline count start earlier final) :
    ∀ round ∈ earlier, ∃ failure, round.trial.failure? = some failure ∧
      (failure.classify = .failure ∨ failure.classify = .sessionLost) := by
  induction repeated with
  | none => simp
  | again tried retried timely rest ih =>
    intro round member
    rcases List.mem_cons.mp member with rfl | later
    · exact tried.classified retried
    · exact ih round later

end Retrier

end Rehearsal
