import Rehearsal.Time.Poll

/-!
Retrying a step. The time allowed is a number of attempts times one second more than the pause
between them, so the number bounds the time and not the attempts. A lost session is set up anew
before the next attempt and is never the reported cause; a configuration error ends the step at
once.
-/

set_option autoImplicit false

namespace Rehearsal

structure RetryPolicy (T : Type) where
  attempts : Quantity T
  delay : Quantity T

inductive AttemptKind where
  | configuration
  | sessionLost
  | failure
  deriving DecidableEq

def AttemptKind.label : AttemptKind -> String
  | .configuration => "configuration"
  | .sessionLost => "session_unreachable"
  | .failure => "failure"

def Failure.classify (failure : Failure) : AttemptKind :=
  if failure.isConfiguration then .configuration
  else if failure.isSessionLost then .sessionLost
  else .failure

/-- What a retrier counts: the attempts of its latest step, and all sessions set up anew. -/
structure RetryCounts where
  lastAttempts : Nat
  reinitializations : Nat

structure Retrier (S T : Type) where
  clock : Clock S T
  policy : RetryPolicy T
  /-- Sets up a lost session, if there is a way to. -/
  reopen : Option (Activity S Unit)
  noteAttempts : Nat -> S -> S
  noteReinitialization : S -> S

namespace RetryPolicy

variable {T : Type} [Scale T]

/-- The time that a step may take in all, unless it is too long for the scale. -/
def budget? (policy : RetryPolicy T) : Option T := do
  (← policy.attempts.mul? policy.delay.next).onScale?

/-- A tenth of a second at least. A delay beyond the scale goes with a budget that leaves no time
for it. -/
def pause (policy : RetryPolicy T) : T :=
  Scale.later (policy.delay.onScale?.getD Scale.zero) (Scale.hundredths 10)

end RetryPolicy

namespace Retrier

variable {S T A : Type} [Scale T]

/-- Sets up the session; an error of that replaces the last cause. -/
def recover (retrier : Retrier S T) (last : Option Failure) : Activity S (Option Failure) := do
  Activity.change retrier.noteReinitialization
  match retrier.reopen with
  | none => return last
  | some reopen =>
    match ← reopen.attempt with
    | .ok _ => return last
    | .error failure => return some failure

def giveUp (description : String) (budget : T) (attempts : Nat) :
    Option Failure -> StepFailure
  | some cause => { description, attempts, ending := .exhausted, cause }
  | none =>
    { description, attempts, ending := .silent
      cause := .stepTimedOut description (Scale.text budget) }

/-- One round is one attempt and, if time remains, one pause. -/
def rounds (retrier : Retrier S T) (description : String) (step : Activity S A)
    (budget deadline : T) :
    (fuel attempts : Nat) -> Option Failure -> Activity S (Except StepFailure A)
  | 0, _, _ => Activity.stall
  | fuel + 1, attempts, last => do
    let attempts := attempts + 1
    Activity.change (retrier.noteAttempts attempts)
    let goOn := fun (last : Option Failure) => do
      let remaining := Scale.sub deadline (← Activity.look retrier.clock.now)
      if Scale.le remaining Scale.zero then
        return .error (giveUp description budget attempts last)
      else
        Activity.change (retrier.clock.sleep (Scale.earlier retrier.policy.pause remaining))
        rounds retrier description step budget deadline fuel attempts last
    match ← step.attempt with
    | .ok value => return .ok value
    | .error failure =>
      match failure.classify with
      | .configuration =>
        return .error { description, attempts, ending := .refused, cause := failure }
      | .sessionLost => goOn (← retrier.recover last)
      | .failure => goOn (some failure)

/-- Runs a step until it passes, its time is up, or its configuration proves wrong. -/
def run (retrier : Retrier S T) (fuel : Nat) (description : String) (step : Activity S A) :
    Activity S (Except StepFailure A) := do
  match retrier.policy.budget? with
  | none => throw (.fault ⟨.overflow, "int too large to convert to float"⟩)
  | some budget =>
    let start ← Activity.look retrier.clock.now
    rounds retrier description step budget (Scale.add start budget) fuel 0 none

end Retrier

end Rehearsal
