import Rehearsal.Activity
import Rehearsal.Time.Scale

/-!
Bounded polling: a probe is repeated until it finds something or its time is up. An error of the
probe counts as nothing found, except that a lost session ends the polling at once.
-/

set_option autoImplicit false

namespace Rehearsal

structure Polling (T : Type) where
  timeout : T
  interval : T
  /-- What is waited for, as the message of the timeout names it. -/
  awaited : String
  /-- The kind of failure that a timeout is. -/
  kind : FailureKind

namespace Polling

variable {S T A : Type} [Scale T]

def defaultInterval : T := Scale.hundredths 25

def timeoutFailure (polling : Polling T) (cause : Option Failure) : Failure :=
  .timedOut polling.kind (Scale.text polling.timeout) polling.awaited cause

/-- A lost session under its own kind: as it is if it has that kind already. -/
def asUnreachable (failure : Failure) : Failure :=
  if failure.kind? == some .sessionUnreachable then failure else .sessionLost failure

/-- One round is one probe and, if time remains, one pause. `last` is the error of the latest
probe that had one. -/
def rounds (polling : Polling T) (clock : Clock S T) (deadline : T)
    (probe : Activity S (Option A)) : Nat -> Option Failure -> Activity S A
  | 0, _ => Activity.stall
  | fuel + 1, last => fun state =>
    let pause := fun (last : Option Failure) (state : S) =>
      let remaining := Scale.sub deadline (clock.now state)
      if Scale.le remaining Scale.zero then (.failed (polling.timeoutFailure last), state)
      else
        let state := clock.sleep (Scale.earlier polling.interval remaining) state
        rounds polling clock deadline probe fuel last state
    match probe state with
    | (.ok (some value), state) => (.ok value, state)
    | (.ok none, state) => pause last state
    | (.failed failure, state) =>
      if failure.isSessionLost then (.failed (asUnreachable failure), state)
      else pause (some failure) state
    | (.stalled, state) => (.stalled, state)

/-- Polls from now on; `fuel` bounds the rounds. -/
def run (polling : Polling T) (clock : Clock S T) (fuel : Nat) (probe : Activity S (Option A)) :
    Activity S A := fun state =>
  rounds polling clock (Scale.add (clock.now state) polling.timeout) probe fuel none state

/-- A probe that finds something or not, without a value. -/
def test (polling : Polling T) (clock : Clock S T) (fuel : Nat) (probe : Activity S Bool) :
    Activity S Unit :=
  polling.run clock fuel do
    if ← probe then return some () else return none

end Polling

end Rehearsal
