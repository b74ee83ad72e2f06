import Rehearsal.Simulation.Element
import Rehearsal.Time.Retry

/-!
Tapes: scripted results that are played one for each call, the last one for ever. A bench has a
clock and two tapes, one for a step and one for setting up what the step lost.
-/

set_option autoImplicit false

namespace Rehearsal.Simulation

structure Play (T : Type) where
  cost : T
  result : Except Failure Datum

structure Tape (T : Type) where
  plays : List (Play T)
  calls : Nat

namespace Tape

variable {T : Type}

/-- The next play; the last one stays on the tape. -/
def next (tape : Tape T) : Option (Play T) × Tape T :=
  let counted := { tape with calls := tape.calls + 1 }
  match tape.plays with
  | [] => (none, counted)
  | [last] => (some last, counted)
  | play :: rest => (some play, { counted with plays := rest })

end Tape

/-- A failure known by the name of its kind. -/
def failureNamed (kind message : String) : Failure :=
  match FailureKind.ofName? kind with
  | some kind => .stated kind message
  | none => .fault ⟨if kind == FaultKind.runtime.name then .runtime else .browser, message⟩

def Play.ofDatum {T : Type} [Scale T] (value : Datum) : Play T :=
  let fields := fieldsOf value
  let get := fun key => (fields.get? key).getD .null
  let cost := ((fields.get? "cost").bind fun value => value.toReal.toOption).getD 0.0
  { cost := Scale.ofSeconds cost
    result := match fields.get? "raise" with
      | some kind => .error (failureNamed (textOf kind) (textOf (get "message")))
      | none => .ok (get "value") }

def Tape.ofDatum {T : Type} [Scale T] (value : Datum) : Tape T :=
  { plays := (listOf value).map Play.ofDatum, calls := 0 }

structure Bench (T : Type) where
  now : T
  /-- Spans that were slept, the latest first. -/
  sleeps : List T
  step : Tape T
  setUp : Tape T
  counts : RetryCounts

namespace Bench

variable {T : Type} [Scale T]

def ofTapes (step setUp : Tape T) : Bench T :=
  { now := Scale.zero, sleeps := [], step, setUp
    counts := { lastAttempts := 0, reinitializations := 0 } }

def clock : Clock (Bench T) T :=
  { now := Bench.now
    sleep := fun span bench =>
      { bench with now := Scale.add bench.now span, sleeps := span :: bench.sleeps } }

def play (play : Option (Play T)) : Activity (Bench T) Datum := do
  match play with
  | none => return .null
  | some play =>
    Activity.change fun bench => { bench with now := Scale.add bench.now play.cost }
    Activity.ofExcept play.result

def takeStep : Activity (Bench T) Datum := do
  let (next, tape) ← Activity.look fun bench => bench.step.next
  Activity.change fun bench => { bench with step := tape }
  play next

def takeSetUp : Activity (Bench T) Unit := do
  let (next, tape) ← Activity.look fun bench => bench.setUp.next
  Activity.change fun bench => { bench with setUp := tape }
  discard (play next)

/-- Polls the step's tape until it plays something that is not empty. -/
def poll (polling : Polling T) (fuel : Nat) : Activity (Bench T) Datum :=
  polling.run clock fuel do
    let value ← takeStep
    return if value.truthy then some value else none

def retrier (policy : RetryPolicy T) (hasSetUp : Bool) : Retrier (Bench T) T :=
  { clock, policy, reopen := if hasSetUp then some takeSetUp else none
    noteAttempts := fun attempts bench =>
      { bench with counts := { bench.counts with lastAttempts := attempts } }
    noteReinitialization := fun bench =>
      { bench with counts :=
        { bench.counts with reinitializations := bench.counts.reinitializations + 1 } } }

end Bench

end Rehearsal.Simulation
