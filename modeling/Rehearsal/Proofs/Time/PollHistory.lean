import Rehearsal.Proofs.Activity.Sequence
import Rehearsal.Time.Poll

/-!
The history of a polling: its looks, one after the other, each with what came of it. All looks but
the last were in vain and in time, and each of them was followed by a pause; the last look decides
what the polling ends with: what it found, the polling's own timeout, or that the session is lost.
-/

set_option autoImplicit false

/-! ## What polling raises -/

namespace Rehearsal.Polling

theorem kind_asUnreachable (failure : Failure) :
    (asUnreachable failure).kind? = some .sessionUnreachable := by
  unfold asUnreachable
  split
  next same => simpa using same
  next => rfl

variable {S T A : Type} [Scale T] (polling : Polling T) (clock : Clock S T)

/-- What polling may raise. -/
def MayRaise (failure : Failure) : Prop :=
  (∃ cause, failure = polling.timeoutFailure cause) ∨
    failure.kind? = some .sessionUnreachable

theorem rounds_raises (deadline : T) (probe : Activity S (Option A)) (fuel : Nat)
    (last : Option Failure) :
    (polling.rounds clock deadline probe fuel last).Raises polling.MayRaise := by
  induction fuel generalizing last with
  | zero =>
    intro state failure final ran
    cases ran
  | succ fuel ih =>
    intro state failure final ran
    rw [rounds] at ran
    dsimp only at ran
    split at ran
    next => cases ran
    next =>
      split at ran
      next =>
        cases ran
        exact .inl ⟨_, rfl⟩
      next => exact ih _ _ _ _ ran
    next =>
      split at ran
      next =>
        cases ran
        exact .inr (kind_asUnreachable _)
      next =>
        split at ran
        next =>
          cases ran
          exact .inl ⟨_, rfl⟩
        next => exact ih _ _ _ _ ran
    next => cases ran

theorem rounds_found {deadline : T} {probe : Activity S (Option A)} {fuel : Nat}
    {last : Option Failure} {state final : S} {value : A}
    (ran : polling.rounds clock deadline probe fuel last state = (.ok value, final)) :
    ∃ between, probe between = (.ok (some value), final) := by
  induction fuel generalizing last state with
  | zero => cases ran
  | succ fuel ih =>
    rw [rounds] at ran
    dsimp only at ran
    split at ran
    next probed =>
      cases ran
      exact ⟨_, probed⟩
    next =>
      split at ran
      next => cases ran
      next => exact ih ran
    next =>
      split at ran
      next => cases ran
      next =>
        split at ran
        next => cases ran
        next => exact ih ran
    next => cases ran

theorem test_raises (fuel : Nat) (probe : Activity S Bool) :
    (polling.test clock fuel probe).Raises polling.MayRaise :=
  fun _ _ _ ran => polling.rounds_raises clock _ _ fuel none _ _ _ ran

theorem test_found {fuel : Nat} {probe : Activity S Bool} {state final : S}
    (ran : polling.test clock fuel probe state = (.ok (), final)) :
    ∃ between, probe between = (.ok true, final) := by
  obtain ⟨between, probed⟩ := polling.rounds_found clock ran
  refine ⟨between, ?_⟩
  obtain ⟨held, middle, asked, rest⟩ := (Activity.bind_ok ..).mp probed
  cases held with
  | false => cases rest
  | true =>
    cases rest
    exact asked

end Rehearsal.Polling

/-! ## Looks -/

namespace Rehearsal

inductive Sight (A : Type) where
  | found (value : A)
  | nothing
  -- An error that counts as nothing found.
  | erred (failure : Failure)
  | lost (failure : Failure)

namespace Sight

variable {A : Type}

def isVain : Sight A -> Bool
  | .nothing | .erred _ => true
  | .found _ | .lost _ => false

def error? : Sight A -> Option Failure
  | .erred failure => some failure
  | .found _ | .nothing | .lost _ => none

def latestError (findings : List (Sight A)) : Option Failure :=
  (findings.filterMap error?).getLast?

theorem latestError_append (findings later : List (Sight A)) :
    latestError (findings ++ later) = (latestError later).or (latestError findings) := by
  simp [latestError, List.getLast?_append]

theorem latestError_singleton (finding : Sight A) : latestError [finding] = finding.error? := by
  cases met : finding.error? <;> simp [latestError, met]

theorem latestError_cons (finding : Sight A) (later : List (Sight A)) :
    latestError (finding :: later) = (latestError later).or finding.error? := by
  simpa [latestError_singleton] using latestError_append [finding] later

end Sight

structure Look (S A : Type) where
  began : S
  finding : Sight A

namespace Polling

variable {S T A : Type}

/-- One look, from the state it begins in to the state it leaves. -/
inductive Finds (probe : Activity S (Option A)) (state : S) : Sight A -> S -> Prop where
  | found {last : S} {value : A} (ran : probe state = (.ok (some value), last)) :
      Finds probe state (.found value) last
  | nothing {last : S} (ran : probe state = (.ok none, last)) : Finds probe state .nothing last
  | erred {last : S} {failure : Failure} (ran : probe state = (.failed failure, last))
      (live : failure.isSessionLost = false) : Finds probe state (.erred failure) last
  | lost {last : S} {failure : Failure} (ran : probe state = (.failed failure, last))
      (lost : failure.isSessionLost = true) : Finds probe state (.lost failure) last

theorem finds_or_hangs (probe : Activity S (Option A)) (state : S) :
    (∃ finding last, Finds probe state finding last) ∨ ∃ last, probe state = (.stalled, last) := by
  rcases ran : probe state with ⟨(_ | value) | failure | _, last⟩
  · exact .inl ⟨_, _, .nothing ran⟩
  · exact .inl ⟨_, _, .found ran⟩
  · cases lost : failure.isSessionLost with
    | true => exact .inl ⟨_, _, .lost ran lost⟩
    | false => exact .inl ⟨_, _, .erred ran lost⟩
  · exact .inr ⟨_, rfl⟩

theorem Finds.after {probe : Activity S (Option A)} {state last : S} {finding : Sight A}
    (found : Finds probe state finding last) : (probe state).2 = last := by
  cases found with
  | found ran => rw [ran]
  | nothing ran => rw [ran]
  | erred ran => rw [ran]
  | lost ran => rw [ran]

/-- A look that passes or not, as polling takes it. -/
def probing (test : Activity S Bool) : Activity S (Option Unit) := do
  if ← test then return some () else return none

theorem probing_run (test : Activity S Bool) (state : S) :
    probing test state =
      match test state with
      | (.ok true, last) => (.ok (some ()), last)
      | (.ok false, last) => (.ok none, last)
      | (.failed failure, last) => (.failed failure, last)
      | (.stalled, last) => (.stalled, last) := by
  rw [probing, Activity.bind_run]
  rcases test state with ⟨(_ | _) | _ | _, last⟩ <;> rfl

theorem probing_after (test : Activity S Bool) (state : S) :
    ((probing test state).1 = .stalled ↔ (test state).1 = .stalled) ∧
      (probing test state).2 = (test state).2 := by
  rw [probing_run]
  rcases test state with ⟨(_ | _) | _ | _, last⟩ <;> simp

theorem Finds.found_iff {test : Activity S Bool} {state last : S} {finding : Sight Unit}
    (found : Finds (probing test) state finding last) :
    finding = .found () ↔ (test state).1 = .ok true := by
  have probed := probing_run test state
  rcases tested : test state with ⟨(_ | _) | failure | _, after⟩ <;> rw [tested] at probed <;>
    cases found <;> simp_all

theorem Finds.lost_iff {test : Activity S Bool} {state last : S} {finding : Sight Unit}
    (found : Finds (probing test) state finding last) :
    (∃ failure, finding = .lost failure) ↔
      ∃ failure, (test state).1 = .failed failure ∧ failure.isSessionLost = true := by
  have probed := probing_run test state
  rcases tested : test state with ⟨(_ | _) | failure | _, after⟩ <;> rw [tested] at probed <;>
    cases found <;> simp_all

variable [Scale T]

theorem test_eq_run (polling : Polling T) (clock : Clock S T) (fuel : Nat)
    (test : Activity S Bool) :
    polling.test clock fuel test = polling.run clock fuel (probing test) := rfl

def isOver (clock : Clock S T) (deadline : T) (state : S) : Bool :=
  Scale.le (Scale.sub deadline (clock.now state)) Scale.zero

def pauses (polling : Polling T) (clock : Clock S T) (deadline : T) (state : S) : S :=
  clock.sleep (Scale.earlier polling.interval (Scale.sub deadline (clock.now state))) state

/-- Looks in vain, each of which was followed by a pause. -/
inductive Looks (polling : Polling T) (clock : Clock S T) (probe : Activity S (Option A))
    (deadline : T) : S -> List (Look S A) -> S -> Prop where
  | none {state : S} : Looks polling clock probe deadline state [] state
  | again {state after last : S} {finding : Sight A} {looks : List (Look S A)}
      (found : Finds probe state finding after) (vain : finding.isVain = true)
      (timely : isOver clock deadline after = false)
      (rest : Looks polling clock probe deadline (polling.pauses clock deadline after) looks last) :
      Looks polling clock probe deadline state (⟨state, finding⟩ :: looks) last

structure Concludes (polling : Polling T) (clock : Clock S T) (probe : Activity S (Option A))
    (deadline : T) (start : S) (earlier : List (Look S A)) (last : Look S A) (final : S) :
    Prop where
  looks : polling.Looks clock probe deadline start earlier last.began
  finds : Finds probe last.began last.finding final
  overdue : last.finding.isVain = true → isOver clock deadline final = true

inductive Breaks (polling : Polling T) (clock : Clock S T) (probe : Activity S (Option A))
    (deadline : T) (fuel : Nat) (start : S) (earlier : List (Look S A)) : S -> Prop where
  | spent {final : S} (looks : polling.Looks clock probe deadline start earlier final)
      (spent : earlier.length = fuel) : Breaks polling clock probe deadline fuel start earlier final
  | hung {began final : S} (looks : polling.Looks clock probe deadline start earlier began)
      (within : earlier.length < fuel) (hung : probe began = (.stalled, final)) :
      Breaks polling clock probe deadline fuel start earlier final

/-- What a polling ends with after its last look. -/
def verdict (polling : Polling T) (latest : Option Failure) : Sight A -> Outcome A
  | .found value => .ok value
  | .nothing | .erred _ => .failed (polling.timeoutFailure latest)
  | .lost failure => .failed (asUnreachable failure)

variable {polling : Polling T} {clock : Clock S T} {probe : Activity S (Option A)} {deadline : T}
  {fuel : Nat} {start after final : S} {finding : Sight A} {earlier : List (Look S A)}
  {latest : Option Failure}

theorem Concludes.again (found : Finds probe start finding after) (vain : finding.isVain = true)
    (timely : isOver clock deadline after = false) {last : Look S A}
    (rest : polling.Concludes clock probe deadline (polling.pauses clock deadline after) earlier
      last final) :
    polling.Concludes clock probe deadline start (⟨start, finding⟩ :: earlier) last final where
  looks := .again found vain timely rest.looks
  finds := rest.finds
  overdue := rest.overdue

theorem Breaks.again (found : Finds probe start finding after) (vain : finding.isVain = true)
    (timely : isOver clock deadline after = false)
    (rest : polling.Breaks clock probe deadline fuel (polling.pauses clock deadline after)
      earlier final) :
    polling.Breaks clock probe deadline (fuel + 1) start (⟨start, finding⟩ :: earlier) final := by
  cases rest with
  | spent looks spent => exact .spent (.again found vain timely looks) (by simp [spent])
  | hung looks within hung =>
    exact .hung (.again found vain timely looks) (by simpa using within) hung

theorem exists_history (polling : Polling T) (clock : Clock S T) (probe : Activity S (Option A))
    (deadline : T) (fuel : Nat) (start : S) :
    (∃ earlier last final, polling.Concludes clock probe deadline start earlier last final ∧
        earlier.length < fuel) ∨
      ∃ earlier final, polling.Breaks clock probe deadline fuel start earlier final := by
  induction fuel generalizing start with
  | zero => exact .inr ⟨[], start, .spent .none rfl⟩
  | succ fuel ih =>
    rcases finds_or_hangs probe start with ⟨finding, after, found⟩ | ⟨final, hung⟩
    · by_cases goesOn : finding.isVain = true ∧ isOver clock deadline after = false
      · obtain ⟨vain, timely⟩ := goesOn
        rcases ih (polling.pauses clock deadline after) with
          ⟨earlier, last, final, rest, within⟩ | ⟨earlier, final, rest⟩
        · exact .inl ⟨_, last, final, .again found vain timely rest, by simpa using within⟩
        · exact .inr ⟨_, final, .again found vain timely rest⟩
      · refine .inl ⟨[], ⟨start, finding⟩, after, ⟨.none, found, fun vain => ?_⟩, by simp⟩
        simpa [vain] using goesOn
    · exact .inr ⟨[], final, .hung .none (by simp) hung⟩

/-- What the looks before the last note, if the clock notes nothing. -/
theorem Looks.notes {N : Type} (entries : S -> List N) {kind : N -> Prop}
    (slept : ∀ span state, entries (clock.sleep span state) = entries state)
    (noted : ∀ {state finding after}, Finds probe state finding after → finding.isVain = true →
      ∃ made, entries after = entries state ++ made ∧ ∀ entry ∈ made, kind entry)
    (looks : polling.Looks clock probe deadline start earlier final) :
    ∃ made, entries final = entries start ++ made ∧ ∀ entry ∈ made, kind entry := by
  induction looks with
  | none => exact ⟨[], (List.append_nil _).symm, by simp⟩
  | @again start after last finding looks found vain timely rest ih =>
    obtain ⟨made, grown, kinds⟩ := noted found vain
    obtain ⟨more, grownOn, kindsOn⟩ := ih
    -- The pause between the looks adds nothing.
    have paused : entries (polling.pauses clock deadline after) = entries after := slept _ _
    refine ⟨made ++ more, by rw [grownOn, paused, grown, List.append_assoc], ?_⟩
    exact List.forall_mem_append.mpr ⟨kinds, kindsOn⟩

/-! ## Rounds and histories -/

theorem rounds_of_finds (found : Finds probe start finding after) :
    polling.rounds clock deadline probe (fuel + 1) latest start =
      if finding.isVain && !isOver clock deadline after then
        polling.rounds clock deadline probe fuel (finding.error?.or latest)
          (polling.pauses clock deadline after)
      else (polling.verdict (finding.error?.or latest) finding, after) := by
  rw [rounds]
  cases found with
  | found ran => simp [ran, Sight.isVain, verdict]
  | nothing ran =>
    cases late : isOver clock deadline after <;> rw [isOver] at late <;>
      simp [ran, late, pauses, Sight.isVain, Sight.error?, verdict]
  | erred ran live =>
    cases late : isOver clock deadline after <;> rw [isOver] at late <;>
      simp [ran, live, late, pauses, Sight.isVain, Sight.error?, verdict]
  | lost ran lost => simp [ran, lost, Sight.isVain, verdict]

theorem rounds_of_hangs (hung : probe start = (.stalled, final)) :
    polling.rounds clock deadline probe (fuel + 1) latest start = (.stalled, final) := by
  simp [rounds, hung]

theorem rounds_of_looks (looks : polling.Looks clock probe deadline start earlier final) :
    polling.rounds clock deadline probe (earlier.length + fuel) latest start =
      polling.rounds clock deadline probe fuel
        ((Sight.latestError (earlier.map Look.finding)).or latest) final := by
  -- Each look may replace the latest error, so that is not fixed.
  induction looks generalizing latest with
  | none => simp [Sight.latestError]
  | @again start after last finding looks found vain timely rest ih =>
    have fuels : looks.length + 1 + fuel = looks.length + fuel + 1 := by omega
    simp only [List.length_cons, fuels, rounds_of_finds found, vain, timely, Bool.not_false,
      Bool.and_self, if_true, ih, List.map_cons, Sight.latestError_cons, Option.or_assoc]

theorem rounds_of_concludes {last : Look S A}
    (concludes : polling.Concludes clock probe deadline start earlier last final)
    (within : earlier.length < fuel) :
    polling.rounds clock deadline probe fuel none start =
      (polling.verdict (Sight.latestError ((earlier ++ [last]).map Look.finding)) last.finding,
        final) := by
  obtain ⟨spare, rfl⟩ : ∃ spare, fuel = earlier.length + (spare + 1) :=
    ⟨fuel - earlier.length - 1, by omega⟩
  have stops : (last.finding.isVain && !isOver clock deadline final) = false := by
    cases vain : last.finding.isVain with
    | false => rfl
    | true => simp [concludes.overdue vain]
  rw [rounds_of_looks concludes.looks, rounds_of_finds concludes.finds, stops, List.map_append,
    Sight.latestError_append, List.map_singleton, Sight.latestError_singleton, Option.or_none]
  rfl

theorem rounds_of_breaks (breaks : polling.Breaks clock probe deadline fuel start earlier final) :
    polling.rounds clock deadline probe fuel latest start = (.stalled, final) := by
  cases breaks with
  | spent looks spent =>
    subst spent
    rw [← Nat.add_zero earlier.length, rounds_of_looks looks]
    rfl
  | hung looks within hung =>
    obtain ⟨spare, rfl⟩ : ∃ spare, fuel = earlier.length + (spare + 1) :=
      ⟨fuel - earlier.length - 1, by omega⟩
    rw [rounds_of_looks looks, rounds_of_hangs hung]

theorem run_of_history (polling : Polling T) (clock : Clock S T) (fuel : Nat)
    (probe : Activity S (Option A)) (start : S) :
    (∃ earlier last final,
        polling.Concludes clock probe (Scale.add (clock.now start) polling.timeout) start earlier
          last final ∧
        earlier.length < fuel ∧
        polling.run clock fuel probe start =
          (polling.verdict (Sight.latestError ((earlier ++ [last]).map Look.finding))
            last.finding, final)) ∨
      ∃ earlier final,
        polling.Breaks clock probe (Scale.add (clock.now start) polling.timeout) fuel start earlier
          final ∧
        polling.run clock fuel probe start = (.stalled, final) := by
  rcases polling.exists_history clock probe (Scale.add (clock.now start) polling.timeout) fuel start
    with ⟨earlier, last, final, concludes, within⟩ | ⟨earlier, final, breaks⟩
  · exact .inl ⟨earlier, last, final, concludes, within, rounds_of_concludes concludes within⟩
  · exact .inr ⟨earlier, final, breaks, rounds_of_breaks breaks⟩

/-- Unless the session is lost, a polling only fails when there is no time left after a look. -/
theorem concludes_of_failed {failure : Failure}
    (ran : polling.run clock fuel probe start = (.failed failure, final))
    (reachable : failure.kind? ≠ some .sessionUnreachable) :
    ∃ earlier last,
      polling.Concludes clock probe (Scale.add (clock.now start) polling.timeout) start earlier
        last final ∧
      last.finding.isVain = true := by
  rcases polling.run_of_history clock fuel probe start with
    ⟨earlier, last, after, concludes, -, polled⟩ | ⟨_, _, -, polled⟩
  · rw [polled] at ran
    obtain ⟨ended, rfl⟩ := Prod.mk.inj ran
    refine ⟨earlier, last, concludes, ?_⟩
    cases came : last.finding with
    | nothing | erred cause => rfl
    | found value => simp [came, verdict] at ended
    | lost cause =>
      rw [came, verdict, Outcome.failed.injEq] at ended
      exact absurd (ended ▸ kind_asUnreachable cause) reachable
  · rw [polled] at ran
    cases ran

end Polling

end Rehearsal
