import Rehearsal.Proofs.Time.RetryBudget

/-!
Polling something that is supplied bit by bit, in exact seconds. Each look takes in the next of the
supplies; if all of them come in time, the polling ends with the first that has what it looks for,
or has seen them all.
-/

set_option autoImplicit false

namespace Rehearsal.Polling

variable {S A B : Type}

/-- What the first fitting supply has, and the supplies after it. -/
def firstIn (seek : B -> Option A) : List B -> Option (A × List B)
  | [] => none
  | supply :: rest =>
    match seek supply with
    | some found => some (found, rest)
    | none => firstIn seek rest

variable {polling : Polling Rat} {clock : Clock S Rat} {probe : Activity S (Option A)}
  {deadline : Rat}

/-! ## An end in time -/

structure KeepsTime (clock : Clock S Rat) (probe : Activity S (Option A)) : Prop where
  sleeps : ∀ span state, clock.now (clock.sleep span state) = clock.now state + span
  probes : ∀ state, (probe state).1 ≠ .stalled ∧ clock.now state ≤ clock.now (probe state).2

/-- What follows a look that was in vain: the end, or a pause and the rounds after it. -/
def goesOn (polling : Polling Rat) (clock : Clock S Rat) (deadline : Rat)
    (rest : Activity S A) (last : Option Failure) : Activity S A := fun state =>
  if deadline ≤ clock.now state then (.failed (polling.timeoutFailure last), state)
  else rest (clock.sleep (min polling.interval (deadline - clock.now state)) state)

theorem rounds_succ (fuel : Nat) (last : Option Failure) (state : S) :
    polling.rounds clock deadline probe (fuel + 1) last state =
      match probe state with
      | (.ok (some value), state) => (.ok value, state)
      | (.ok none, state) =>
        polling.goesOn clock deadline (polling.rounds clock deadline probe fuel last) last state
      | (.failed failure, state) =>
        if failure.isSessionLost then (.failed (asUnreachable failure), state)
        else polling.goesOn clock deadline
          (polling.rounds clock deadline probe fuel (some failure)) (some failure) state
      | (.stalled, state) => (.stalled, state) := by
  rw [rounds]
  rcases probed : probe state with ⟨(_ | value) | failure | _, after⟩ <;>
    simp [probed, goesOn, Scale.le, Scale.sub, Scale.zero, Scale.earlier_exact]

theorem sub_min_le {interval left : Rat} {spare : Nat} (spaced : 0 < interval)
    (enough : left ≤ (spare + 1 : Nat) * interval) :
    left - min interval left ≤ spare * interval := by
  have room : 0 ≤ (spare : Rat) * interval := by positivity
  push_cast at enough
  -- A pause takes a full interval off the time that is left, or all of it.
  rcases min_cases interval left with ⟨full, -⟩ | ⟨cut, -⟩
  · rw [full]
    linarith
  · rw [cut]
    linarith

theorem exists_spare {interval left : Rat} {fuel : Nat} (early : 0 < left)
    (enough : left ≤ fuel * interval) : ∃ spare, fuel = spare + 1 := by
  refine Nat.exists_eq_succ_of_ne_zero fun none => ?_
  rw [none, Nat.cast_zero, zero_mul] at enough
  linarith

theorem goesOn_ends {rest : Activity S A} {fuel : Nat} {last : Option Failure} {state : S}
    (sleeps : ∀ span state, clock.now (clock.sleep span state) = clock.now state + span)
    (spaced : 0 < polling.interval) (enough : deadline - clock.now state ≤ fuel * polling.interval)
    (ends : ∀ spare state, fuel = spare + 1 →
      deadline - clock.now state ≤ spare * polling.interval →
      (rest state).1 ≠ .stalled ∧ clock.now state ≤ clock.now (rest state).2) :
    (polling.goesOn clock deadline rest last state).1 ≠ .stalled ∧
      clock.now state ≤ clock.now (polling.goesOn clock deadline rest last state).2 := by
  unfold goesOn
  split
  next => exact ⟨nofun, le_refl _⟩
  next timely =>
    have early : 0 < deadline - clock.now state := by linarith
    obtain ⟨spare, rfl⟩ := exists_spare early enough
    have slept := sleeps (min polling.interval (deadline - clock.now state)) state
    have forward := lt_min spaced early
    have left := sub_min_le spaced enough
    obtain ⟨ended, later⟩ := ends spare _ rfl (by rw [slept]; linarith)
    exact ⟨ended, by linarith⟩

theorem rounds_end (timed : KeepsTime clock probe) (spaced : 0 < polling.interval) {fuel : Nat}
    {last : Option Failure} {state : S}
    (enough : deadline - clock.now state ≤ fuel * polling.interval) :
    (polling.rounds clock deadline probe (fuel + 1) last state).1 ≠ .stalled ∧
      clock.now state ≤
        clock.now (polling.rounds clock deadline probe (fuel + 1) last state).2 := by
  induction fuel using Nat.strong_induction_on generalizing last state with
  | _ fuel ih =>
    -- Both a look in vain and a failed one are followed by this.
    have goes : ∀ last after, clock.now state ≤ clock.now after →
        (polling.goesOn clock deadline (polling.rounds clock deadline probe fuel last) last
          after).1 ≠ .stalled ∧ clock.now after ≤ clock.now
            (polling.goesOn clock deadline (polling.rounds clock deadline probe fuel last) last
              after).2 := by
      intro last after later
      refine goesOn_ends timed.sleeps spaced (by linarith) fun spare between same left => ?_
      subst same
      exact ih spare (Nat.lt_succ_self spare) left
    obtain ⟨ended, later⟩ := timed.probes state
    rw [rounds_succ]
    rcases probed : probe state with ⟨(_ | value) | failure | _, after⟩ <;>
      rw [probed] at ended later
    · obtain ⟨endedOn, laterOn⟩ := goes last after later
      exact ⟨endedOn, le_trans later laterOn⟩
    · exact ⟨nofun, later⟩
    · dsimp only
      split
      · exact ⟨nofun, later⟩
      · obtain ⟨endedOn, laterOn⟩ := goes (some failure) after later
        exact ⟨endedOn, le_trans later laterOn⟩
    · exact absurd rfl ended

/-! ## Supplies -/

/-- A probe that looks for something in the next of the supplies, and takes `lag` for it at most. -/
structure Reads (clock : Clock S Rat) (probe : Activity S (Option A)) (supplies : S -> List B)
    (seek : B -> Option A) (holds : S -> Prop) (lag : Rat) : Prop where
  probes : ∀ state, holds state → ∃ after,
    probe state = (.ok ((supplies state).head?.bind seek), after) ∧ holds after ∧
      supplies after = (supplies state).tail ∧
      clock.now state ≤ clock.now after ∧ clock.now after ≤ clock.now state + lag
  sleeps : ∀ span state, holds state → holds (clock.sleep span state) ∧
    supplies (clock.sleep span state) = supplies state ∧
    clock.now (clock.sleep span state) = clock.now state + span

variable {supplies : S -> List B} {seek : B -> Option A} {holds : S -> Prop} {lag : Rat}

/-- The supplies are all read, or all up to the first that has what is looked for. -/
def Ends (polling : Polling Rat) (supplies : S -> List B) (seek : B -> Option A)
    (holds : S -> Prop) (started : List B) : Outcome A × S -> Prop
  | (outcome, final) => holds final ∧
    match firstIn seek started with
    | some (value, rest) => outcome = .ok value ∧ supplies final = rest
    | none => outcome = .failed (polling.timeoutFailure none) ∧ supplies final = []

theorem rounds_read (reads : Reads clock probe supplies seek holds lag)
    (spaced : 0 < polling.interval) {fuel : Nat} {state : S} (held : holds state)
    (timely : supplies state ≠ [] →
      (supplies state).length * (polling.interval + lag) ≤ deadline - clock.now state)
    (enough : deadline - clock.now state ≤ fuel * polling.interval) :
    polling.Ends supplies seek holds (supplies state)
      (polling.rounds clock deadline probe (fuel + 1) none state) := by
  induction fuel using Nat.strong_induction_on generalizing state with
  | _ fuel ih =>
    obtain ⟨after, probed, heldOn, taken, later, bounded⟩ := reads.probes state held
    -- A look in vain is followed by the end or by a pause, after which the rest is read.
    have goes : (¬ deadline ≤ clock.now after → supplies after ≠ [] →
          (supplies after).length * (polling.interval + lag) ≤
            deadline - clock.now after - min polling.interval (deadline - clock.now after)) →
        (deadline ≤ clock.now after → supplies after = []) →
        polling.Ends supplies seek holds (supplies after)
          (polling.goesOn clock deadline (polling.rounds clock deadline probe fuel none) none
            after) := by
      intro timelyOn finished
      unfold goesOn
      split
      next late =>
        refine ⟨heldOn, ?_⟩
        rw [finished late]
        exact ⟨rfl, rfl⟩
      next early =>
        obtain ⟨spare, rfl⟩ := exists_spare (by linarith) enough
        obtain ⟨heldLast, same, slept⟩ :=
          reads.sleeps (min polling.interval (deadline - clock.now after)) after heldOn
        have left : deadline - clock.now after - _ ≤ spare * polling.interval :=
          sub_min_le spaced (by linarith)
        rw [← same]
        refine ih spare (Nat.lt_succ_self spare) heldLast ?_ (by rw [slept]; linarith)
        rw [same, slept]
        intro more
        have room := timelyOn early more
        linarith
    rw [rounds_succ, probed]
    cases supplied : supplies state with
    | nil =>
      rw [supplied] at taken
      have finished : polling.Ends supplies seek holds [] _ :=
        taken ▸ goes (fun _ more => absurd taken more) fun _ => taken
      exact finished
    | cons supply rest =>
      rw [supplied] at taken timely
      cases found : seek supply with
      | some value =>
        simp only [List.head?_cons, Option.bind_some, found]
        exact ⟨heldOn, by simp [firstIn, found, taken]⟩
      | none =>
        have room : (rest.length + 1 : Rat) * (polling.interval + lag) ≤
            deadline - clock.now state := by simpa using timely (List.cons_ne_nil _ _)
        -- There was time for this supply and all others, so none of theirs was used up.
        have delay : 0 ≤ lag := by linarith
        have others : 0 ≤ (rest.length : Rat) * (polling.interval + lag) := by positivity
        rw [add_mul, one_mul] at room
        have early : ¬ deadline ≤ clock.now after := by linarith
        have full : min polling.interval (deadline - clock.now after) = polling.interval :=
          min_eq_left (by linarith)
        have ended : polling.Ends supplies seek holds rest _ :=
          taken ▸ goes (fun _ _ => by rw [full, taken, List.tail_cons]; linarith)
            fun late => absurd late early
        simpa [Ends, firstIn, found] using ended

theorem run_reads (reads : Reads clock probe supplies seek holds lag)
    (spaced : 0 < polling.interval) {fuel : Nat} {state : S} (held : holds state)
    (timely : (supplies state).length * (polling.interval + lag) ≤ polling.timeout)
    (enough : polling.timeout ≤ fuel * polling.interval) :
    polling.Ends supplies seek holds (supplies state)
      (polling.run clock (fuel + 1) probe state) := by
  have span : Scale.add (clock.now state) polling.timeout - clock.now state = polling.timeout :=
    add_sub_cancel_left _ _
  exact rounds_read reads spaced held (fun _ => span.symm ▸ timely) (span.symm ▸ enough)

theorem run_ends (timed : KeepsTime clock probe) (spaced : 0 < polling.interval) {fuel : Nat}
    (state : S) (enough : polling.timeout ≤ fuel * polling.interval) :
    (polling.run clock (fuel + 1) probe state).1 ≠ .stalled ∧
      clock.now state ≤ clock.now (polling.run clock (fuel + 1) probe state).2 := by
  have span : Scale.add (clock.now state) polling.timeout - clock.now state = polling.timeout :=
    add_sub_cancel_left _ _
  exact rounds_end timed spaced (span.symm ▸ enough)

end Rehearsal.Polling
