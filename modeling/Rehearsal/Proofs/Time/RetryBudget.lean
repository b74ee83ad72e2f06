import Mathlib.Data.Rat.Floor
import Mathlib.Tactic.Linarith
import Mathlib.Tactic.NormNum
import Mathlib.Tactic.Ring
import Rehearsal.Proofs.Time.RetryOutcome

/-!
How long a step is retried, in exact seconds. The measure that ends a run is the time that is
left, not the number of attempts: each pause uses up a full delay or all that is left, so the
last attempt comes at the deadline itself.
-/

set_option autoImplicit false

namespace Rehearsal

theorem Scale.earlier_exact (left right : Rat) : Scale.earlier left right = min left right := by
  by_cases later : right < left
  · simp [Scale.earlier, Scale.lt, later, min_eq_right later.le]
  · simp [Scale.earlier, Scale.lt, later, min_eq_left (not_lt.mp later)]

theorem Scale.later_exact (left right : Rat) : Scale.later left right = max left right := by
  by_cases later : left < right
  · simp [Scale.later, Scale.lt, later, max_eq_right later.le]
  · simp [Scale.later, Scale.lt, later, max_eq_left (not_lt.mp later)]

def Quantity.seconds : Quantity Rat -> Rat
  | .whole count => count
  | .exact amount => amount

namespace RetryPolicy

def span (policy : RetryPolicy Rat) : Rat :=
  policy.attempts.seconds * (policy.delay.seconds + 1)

/-- The time between two attempts, unless the deadline comes first. -/
def spacing (policy : RetryPolicy Rat) : Rat := max policy.delay.seconds (1 / 10)

theorem spacing_pos (policy : RetryPolicy Rat) : 0 < policy.spacing :=
  lt_max_of_lt_right (by norm_num)

theorem budget?_exact (policy : RetryPolicy Rat) : policy.budget? = some policy.span := by
  have one : (mkRat 100 100 : Rat) = 1 := by norm_num
  obtain ⟨attempts, delay⟩ := policy
  cases attempts <;> cases delay <;>
    simp [budget?, span, Quantity.mul?, Quantity.next, Quantity.onScale?, Quantity.seconds,
      Scale.ofInt?, Scale.mul, Scale.add, Scale.hundredths, one]

theorem pause_exact (policy : RetryPolicy Rat) : policy.pause = policy.spacing := by
  have tenth : (mkRat 10 100 : Rat) = 1 / 10 := by norm_num
  obtain ⟨attempts, delay⟩ := policy
  cases delay <;>
    simp [pause, spacing, Quantity.onScale?, Quantity.seconds, Scale.ofInt?, Scale.later_exact,
      Scale.hundredths, tenth]

/-- The most attempts that fit the time: one for each delay, and one at the deadline. -/
def limit (policy : RetryPolicy Rat) : Nat := ⌈max policy.span 0 / policy.spacing⌉₊ + 1

end RetryPolicy

namespace Retrier

variable {S A : Type}

structure Moves (retrier : Retrier S Rat) (step : Activity S A) (relate : Rat -> Rat -> Prop) :
    Prop where
  steps : ∀ state, relate (retrier.clock.now state) (retrier.clock.now (step state).2)
  recoveries : ∀ reopen, retrier.reopen = some reopen →
    ∀ state, relate (retrier.clock.now state) (retrier.clock.now (reopen state).2)

/-- The clock moves on by each span that is slept, never goes back, and does not move while
something is noted. -/
structure KeepsTime (retrier : Retrier S Rat) (step : Activity S A) : Prop
    extends retrier.Moves step (· ≤ ·) where
  sleeps : ∀ span state,
    retrier.clock.now (retrier.clock.sleep span state) = retrier.clock.now state + span
  attempts : ∀ number state,
    retrier.clock.now (retrier.noteAttempts number state) = retrier.clock.now state
  notes : ∀ state,
    retrier.clock.now (retrier.noteReinitialization state) = retrier.clock.now state

structure ComesToEnd (retrier : Retrier S Rat) (step : Activity S A) : Prop where
  steps : ∀ state last, step state ≠ (.stalled, last)
  recoveries : ∀ reopen, retrier.reopen = some reopen →
    ∀ state last, reopen state ≠ (.stalled, last)

variable {retrier : Retrier S Rat} {step : Activity S A} {deadline : Rat} {number count : Nat}
  {start state final : S} {trial : Trial A} {earlier : List (Round S A)}
  {relate : Rat -> Rat -> Prop}

/-! ## One attempt -/

theorem Moves.restores [Std.Refl relate] (moves : retrier.Moves step relate)
    (timed : retrier.KeepsTime step) {flaw : Option Failure}
    (restored : retrier.Restores state flaw final) :
    relate (retrier.clock.now state) (retrier.clock.now final) := by
  have noted := timed.notes state
  cases restored with
  | unattended => exact noted ▸ refl _
  | succeeded present ran =>
    have moved := moves.recoveries _ present (retrier.noteReinitialization state)
    rwa [ran, noted] at moved
  | broke present ran =>
    have moved := moves.recoveries _ present (retrier.noteReinitialization state)
    rwa [ran, noted] at moved

theorem Moves.tries [Std.Refl relate] [IsTrans Rat relate] (moves : retrier.Moves step relate)
    (timed : retrier.KeepsTime step) (tried : retrier.Tries step number state trial final) :
    relate (retrier.clock.now state) (retrier.clock.now final) := by
  have moved := moves.steps (retrier.noteAttempts number state)
  rw [timed.attempts] at moved
  cases tried with
  | passed ran => rwa [ran] at moved
  | refused ran => rwa [ran] at moved
  | failed ran => rwa [ran] at moved
  | lost ran kind restored =>
    rw [ran] at moved
    exact IsTrans.trans _ _ _ moved (moves.restores timed restored)

theorem ComesToEnd.not_hangs (ending : retrier.ComesToEnd step) :
    ¬ retrier.Hangs step number state final := by
  intro hung
  cases hung with
  | step ran => exact ending.steps _ _ ran
  | recovery ran kind present hung => exact ending.recoveries _ present _ _ hung

/-! ## The deadline -/

theorem isOver_exact :
    retrier.isOver deadline state = true ↔ deadline ≤ retrier.clock.now state := by
  simp [isOver, Scale.le, Scale.sub, Scale.zero]

theorem not_isOver_exact :
    retrier.isOver deadline state = false ↔ retrier.clock.now state < deadline := by
  rw [← Bool.not_eq_true, isOver_exact, not_le]

theorem now_pauses (timed : retrier.KeepsTime step) :
    retrier.clock.now (retrier.pauses deadline state) =
      min (retrier.clock.now state + retrier.policy.spacing) deadline := by
  rw [pauses, timed.sleeps, Scale.earlier_exact, RetryPolicy.pause_exact, ← min_add_add_left]
  congr 1
  exact add_sub_cancel _ _

theorem KeepsTime.punctual (timed : retrier.KeepsTime step)
    (repeated : retrier.Repeats step deadline count start earlier final)
    (early : retrier.clock.now start ≤ deadline) :
    (∀ round ∈ earlier, retrier.clock.now round.began ≤ deadline) ∧
      retrier.clock.now final ≤ deadline := by
  induction repeated with
  | none => exact ⟨by simp, early⟩
  | @again count start after last trial rounds tried retried timely rest ih =>
    have next := ih (by rw [now_pauses timed]; exact min_le_right _ _)
    refine ⟨?_, next.2⟩
    intro round member
    rcases List.mem_cons.mp member with rfl | later
    · exact early
    · exact next.1 round later

/-- All pauses but the last take their full span, and the last begins before the deadline. -/
theorem KeepsTime.spaced (timed : retrier.KeepsTime step)
    (repeated : retrier.Repeats step deadline count start earlier final) (some : earlier ≠ []) :
    ((earlier.length : Rat) - 1) * retrier.policy.spacing <
      deadline - retrier.clock.now start := by
  induction repeated with
  | none => exact absurd rfl some
  | @again count start after last trial rounds tried retried timely rest ih =>
    have passed := timed.toMoves.tries timed tried
    have before := not_isOver_exact.mp timely
    cases rest with
    | none =>
      simp only [List.length_singleton, Nat.cast_one, sub_self, zero_mul, sub_pos]
      exact passed.trans_lt before
    | again tried' retried' timely' rest' =>
      -- The attempt after this pause was in time, so the pause was not cut at the deadline.
      have left := ih (by simp)
      have paused : retrier.clock.now (retrier.pauses deadline after) = _ := now_pauses timed
      have full : retrier.clock.now (retrier.pauses deadline after) =
          retrier.clock.now after + retrier.policy.spacing := by
        have sooner := (timed.toMoves.tries timed tried').trans_lt (not_isOver_exact.mp timely')
        rw [paused] at sooner ⊢
        exact min_eq_left (not_lt.mp fun after => by simp [min_eq_right after.le] at sooner)
      rw [full] at left
      simp only [List.length_cons, Nat.cast_add, Nat.cast_one] at left ⊢
      linarith

/-- Where attempts and recoveries take no time, an attempt begins after as many full delays as
there were attempts before it, or at the deadline. -/
theorem KeepsTime.free (timed : retrier.KeepsTime step) (free : retrier.Moves step (· = ·))
    (repeated : retrier.Repeats step deadline count start earlier final)
    (early : retrier.clock.now start ≤ deadline) :
    retrier.clock.now final =
      min (retrier.clock.now start + earlier.length * retrier.policy.spacing) deadline := by
  induction repeated with
  | none => simp [early]
  | @again count start after last trial rounds tried retried timely rest ih =>
    have unmoved := free.tries timed tried
    have paused : retrier.clock.now (retrier.pauses deadline after) = _ := now_pauses timed
    rw [ih (by rw [paused]; exact min_le_right _ _), paused, ← unmoved]
    have spacing := retrier.policy.spacing_pos
    have spent : 0 ≤ (rounds.length : Rat) * retrier.policy.spacing := by positivity
    simp only [List.length_cons, Nat.cast_add, Nat.cast_one]
    -- Either a full delay fits, or the pause lands on the deadline and no later one moves on.
    rcases min_cases (retrier.clock.now start + retrier.policy.spacing) deadline
      with ⟨sooner, _⟩ | ⟨later, passed⟩
    · rw [sooner]
      congr 1
      ring
    · rw [later, min_eq_right (by linarith), min_eq_right (by linarith)]

/-! ## Histories -/

section

variable (timed : retrier.KeepsTime step)

include timed

theorem KeepsTime.few
    (repeated : retrier.Repeats step (retrier.clock.now start + retrier.policy.span) 0 start
      earlier final) :
    earlier.length < retrier.policy.limit := by
  cases earlier with
  | nil => exact Nat.succ_pos _
  | cons first rest =>
    have spaced := timed.spaced repeated (List.cons_ne_nil _ _)
    simp only [List.length_cons, Nat.cast_add, Nat.cast_one, add_sub_cancel_right,
      add_sub_cancel_left] at spaced
    refine Nat.succ_lt_succ (Nat.lt_ceil.mpr ?_)
    rw [lt_div_iff₀ retrier.policy.spacing_pos]
    exact spaced.trans_le (le_max_left _ _)

/-- Only the first attempt may begin after the deadline, where there is no time at all. -/
theorem KeepsTime.later_punctual {last : Round S A}
    (ends : retrier.Ends step deadline count start earlier last final) :
    ∀ round ∈ (earlier ++ [last]).tail, retrier.clock.now round.began ≤ deadline := by
  obtain ⟨began, trial⟩ := last
  cases ends.repeats with
  | none => simp
  | @again _ _ after _ trial rounds tried retried timely rest =>
    have before := timed.punctual rest (by rw [now_pauses timed]; exact min_le_right _ _)
    intro round member
    rcases List.mem_append.mp member with among | final
    · exact before.1 round among
    · exact List.mem_singleton.mp final ▸ before.2

theorem KeepsTime.idle {last : Round S A} (free : retrier.Moves step (· = ·))
    (ends : retrier.Ends step (retrier.clock.now start + retrier.policy.span) 0 start earlier last
      final)
    (room : 0 ≤ retrier.policy.span) (retried : last.trial.isRetried = true) :
    retrier.clock.now final = retrier.clock.now start + retrier.policy.span ∧
      earlier.length = ⌈retrier.policy.span / retrier.policy.spacing⌉₊ := by
  have early : retrier.clock.now start ≤ retrier.clock.now start + retrier.policy.span := by
    linarith
  have spacing := retrier.policy.spacing_pos
  have unmoved := free.tries timed ends.tries
  have reached := timed.free free ends.repeats early
  have overdue := isOver_exact.mp (ends.overdue retried)
  rw [← unmoved, reached] at overdue ⊢
  have full := le_min_iff.mp overdue
  -- No run makes more attempts than these, and fewer would not have reached the deadline.
  refine ⟨min_eq_right full.1, le_antisymm ?_ ?_⟩
  · have few := timed.few ends.repeats
    rw [RetryPolicy.limit, max_eq_left room] at few
    exact Nat.lt_succ_iff.mp few
  · rw [Nat.ceil_le, div_le_iff₀ spacing]
    linarith [full.1]

theorem KeepsTime.passes {last : Round S A} (free : retrier.Moves step (· = ·))
    (ends : retrier.Ends step deadline count start earlier last final) {time : Rat}
    (timely : time ≤ deadline)
    (passing : ∀ state, time ≤ retrier.clock.now state → ∃ value, (step state).1 = .ok value)
    (sound : ∀ state failure, retrier.clock.now state < time → (step state).1 = .failed failure →
      failure.classify ≠ .configuration) :
    ∃ value, last.trial = .passed value := by
  have unmoved := free.tries timed ends.tries
  have begun := timed.attempts (count + earlier.length + 1) last.began
  have soon := fun failure => sound (retrier.noteAttempts (count + earlier.length + 1) last.began)
    failure
  have late := passing (retrier.noteAttempts (count + earlier.length + 1) last.began)
  have tried := ends.tries
  rw [begun] at soon late
  cases retried : last.trial.isRetried with
  | true =>
    -- The attempt ended at the deadline or after it and took no time, so it began there as well.
    obtain ⟨failure, after, ran⟩ := tried.ran_of_retried retried
    have overdue := isOver_exact.mp (ends.overdue retried)
    obtain ⟨value, passed⟩ := late (unmoved ▸ timely.trans overdue)
    simp [ran] at passed
  | false =>
    cases trial : last.trial with
    | passed value => exact ⟨value, rfl⟩
    | refused failure =>
      rw [trial] at tried
      cases tried with
      | refused ran kind =>
        rcases lt_or_ge (retrier.clock.now last.began) time with before | after
        · exact absurd kind (soon failure before (by rw [ran]))
        · obtain ⟨value, passed⟩ := late after
          simp [ran] at passed
    | failed failure => simp [trial, Trial.isRetried] at retried
    | lost failure flaw => simp [trial, Trial.isRetried] at retried

end

/-! ## Runs -/

structure SpendsTime (retrier : Retrier S Rat) (step : Activity S A) (start : S)
    (earlier : List (Round S A)) (last : Round S A) (final : S)
    (result : Except StepFailure A) : Prop where
  few : earlier.length + 1 ≤ retrier.policy.limit
  punctual : ∀ round ∈ (earlier ++ [last]).tail,
    retrier.clock.now round.began ≤ retrier.clock.now start + retrier.policy.span
  exhausted : ∀ failure, result = .error failure → failure.ending ≠ .refused →
    retrier.clock.now start + retrier.policy.span ≤ retrier.clock.now final
  -- A step that is only ever retried uses up the time to the deadline exactly.
  idle : retrier.Moves step (· = ·) → 0 ≤ retrier.policy.span → last.trial.isRetried = true →
    (∃ failure, result = .error failure ∧ failure.ending ≠ .refused) ∧
      retrier.clock.now final = retrier.clock.now start + retrier.policy.span ∧
      earlier.length = ⌈retrier.policy.span / retrier.policy.spacing⌉₊
  -- A success that can be had at the deadline is not missed.
  passing : retrier.Moves step (· = ·) →
    ∀ time ≤ retrier.clock.now start + retrier.policy.span,
      (∀ state, time ≤ retrier.clock.now state → ∃ value, (step state).1 = .ok value) →
      (∀ state failure, retrier.clock.now state < time → (step state).1 = .failed failure →
        failure.classify ≠ .configuration) →
      ∃ value, result = .ok value

theorem KeepsTime.spends (timed : retrier.KeepsTime step) {last : Round S A}
    (ends : retrier.Ends step (retrier.clock.now start + retrier.policy.span) 0 start earlier last
      final)
    (description : String) (cause : Option Failure) :
    retrier.SpendsTime step start earlier last final
      (verdict description retrier.policy.span (earlier.length + 1) cause last.trial) where
  few := timed.few ends.repeats
  punctual := timed.later_punctual ends
  exhausted := by
    intro failure failed unrefused
    have retried := (verdict_gives_up ..).mp ⟨failure, failed, unrefused⟩
    exact isOver_exact.mp (ends.overdue retried)
  idle := by
    intro free room retried
    exact ⟨(verdict_gives_up ..).mpr retried, timed.idle free ends room retried⟩
  passing := by
    intro free time timely passing sound
    obtain ⟨value, passed⟩ := timed.passes free ends timely passing sound
    exact ⟨value, by rw [passed, verdict]⟩

theorem run_answers (timed : retrier.KeepsTime step) (ending : retrier.ComesToEnd step)
    {fuel : Nat} (enough : retrier.policy.limit ≤ fuel) (description : String) (start : S) :
    ∃ result final, retrier.run fuel description step start = (.ok result, final) := by
  rcases retrier.run_of_history step retrier.policy.budget?_exact fuel description start with
    ⟨earlier, last, final, -, ran⟩ | ⟨earlier, final, breaks, -⟩
  · exact ⟨_, final, ran⟩
  · cases breaks with
    | spent repeats spent => exact absurd (spent ▸ timed.few repeats) (not_lt.mpr enough)
    | hung repeats within hung => exact absurd hung ending.not_hangs

/-- A run whose attempts and recoveries all end comes to an end itself, after as many attempts as
fit its time at most. -/
theorem run_spends_time (timed : retrier.KeepsTime step) (ending : retrier.ComesToEnd step)
    (description : String) (start : S) :
    ∃ earlier last final result,
      retrier.Ends step (retrier.clock.now start + retrier.policy.span) 0 start earlier last
        final ∧
      (∀ fuel, retrier.policy.limit ≤ fuel →
        retrier.run fuel description step start = (.ok result, final)) ∧
      retrier.SpendsTime step start earlier last final result := by
  have history := retrier.exists_history step (retrier.clock.now start + retrier.policy.span)
    retrier.policy.limit 0 start
  rcases history with ⟨earlier, last, final, ends, within⟩ | ⟨earlier, final, breaks⟩
  · refine ⟨earlier, last, final, _, ends, fun fuel enough => ?_, timed.spends ends description
      (Trial.latestCause (earlier.map Round.trial ++ [last.trial]))⟩
    exact run_of_ends retrier.policy.budget?_exact ends (within.trans_le enough)
  · -- The fuel outlasts the attempts that fit the time, and no attempt hangs.
    cases breaks with
    | spent repeats spent => exact absurd spent (timed.few repeats).ne
    | hung repeats within hung => exact absurd hung ending.not_hangs

def ofTime (policy : RetryPolicy Rat) : Retrier Rat Rat where
  clock := { now := id, sleep := fun span now => now + span }
  policy := policy
  reopen := none
  noteAttempts := fun _ now => now
  noteReinitialization := id

/-- Three attempts with delays of two seconds take up nine seconds, and a step that passes from
the ninth second on still passes. -/
theorem run_passes_at_deadline :
    let step : Activity Rat Unit := fun now =>
      if now < 9 then (.failed .noPage, now) else (.ok (), now)
    let policy : RetryPolicy Rat := { attempts := .whole 3, delay := .whole 2 }
    policy.limit = 6 ∧
      ∃ final, (ofTime policy).run 6 "step" step 0 = (.ok (.ok ()), final) := by
  intro step policy
  have free : (ofTime policy).Moves step (· = ·) := by
    refine ⟨fun now => ?_, by simp [ofTime]⟩
    by_cases before : now < 9 <;> simp [step, before]
  have timed : (ofTime policy).KeepsTime step :=
    { steps := fun now => (free.steps now).le
      recoveries := by simp [ofTime]
      sleeps := fun _ _ => rfl
      attempts := fun _ _ => rfl
      notes := fun _ => rfl }
  have ending : (ofTime policy).ComesToEnd step := by
    refine ⟨fun now last => ?_, by simp [ofTime]⟩
    by_cases before : now < 9 <;> simp [step, before]
  have span : policy.span = 9 := by
    norm_num [policy, RetryPolicy.span, Quantity.seconds]
  have limit : policy.limit = 6 := by
    have spacing : policy.spacing = 2 := by
      norm_num [policy, RetryPolicy.spacing, Quantity.seconds]
    have fit : ⌈(9 / 2 : Rat)⌉₊ = 5 := by
      rw [Nat.ceil_eq_iff (by decide)]
      norm_num
    rw [RetryPolicy.limit, span, spacing, max_eq_left (by norm_num), fit]
  obtain ⟨earlier, last, final, result, ends, ran, spends⟩ :=
    run_spends_time timed ending "step" 0
  obtain ⟨value, passed⟩ := spends.passing free 9 (by rw [← span]; simp [ofTime])
    (by
      intro now late
      exact ⟨(), congrArg Prod.fst (if_neg (not_lt.mpr late))⟩)
    (by
      intro now failure before failed
      simp only [step] at failed
      split at failed <;> simp at failed
      subst failed
      decide)
  exact ⟨limit, final, by rw [ran 6 limit.le, passed]⟩

end Retrier

end Rehearsal
