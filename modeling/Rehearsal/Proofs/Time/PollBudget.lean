import Rehearsal.Proofs.Time.PollHistory
import Rehearsal.Proofs.Time.PollReading

/-!
How long something is polled for, in exact seconds. Each pause takes a full interval or all the time
that is left, so the last look comes at the deadline itself, unless the one before it was long.
-/

set_option autoImplicit false

namespace Rehearsal.Polling

variable {S A : Type}

/-- The most looks that fit the time: one for each interval, and one at the deadline. -/
def limit (polling : Polling Rat) : Nat := ⌈max polling.timeout 0 / polling.interval⌉₊ + 1

def expires (polling : Polling Rat) (clock : Clock S Rat) (start : S) : Rat :=
  clock.now start + polling.timeout

/-- Looks that take no time. -/
def Free (clock : Clock S Rat) (probe : Activity S (Option A)) : Prop :=
  ∀ state, clock.now (probe state).2 = clock.now state

/-- There is something to be found at this time and ever after. -/
def PassesFrom (clock : Clock S Rat) (probe : Activity S (Option A)) (time : Rat) : Prop :=
  ∀ state, time ≤ clock.now state → ∃ value, (probe state).1 = .ok (some value)

variable {polling : Polling Rat} {clock : Clock S Rat} {probe : Activity S (Option A)}
  {deadline time : Rat} {start after final : S} {finding : Sight A} {earlier : List (Look S A)}
  {last : Look S A}

/-! ## One look -/

theorem isOver_exact {state : S} :
    isOver clock deadline state = true ↔ deadline ≤ clock.now state := by
  simp [isOver, Scale.le, Scale.sub, Scale.zero]

theorem not_isOver_exact {state : S} :
    isOver clock deadline state = false ↔ clock.now state < deadline := by
  rw [← Bool.not_eq_true, isOver_exact, not_le]

theorem PassesFrom.finds (passing : PassesFrom clock probe time) (late : time ≤ clock.now start)
    (found : Finds probe start finding final) : ∃ value, finding = .found value := by
  obtain ⟨value, passed⟩ := passing start late
  cases found with
  | found ran => exact ⟨_, rfl⟩
  | nothing ran => simp [ran] at passed
  | erred ran => simp [ran] at passed
  | lost ran => simp [ran] at passed

theorem PassesFrom.before_of_vain (passing : PassesFrom clock probe time)
    (found : Finds probe start finding final) (vain : finding.isVain = true) :
    clock.now start < time := by
  by_contra late
  obtain ⟨value, rfl⟩ := passing.finds (not_lt.mp late) found
  simp [Sight.isVain] at vain

theorem Free.now_finds (free : Free clock probe) (found : Finds probe start finding final) :
    clock.now final = clock.now start :=
  found.after ▸ free start

theorem keepsTime_probing {test : Activity S Bool}
    (sleeps : ∀ span state, clock.now (clock.sleep span state) = clock.now state + span)
    (tests : ∀ state, (test state).1 ≠ .stalled ∧ clock.now state ≤ clock.now (test state).2) :
    KeepsTime clock (probing test) where
  sleeps := sleeps
  probes := by
    intro state
    obtain ⟨stalls, same⟩ := probing_after test state
    exact ⟨fun stalled => (tests state).1 (stalls.mp stalled), by rw [same]; exact (tests state).2⟩

section

variable (timed : KeepsTime clock probe)

include timed

theorem KeepsTime.now_finds (found : Finds probe start finding final) :
    clock.now start ≤ clock.now final :=
  found.after ▸ (timed.probes start).2

theorem KeepsTime.now_pauses (state : S) :
    clock.now (polling.pauses clock deadline state) =
      min (clock.now state + polling.interval) deadline := by
  rw [pauses, timed.sleeps, Scale.earlier_exact, ← min_add_add_left]
  congr 1
  exact add_sub_cancel _ _

/-! ## Looks before the last -/

theorem KeepsTime.punctual (looks : polling.Looks clock probe deadline start earlier final)
    (early : clock.now start ≤ deadline) :
    (∀ look ∈ earlier, clock.now look.began ≤ deadline) ∧ clock.now final ≤ deadline := by
  induction looks with
  | none => exact ⟨by simp, early⟩
  | @again start after last finding looks found vain timely rest ih =>
    have next := ih (by rw [timed.now_pauses]; exact min_le_right _ _)
    exact ⟨List.forall_mem_cons.mpr ⟨early, next.1⟩, next.2⟩

/-- All pauses but the last take their full interval, and the last begins before the deadline. -/
theorem KeepsTime.spaced (looks : polling.Looks clock probe deadline start earlier final)
    (some : earlier ≠ []) :
    ((earlier.length : Rat) - 1) * polling.interval < deadline - clock.now start := by
  induction looks with
  | none => exact absurd rfl some
  | @again start after last finding looks found vain timely rest ih =>
    have forward := timed.now_finds found
    have before := not_isOver_exact.mp timely
    cases rest with
    | none =>
      simp only [List.length_singleton, Nat.cast_one, sub_self, zero_mul, sub_pos]
      exact forward.trans_lt before
    | again found' vain' timely' rest' =>
      -- The look after this pause was in time, so the pause was not cut at the deadline.
      have left := ih (by simp)
      have full : clock.now (polling.pauses clock deadline after) =
          clock.now after + polling.interval := by
        have sooner := (timed.now_finds found').trans_lt (not_isOver_exact.mp timely')
        rw [timed.now_pauses] at sooner ⊢
        exact min_eq_left (not_lt.mp fun late => by simp [min_eq_right late.le] at sooner)
      rw [full] at left
      simp only [List.length_cons, Nat.cast_add, Nat.cast_one] at left ⊢
      linarith

theorem KeepsTime.few (spaced : 0 < polling.timeout → 0 < polling.interval)
    (looks : polling.Looks clock probe (polling.expires clock start) start earlier final) :
    earlier.length < polling.limit := by
  cases looks with
  | none => exact Nat.succ_pos _
  | @again _ after _ finding rest found vain timely others =>
    -- There is time for a look in vain, so the interval is one that counts.
    have room : 0 < polling.timeout := by
      have forward := timed.now_finds found
      have before := not_isOver_exact.mp timely
      rw [expires] at before
      linarith
    have left := timed.spaced (.again found vain timely others) (List.cons_ne_nil _ _)
    simp only [List.length_cons, Nat.cast_add, Nat.cast_one, add_sub_cancel_right, expires,
      add_sub_cancel_left] at left
    refine Nat.succ_lt_succ (Nat.lt_ceil.mpr ?_)
    rw [lt_div_iff₀ (spaced room)]
    exact left.trans_le (le_max_left _ _)

/-- Where looks take no time and there is something to be found from some time on, the next look
comes an interval after that time at the latest, as none before it was in vain. -/
theorem KeepsTime.soon (free : Free clock probe) (passing : PassesFrom clock probe time)
    (looks : polling.Looks clock probe deadline start earlier final) :
    clock.now final ≤ max (clock.now start) (time + polling.interval) := by
  induction looks with
  | none => exact le_max_left _ _
  | @again start after last finding looks found vain timely rest ih =>
    have unmoved := free.now_finds found
    have before := passing.before_of_vain found vain
    have paused : clock.now (polling.pauses clock deadline after) ≤ time + polling.interval := by
      rw [timed.now_pauses]
      exact (min_le_left _ _).trans (by linarith)
    exact (ih.trans (max_le paused le_rfl)).trans (le_max_right _ _)

/-! ## Histories -/

/-- Only the first look may begin after the deadline, where there is no time at all. -/
theorem KeepsTime.later_punctual
    (concludes : polling.Concludes clock probe deadline start earlier last final) :
    ∀ look ∈ (earlier ++ [last]).tail, clock.now look.began ≤ deadline := by
  obtain ⟨began, finding⟩ := last
  cases concludes.looks with
  | none => simp
  | @again _ after _ finding looks found vain timely rest =>
    have before := timed.punctual rest (by rw [timed.now_pauses]; exact min_le_right _ _)
    exact List.forall_mem_append.mpr ⟨before.1, List.forall_mem_singleton.mpr before.2⟩

theorem KeepsTime.last_punctual
    (concludes : polling.Concludes clock probe deadline start earlier last final) :
    clock.now last.began ≤ max deadline (clock.now start) := by
  cases earlier with
  | nil =>
    cases concludes.looks
    exact le_max_right _ _
  | cons first rest =>
    exact le_max_of_le_left (timed.later_punctual concludes last (by simp))

/-- A look in vain that takes no time is the last if it comes at the deadline. -/
theorem KeepsTime.expires_exactly (room : 0 < polling.timeout)
    (concludes : polling.Concludes clock probe (polling.expires clock start) start earlier last
      final)
    (vain : last.finding.isVain = true) (unmoved : clock.now final = clock.now last.began) :
    clock.now final = polling.expires clock start := by
  have late : clock.now start ≤ polling.expires clock start := le_add_of_nonneg_right room.le
  have punctual := timed.last_punctual concludes
  have overdue := isOver_exact.mp (concludes.overdue vain)
  rw [max_eq_left late] at punctual
  exact le_antisymm (unmoved.trans_le punctual) overdue

theorem KeepsTime.passes (free : Free clock probe) (timely : time ≤ deadline)
    (passing : PassesFrom clock probe time) (spaced : 0 < polling.interval)
    (concludes : polling.Concludes clock probe deadline start earlier last final) :
    (∃ value, last.finding = .found value ∧
        clock.now final ≤ min (max time (clock.now start) + polling.interval)
          (max deadline (clock.now start))) ∨
      ∃ failure, last.finding = .lost failure ∧ clock.now last.began < time := by
  have unmoved := free.now_finds concludes.finds
  have soon := timed.soon free passing concludes.looks
  have punctual := timed.last_punctual concludes
  cases ended : last.finding with
  | found value =>
    refine .inl ⟨value, rfl, ?_⟩
    rw [unmoved, max_add]
    refine le_min (soon.trans (max_le (le_max_of_le_right ?_) (le_max_left _ _))) punctual
    linarith
  | lost failure =>
    refine .inr ⟨failure, rfl, lt_of_not_ge fun late => ?_⟩
    obtain ⟨value, found⟩ := passing.finds late concludes.finds
    cases ended.symm.trans found
  | nothing | erred failure =>
    -- A look in vain at the deadline is one at a time when there is something to be found.
    have vain : last.finding.isVain = true := by rw [ended, Sight.isVain]
    have before := passing.before_of_vain concludes.finds vain
    have overdue := isOver_exact.mp (concludes.overdue vain)
    linarith

end

/-! ## Runs -/

/-- What a polling that came to its end has to do with its history. -/
structure Answers (polling : Polling Rat) (clock : Clock S Rat) (probe : Activity S (Option A))
    (start : S) (earlier : List (Look S A)) (last : Look S A) (final : S) (outcome : Outcome A) :
    Prop where
  few : earlier.length + 1 ≤ polling.limit
  punctual : ∀ look ∈ (earlier ++ [last]).tail, clock.now look.began ≤ polling.expires clock start
  found : ∀ value, last.finding = .found value → outcome = .ok value
  -- A failure that says so itself is raised as it is.
  lost : ∀ failure, last.finding = .lost failure → ∃ raised, outcome = .failed raised ∧
    raised.kind? = some .sessionUnreachable ∧ raised.message = failure.message ∧
      (raised = failure ∨ raised.cause? = some failure)
  expired : last.finding.isVain = true → polling.expires clock start ≤ clock.now final ∧
    ∃ raised, outcome = .failed raised ∧ raised.kind? = some polling.kind ∧
      raised.message =
        s!"Timed out after {Scale.text polling.timeout}s waiting for {polling.awaited}" ∧
      raised.cause? = Sight.latestError ((earlier ++ [last]).map Look.finding)
  -- What can be found at the deadline is not missed, unless the session is lost before.
  passing : Free clock probe → ∀ time ≤ polling.expires clock start, PassesFrom clock probe time →
    (∃ value, outcome = .ok value ∧
        clock.now final ≤ min (max time (clock.now start) + polling.interval)
          (max (polling.expires clock start) (clock.now start))) ∨
      ∃ failure, last.finding = .lost failure ∧ clock.now last.began < time

theorem asUnreachable_cases (failure : Failure) :
    (asUnreachable failure).message = failure.message ∧
      (asUnreachable failure = failure ∨ (asUnreachable failure).cause? = some failure) := by
  unfold asUnreachable
  split
  next => exact ⟨rfl, .inl rfl⟩
  next => exact ⟨rfl, .inr rfl⟩

theorem KeepsTime.answers (timed : KeepsTime clock probe) (spaced : 0 < polling.interval)
    (concludes : polling.Concludes clock probe (polling.expires clock start) start earlier last
      final) :
    polling.Answers clock probe start earlier last final
      (polling.verdict (Sight.latestError ((earlier ++ [last]).map Look.finding))
        last.finding) where
  few := timed.few (fun _ => spaced) concludes.looks
  punctual := timed.later_punctual concludes
  found := by
    intro value found
    rw [found, verdict]
  lost := by
    intro failure lost
    obtain ⟨same, origin⟩ := asUnreachable_cases failure
    exact ⟨_, by rw [lost, verdict], kind_asUnreachable failure, same, origin⟩
  expired := by
    intro vain
    refine ⟨isOver_exact.mp (concludes.overdue vain), polling.timeoutFailure _, ?_, rfl, rfl, rfl⟩
    cases ended : last.finding with
    | nothing | erred failure => rfl
    | found value | lost failure => simp [ended, Sight.isVain] at vain
  passing := by
    intro free time timely passing
    rcases timed.passes free timely passing spaced concludes with ⟨value, found, soon⟩ | lost
    · exact .inl ⟨value, by rw [found, verdict], soon⟩
    · exact .inr lost

theorem run_concludes (timed : KeepsTime clock probe)
    (spaced : 0 < polling.timeout → 0 < polling.interval) (start : S) :
    ∃ earlier last final,
      polling.Concludes clock probe (polling.expires clock start) start earlier last final ∧
      ∀ fuel, polling.limit ≤ fuel → polling.run clock fuel probe start =
        (polling.verdict (Sight.latestError ((earlier ++ [last]).map Look.finding)) last.finding,
          final) := by
  rcases polling.exists_history clock probe (polling.expires clock start) polling.limit start with
    ⟨earlier, last, final, concludes, within⟩ | ⟨earlier, final, breaks⟩
  · exact ⟨earlier, last, final, concludes,
      fun fuel enough => rounds_of_concludes concludes (within.trans_le enough)⟩
  · -- The fuel outlasts the looks that fit the time, and no look hangs.
    cases breaks with
    | spent looks spent => exact absurd spent (timed.few spaced looks).ne
    | hung looks within hung => exact absurd (congrArg Prod.fst hung) (timed.probes _).1

theorem run_not_stalled (timed : KeepsTime clock probe)
    (spaced : 0 < polling.timeout → 0 < polling.interval) {fuel : Nat}
    (enough : polling.limit ≤ fuel) (start : S) :
    (polling.run clock fuel probe start).1 ≠ .stalled := by
  obtain ⟨earlier, last, final, -, ran⟩ := run_concludes timed spaced start
  rw [ran fuel enough]
  cases last.finding <;> exact nofun

/-- Where each look comes to an end, the polling does: with the first look that finds something or
the loss of the session, or else with the first that leaves no time. -/
theorem run_polls_in_time (timed : KeepsTime clock probe) (spaced : 0 < polling.interval)
    (start : S) :
    ∃ earlier last final outcome,
      polling.Concludes clock probe (polling.expires clock start) start earlier last final ∧
      (∀ fuel, polling.limit ≤ fuel → polling.run clock fuel probe start = (outcome, final)) ∧
      polling.Answers clock probe start earlier last final outcome := by
  obtain ⟨earlier, last, final, concludes, ran⟩ := run_concludes timed (fun _ => spaced) start
  exact ⟨earlier, last, final, _, concludes, ran, timed.answers spaced concludes⟩

def seconds : Clock Rat Rat := { now := id, sleep := fun span now => now + span }

/-- Looks at zero and at two thirds of a second meet an error, and the third comes at the deadline
after one second, when there is something to be found. -/
theorem run_finds_at_deadline :
    let probe : Activity Rat (Option Unit) := fun now =>
      if now < 1 then (.failed (.fault ⟨.browser, "not yet"⟩), now) else (.ok (some ()), now)
    let polling : Polling Rat :=
      { timeout := 1, interval := 2 / 3, awaited := "it", kind := .waitTimeout }
    ∃ final, polling.run seconds 3 probe 0 = (.ok (), final) ∧ final ≤ 1 := by
  intro probe polling
  have free : Free seconds probe := by
    intro now
    by_cases before : now < 1 <;> simp [probe, before]
  have timed : KeepsTime seconds probe := by
    refine ⟨fun _ _ => rfl, fun now => ⟨?_, (free now).ge⟩⟩
    by_cases before : now < 1 <;> simp [probe, before]
  have expires : polling.expires seconds 0 = 1 := by norm_num [polling, Polling.expires, seconds]
  have limit : polling.limit = 3 := by
    have fit : ⌈(1 / (2 / 3) : Rat)⌉₊ = 2 := by
      rw [Nat.ceil_eq_iff (by decide)]
      norm_num
    rw [Polling.limit, max_eq_left zero_le_one, fit]
  have spaced : 0 < polling.interval := by norm_num [polling]
  obtain ⟨earlier, last, final, outcome, concludes, ran, answers⟩ :=
    run_polls_in_time timed spaced 0
  have passing : PassesFrom seconds probe 1 :=
    fun now late => ⟨(), congrArg Prod.fst (if_neg (not_lt.mpr late))⟩
  refine ⟨final, ?_⟩
  rw [ran 3 limit.le]
  rcases answers.passing free 1 expires.ge passing with ⟨value, rfl, soon⟩ | ⟨failure, lost, -⟩
  · rw [expires] at soon
    exact ⟨rfl, (le_min_iff.mp soon).2.trans (by simp [seconds])⟩
  · -- The only error that the probe meets does not say that the session is lost.
    have met := lost ▸ concludes.finds
    cases met with
    | lost failed saysLost =>
      simp only [probe] at failed
      split at failed <;> simp at failed
      rw [← failed.1] at saysLost
      exact absurd saysLost (by decide)

end Rehearsal.Polling
