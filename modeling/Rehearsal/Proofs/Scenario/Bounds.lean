import Rehearsal.Interpreter
import Rehearsal.Proofs.Number.Doubles
import Rehearsal.Proofs.Record.RoundTrip
import Rehearsal.Proofs.Settings.NormalForm
import Rehearsal.Proofs.Time.Endings
import Rehearsal.Proofs.World.CallLog

/-!
What keeps the loops of a run bounded. Records that were accepted allow a positive time, but it may
be infinite, and settings may have any number for the pauses, the attempts and the time by default.
-/

set_option autoImplicit false

namespace Rehearsal

/-! ## Times of accepted records -/

namespace Extent

variable {value : Float} {interval : Extent}

theorem toRat?_positive {mantissa : Nat} {exponent : Int} (above : 0 < mantissa)
    (parts : Number.Binary.ofFloat value = .finite false mantissa exponent) :
    ∃ seconds, Number.toRat? value = some seconds ∧ 0 < seconds := by
  have numer : 0 < (Number.Fraction.scaled mantissa exponent).numer := by
    unfold Number.Fraction.scaled
    split
    · exact above
    · exact Nat.mul_pos above (Nat.pow_pos (by decide))
  have denom : 0 < (Number.Fraction.scaled mantissa exponent).denom := by
    unfold Number.Fraction.scaled
    split
    · exact Nat.pow_pos (by decide)
    · exact Nat.one_pos
  refine ⟨_, by rw [Number.toRat?, parts], ?_⟩
  simp only [Bool.false_eq_true, if_false]
  rw [Rat.mkRat_eq_div]
  positivity

theorem isPositive_ofFloat (above : 0.0 < value) : (ofFloat value).IsPositive := by
  rcases Number.ofFloat_of_positive above with infinite | ⟨mantissa, exponent, some, parts⟩
  · rw [ofFloat, infinite]
    rfl
  · obtain ⟨seconds, exactly, positive⟩ := toRat?_positive some parts
    rw [ofFloat, parts, exactly]
    exact positive

theorem bounds_iff_of_positive {timeout : Extent} (positive : timeout.IsPositive) :
    Bounds timeout interval ↔ timeout ≠ infinite false ∧ interval.IsPositive := by
  cases timeout with
  | finite seconds => exact ⟨fun bounds => ⟨nofun, bounds positive⟩, fun both _ => both.2⟩
  | infinite negative =>
    obtain rfl : negative = false := positive
    simp [Bounds]
  | nan => exact positive.elim

end Extent

namespace Header

/-- The time of the record itself: its wait's, or its own. -/
def own? (header : Header) : Option Float := (header.wait.bind Wait.timeout).or header.timeout

/-- A registry has accepted a record with this header. -/
def Accepted (header : Header) : Prop :=
  (∃ record action, operations.parse record = .ok action ∧ action.header = header) ∨
    ∃ record assertion, assertions.parse record = .ok assertion ∧ assertion.header = header

variable {header : Header} {table : Table Datum} {seconds : Float}

theorem positive_of_optional {keys : List String} {timeout : Option Float}
    (read : (Form.defaulted keys none (Form.optional Form.positive)).read table = .ok timeout)
    (held : timeout = some seconds) : 0.0 < seconds := by
  obtain ⟨_, _, passed⟩ := Form.read_optional read seconds (by simp [held])
  exact Form.positive_bound passed

theorem positive_of_wait {key : String} {given : Datum} {wait : Wait}
    (read : Wait.reader key given = .ok wait) (held : wait.timeout = some seconds) :
    0.0 < seconds := by
  obtain ⟨fields, form, -, -, ran⟩ := Wait.reader_eq_ok.mp read
  have parts := Form.read_of_run ran
  simp only [Wait.form, Form.read_seq, Form.read_map] at parts
  obtain ⟨_, _, ⟨_, _, ⟨timeout, timed, rfl⟩, -, rfl⟩, -, rfl⟩ := parts
  exact positive_of_optional timed held

theorem positive_of_read (read : form.read table = .ok header)
    (held : header.own? = some seconds) : 0.0 < seconds := by
  simp only [form, Form.read_seq, Form.read_map] at read
  obtain ⟨_, timeout, ⟨_, wait, ⟨_, _, ⟨_, _, ⟨_, -, rfl⟩, -, rfl⟩, -, rfl⟩, waits, rfl⟩, timed,
    rfl⟩ := read
  rcases Option.or_eq_some_iff.mp held with waited | ⟨-, alone⟩
  · obtain ⟨wait, some, waited⟩ := Option.bind_eq_some_iff.mp waited
    obtain ⟨_, _, passed⟩ := Form.read_optional waits wait some
    exact positive_of_wait passed waited
  · exact positive_of_optional timed alone

theorem action_form {variant : Variant Action} (member : variant ∈ Action.variants) :
    ∃ value operation, variant.form = Action.form value operation := by
  simp only [Action.variants, List.mem_cons, List.not_mem_nil, or_false] at member
  rcases member with rfl | rfl | rfl | rfl | rfl | rfl | rfl | rfl | rfl | rfl | rfl | rfl | rfl |
    rfl | rfl <;> exact ⟨_, _, rfl⟩

theorem assertion_form {variant : Variant Assertion} (member : variant ∈ Assertion.variants) :
    ∃ aspect, variant.form = Assertion.form aspect := by
  simp only [Assertion.variants, List.mem_cons, List.not_mem_nil, or_false] at member
  rcases member with rfl | rfl | rfl | rfl | rfl | rfl <;> exact ⟨_, rfl⟩

theorem Accepted.exists_read (accepted : header.Accepted) :
    ∃ table, form.read table = .ok header := by
  rcases accepted with ⟨record, action, parsed, rfl⟩ | ⟨record, assertion, parsed, rfl⟩
  · obtain ⟨variant, member, table, read⟩ := Registry.read_of_parse parsed
    obtain ⟨value, operation, formed⟩ := action_form member
    rw [formed, Action.form] at read
    simp only [Form.read_seq, Form.read_map] at read
    obtain ⟨_, _, ⟨_, _, ⟨_, _, ⟨header, headed, rfl⟩, -, rfl⟩, -, rfl⟩, -, rfl⟩ := read
    exact ⟨table, headed⟩
  · obtain ⟨variant, member, table, read⟩ := Registry.read_of_parse parsed
    obtain ⟨aspect, formed⟩ := assertion_form member
    rw [formed, Assertion.form] at read
    simp only [Form.read_seq, Form.read_map] at read
    obtain ⟨_, _, ⟨_, _, ⟨_, _, ⟨_, _, ⟨header, headed, rfl⟩, -, rfl⟩, -, rfl⟩, -, rfl⟩, -, rfl⟩ :=
      read
    exact ⟨table, headed⟩

theorem Accepted.positive (accepted : header.Accepted) (held : header.own? = some seconds) :
    0.0 < seconds := by
  obtain ⟨table, read⟩ := accepted.exists_read
  exact positive_of_read read held

end Header

/-! ## Endings -/

section

variable {T : Type} [Scale T]

/-- The time itself as a state, which is moved by what is slept. -/
def Clock.bare : Clock T T :=
  { now := id, sleep := fun span now => Scale.add now (Scale.later span Scale.zero) }

theorem Clock.bare_forward : (Clock.bare (T := T)).Forward := fun _ _ => rfl

theorem Polling.vain_nothing {A : Type} : Vain (Clock.bare (T := T)) (pure (none : Option A)) :=
  fun _ => ⟨.nothing, _, .nothing rfl, rfl, rfl⟩

namespace Retrier

def bare (policy : RetryPolicy T) : Retrier T T :=
  { clock := .bare, policy, reopen := none, noteAttempts := fun _ now => now
    noteReinitialization := id }

def neverSeen : Failure := .timedOut .waitTimeout "1" "page" none

def waiting : Activity T Unit := Activity.fail neverSeen

theorem classify_neverSeen : neverSeen.classify = .failure := by decide +kernel

theorem failing_waiting (policy : RetryPolicy T) : (bare policy).Failing waiting :=
  fun _ now => ⟨.failed neverSeen, now, .failed rfl classify_neverSeen, nofun, rfl⟩

theorem retried_waiting (policy : RetryPolicy T) : (bare policy).Retried waiting := by
  intro number now failure last tried
  cases tried with
  | refused ran kind =>
    cases ran
    rw [classify_neverSeen] at kind
    cases kind

end Retrier

end

namespace Polling

variable {polling : Polling Extent}

/-- Whatever is awaited in vain is given up with a timeout. -/
def GivesUp (polling : Polling Extent) : Prop :=
  ∀ (S A : Type) (clock : Clock S Extent) (probe : Activity S (Option A)) (start : S) (begun : Rat),
    clock.Forward → Vain clock probe → clock.now start = .finite begun →
      ∃ limit, ∀ fuel, limit ≤ fuel → polling.TimesOut (polling.run clock fuel probe start)

def GoesOn (polling : Polling Extent) : Prop :=
  ∀ (S A : Type) (clock : Clock S Extent) (probe : Activity S (Option A)) (start : S) (begun : Rat),
    clock.Forward → Vain clock probe → clock.now start = .finite begun →
      ∀ fuel, (polling.run clock fuel probe start).1 = .stalled

theorem not_givesUp_of_goesOn (goesOn : polling.GoesOn) : ¬ polling.GivesUp := by
  intro givesUp
  have forward := Clock.bare_forward (T := Extent)
  obtain ⟨limit, ends⟩ := givesUp _ Unit _ _ (.finite 0) 0 forward vain_nothing rfl
  obtain ⟨cause, ended⟩ := ends limit le_rfl
  rw [goesOn _ Unit _ _ (.finite 0) 0 forward vain_nothing rfl limit] at ended
  cases ended

end Polling

namespace RetryPolicy

variable {policy : RetryPolicy Extent}

/-- Whatever fails again and again fails for good at some time. -/
def GivesUp (policy : RetryPolicy Extent) : Prop :=
  ∀ (S A : Type) (retrier : Retrier S Extent) (step : Activity S A) (start : S) (begun : Rat),
    retrier.policy = policy → retrier.clock.Forward → retrier.Failing step →
      retrier.clock.now start = .finite begun → ∀ description,
        ∃ limit, ∀ fuel, limit ≤ fuel → Retrier.Fails (retrier.run fuel description step start)

def GoesOn (policy : RetryPolicy Extent) : Prop :=
  ∀ (S A : Type) (retrier : Retrier S Extent) (step : Activity S A) (start : S) (begun : Rat),
    retrier.policy = policy → retrier.clock.Forward → retrier.Failing step →
      retrier.Retried step → retrier.clock.now start = .finite begun → ∀ description fuel,
        (retrier.run fuel description step start).1 = .stalled

/-- Nothing is tried at all. -/
def BreaksOff (policy : RetryPolicy Extent) : Prop :=
  ∀ (S A : Type) (retrier : Retrier S Extent) (step : Activity S A) (start : S),
    retrier.policy = policy → ∀ description fuel,
      retrier.run fuel description step start = (.failed Retrier.beyondScale, start)

theorem GivesUp.exists_fails (givesUp : policy.GivesUp) :
    ∃ fuel, Retrier.Fails ((Retrier.bare policy).run fuel "wait" Retrier.waiting (.finite 0)) := by
  have failing := Retrier.failing_waiting policy
  obtain ⟨limit, ends⟩ := givesUp _ _ _ _ (.finite 0) 0 rfl Clock.bare_forward failing rfl "wait"
  exact ⟨limit, ends limit le_rfl⟩

theorem not_givesUp_of_goesOn (goesOn : policy.GoesOn) : ¬ policy.GivesUp := by
  intro givesUp
  obtain ⟨fuel, failure, ended⟩ := givesUp.exists_fails
  rw [goesOn _ _ _ _ (.finite 0) 0 rfl Clock.bare_forward (Retrier.failing_waiting policy)
    (Retrier.retried_waiting policy) rfl] at ended
  cases ended

theorem not_givesUp_of_breaksOff (breaksOff : policy.BreaksOff) : ¬ policy.GivesUp := by
  intro givesUp
  obtain ⟨fuel, failure, ended⟩ := givesUp.exists_fails
  rw [breaksOff _ _ _ _ _ rfl] at ended
  cases ended

end RetryPolicy

namespace Settings

/-- The settings let no record with this header poll without an end. -/
def BoundsPolling (settings : Settings) (header : Header) : Prop :=
  (Extent.ofFloat (header.effectiveTimeout settings.defaultTimeout)).Bounds
    (Extent.ofFloat settings.pollInterval)

def BoundsRetrying (settings : Settings) : Prop :=
  (Extent.ofFloat settings.retryDelay).Affords settings.retryAttempts

end Settings

namespace Scenario

variable {W : Type} {scenario : Scenario W Extent} {header : Header} {kind : FailureKind}
  {awaited : String} {own : Float}

theorem polling_gives_up (bounds : scenario.settings.BoundsPolling header) :
    (scenario.polling kind (scenario.effectiveTimeout header) awaited).GivesUp :=
  fun _ _ _ _ _ _ forward vain here => Polling.run_bounded forward vain here bounds

theorem polling_goes_on (unbounded : ¬ scenario.settings.BoundsPolling header) :
    (scenario.polling kind (scenario.effectiveTimeout header) awaited).GoesOn :=
  fun _ _ _ _ _ _ forward vain here => Polling.run_endless forward vain here unbounded

theorem boundsPolling_iff {settings : Settings} (accepted : header.Accepted)
    (held : header.own? = some own) :
    settings.BoundsPolling header ↔ Extent.ofFloat own ≠ .infinite false ∧
      (Extent.ofFloat settings.pollInterval).IsPositive := by
  have positive := Extent.isPositive_ofFloat (accepted.positive held)
  have effective : header.effectiveTimeout settings.defaultTimeout = own := by
    rw [Header.effectiveTimeout, ← Header.own?, held, Option.getD_some]
  rw [Settings.BoundsPolling, effective]
  exact Extent.bounds_iff_of_positive positive

section

variable (fits : (Number.ofInt? scenario.settings.retryAttempts).isSome)

include fits

theorem retrying_gives_up (bounds : scenario.settings.BoundsRetrying) :
    scenario.retrier.policy.GivesUp :=
  fun _ _ _ _ _ _ policy forward failing here _ =>
    Retrier.run_bounded policy forward failing here fits bounds

theorem retrying_goes_on (unbounded : ¬ scenario.settings.BoundsRetrying) :
    scenario.retrier.policy.GoesOn :=
  fun _ _ _ _ _ _ policy forward failing retried here _ =>
    Retrier.run_endless policy forward failing here fits retried unbounded

end

theorem retrying_breaks_off (unheld : Number.ofInt? scenario.settings.retryAttempts = none) :
    scenario.retrier.policy.BreaksOff := by
  intro S A retrier step start policy description fuel
  refine Retrier.run_unheld ?_ policy
  change (Number.ofInt? scenario.settings.retryAttempts).map _ = none
  rw [unheld, Option.map_none]

theorem polling_givesUp_iff :
    (scenario.polling kind (scenario.effectiveTimeout header) awaited).GivesUp ↔
      scenario.settings.BoundsPolling header := by
  refine ⟨fun givesUp => ?_, polling_gives_up⟩
  -- What goes on without an end does so on the bare clock too, and there nothing gives up.
  by_contra unbounded
  exact Polling.not_givesUp_of_goesOn (polling_goes_on unbounded) givesUp

theorem retrying_givesUp_iff :
    scenario.retrier.policy.GivesUp ↔
      (Number.ofInt? scenario.settings.retryAttempts).isSome ∧
        scenario.settings.BoundsRetrying := by
  refine ⟨fun givesUp => ?_, fun ⟨fits, bounds⟩ => retrying_gives_up fits bounds⟩
  cases held : Number.ofInt? scenario.settings.retryAttempts with
  | none => exact absurd givesUp (RetryPolicy.not_givesUp_of_breaksOff (retrying_breaks_off held))
  | some image =>
    refine ⟨rfl, ?_⟩
    by_contra unbounded
    have goesOn := retrying_goes_on (Option.isSome_of_mem held) unbounded
    exact RetryPolicy.not_givesUp_of_goesOn goesOn givesUp

/-- Polling by an accepted record and retrying end exactly where the settings bound them, and there
alone. A time of the record's own does, if it is not infinite and the settings have a pause. -/
theorem accepted_loops_end_iff (accepted : header.Accepted) (scenario : Scenario W Extent)
    (kind : FailureKind) (awaited : String) :
    let settings := scenario.settings
    let polling := scenario.polling kind (scenario.effectiveTimeout header) awaited
    let policy := scenario.retrier.policy
    (polling.GivesUp ↔ settings.BoundsPolling header) ∧
      (¬ settings.BoundsPolling header → polling.GoesOn) ∧
      (∀ own, header.own? = some own → (settings.BoundsPolling header ↔
        Extent.ofFloat own ≠ .infinite false ∧
          (Extent.ofFloat settings.pollInterval).IsPositive)) ∧
      (policy.GivesUp ↔
        (Number.ofInt? settings.retryAttempts).isSome ∧ settings.BoundsRetrying) ∧
      (Number.ofInt? settings.retryAttempts = none → policy.BreaksOff) ∧
      ((Number.ofInt? settings.retryAttempts).isSome → ¬ settings.BoundsRetrying →
        policy.GoesOn) := by
  intro settings polling policy
  refine ⟨polling_givesUp_iff, polling_goes_on, ?_, retrying_givesUp_iff, retrying_breaks_off,
    retrying_goes_on⟩
  intro own held
  exact boundsPolling_iff accepted held

def timedClick : Table Datum :=
  [("operation", .text "click"), ("index", .int 1), ("page", .text "login"),
   ("element", .text "user"), ("timeout", .int 5)]

/-- Only the settings of it are of interest. -/
def idleWith {T : Type} [Scale T] (settings : Settings) : Scenario Unit T :=
  .standard (World.still World.willing) { pages := [], tests := [], params := [] } settings "run" 1

theorem timed_click_ends_by_default :
    ∃ action settings, operations.parse timedClick = .ok action ∧
      Settings.ofFields [] = .ok settings ∧
      let scenario : Scenario Unit Extent := idleWith settings
      let timeout := scenario.effectiveTimeout action.header
      (scenario.polling .waitTimeout timeout "user").GivesUp ∧ scenario.retrier.policy.GivesUp := by
  refine ⟨_, _, rfl, rfl, ?_⟩
  intro scenario timeout
  have accepted : Header.Accepted _ := .inl ⟨timedClick, _, rfl, rfl⟩
  obtain ⟨polls, -, held, retries, -⟩ :=
    accepted_loops_end_iff accepted scenario .waitTimeout "user"
  constructor
  · apply polls.mpr
    apply (held 5.0 rfl).mpr
    exact ⟨by decide +kernel, Extent.isPositive_ofFloat (by decide +kernel)⟩
  · apply retries.mpr
    refine ⟨by decide +kernel, ?_⟩
    have delay : Extent.ofFloat 2.0 = .finite 2 := by decide +kernel
    change (Extent.ofFloat 2.0).Affords 3
    rw [delay]
    trivial

def pauseless : Table Datum :=
  [("poll_interval", .real 0.0), ("retry_attempts", .int (-Nat.pow 10 400)),
   ("retry_delay_seconds", .real 2.0)]

/-- Without a pause the time does not move on, and beyond all doubles nothing is attempted. -/
theorem loops_go_on_without_pause :
    ∃ action settings, operations.parse timedClick = .ok action ∧
      Settings.ofFields pauseless = .ok settings ∧
      let scenario : Scenario Unit Float := idleWith settings
      let timeout := scenario.effectiveTimeout action.header
      let polling := scenario.polling .waitTimeout timeout "user"
      let retrier := Retrier.bare scenario.retrier.policy
      (∀ fuel, (polling.run .bare fuel (pure (none : Option Unit)) 0.0).1 = .stalled) ∧
      ∀ fuel, retrier.run fuel "wait" Retrier.waiting 0.0 = (.failed Retrier.beyondScale, 0.0) := by
  refine ⟨_, _, rfl, rfl, ?_⟩
  intro scenario timeout polling retrier
  constructor
  · intro fuel
    apply Polling.rounds_stall Clock.bare_forward Polling.vain_nothing
    -- A pause of no length leaves the clock where it began.
    refine Scale.not_expires (fun now => now = 0.0) rfl ?_ ?_
    · rintro now rfl
      decide +kernel
    · rintro now rfl
      decide +kernel
  · intro fuel
    have unheld : Number.ofInt? (-Nat.pow 10 400) = none := by decide +kernel
    exact Retrier.run_unheld unheld rfl

end Scenario

end Rehearsal
