import Rehearsal.Interpreter
import Rehearsal.Proofs.Activity.Contract
import Rehearsal.Proofs.Scenario.Batches
import Rehearsal.Proofs.Time.PollReading
import Rehearsal.Proofs.World.CallLog

/-!
Consuming messages that come in batches. A record takes the first message that suits it; the rest
of its batch is dropped, as is all that was read on the way, since nothing keeps what was fetched.
So how many records of a script pass depends on how the messages are grouped.
-/

set_option autoImplicit false

namespace Rehearsal

open Activity
open List (SublistForall₂)

def Call.opensConsumer {T : Type} : Call T -> Bool
  | .newConsumer _ _ | .startConsumer _ | .subscribe _ _ => true
  | _ => false

def Action.Consumes (action : Action) : Prop :=
  ∃ topic key part, action.operation = .consume topic key part

/-- A consumer is held if anything was asked for. -/
def Scene.IsAttached {W : Type} (scene : Scene W) : Prop :=
  scene.broker.consumer = none → scene.broker.topics = []

theorem Scene.isAttached_of_held {W : Type} {scene : Scene W}
    (held : scene.broker.consumer.isSome = true) : scene.IsAttached := by
  intro absent
  simp [absent] at held

namespace Scenario

section

variable {W T : Type}

def seeks (scenario : Scenario W T) (row : Option Row) (action : Action) : Delivery -> Bool :=
  match action.operation with
  | .consume topic key part =>
    Delivery.isWanted (scenario.fill row topic) (scenario.fill row key) (scenario.fill? row part)
  | _ => fun _ => false

/-- The messages that a record which consumes may take. -/
def wants (scenario : Scenario W T) (row : Option Row) (action : Action) (message : Message) :
    Bool :=
  scenario.seeks row action message.read

end

variable {W : Type}

/-- The broker and its queue are as they were, and the clock was not turned back. -/
structure Undisturbed (scenario : Scenario W Rat) (queue : W -> List (List Message))
    (before after : Scene W) : Prop where
  broker : after.broker = before.broker
  queue : queue after.world = queue before.world
  onward : scenario.clock.now before ≤ scenario.clock.now after

/-- Consumers can be opened, and fetch the batches of a queue one after the other, each within
`lag`. -/
structure Feeds (scenario : Scenario W Rat) (queue : W -> List (List Message)) (lag : Rat) :
    Prop where
  enabled : scenario.settings.brokerEnabled = true
  opens : ∀ call : Call Rat, call.opensConsumer = true → ∀ world, ∃ answer after,
    scenario.world.perform call world = (.ok answer, after) ∧ queue after = queue world ∧
      scenario.world.clock.now world ≤ scenario.world.clock.now after
  fetches : ∀ consumer span world, ∃ after,
    scenario.world.perform (.fetch consumer span) world = (.ok ((queue world).headD []), after) ∧
      queue after = (queue world).tail ∧
      scenario.world.clock.now world ≤ scenario.world.clock.now after ∧
      scenario.world.clock.now after ≤ scenario.world.clock.now world + lag
  sleeps : ∀ span world, queue (scenario.world.clock.sleep span world) = queue world ∧
    scenario.world.clock.now (scenario.world.clock.sleep span world) =
      scenario.world.clock.now world + span
  reopens : ∀ scene, (scenario.reopen scene).1 ≠ .stalled ∧
    scenario.Undisturbed queue scene (scenario.reopen scene).2
  lasts : scenario.retrier.policy.limit ≤ scenario.fuel

/-- A record which consumes once its wait is met has the time for some number of batches. -/
structure Affords (scenario : Scenario W Rat) (queue : W -> List (List Message)) (lag : Rat)
    (row : Option Row) (count : Nat) (action : Action) : Prop where
  consumes : action.Consumes
  waits : ∀ scene, ∃ after, scenario.await action.header row scene = (.ok (), after) ∧
    scenario.Undisturbed queue scene after
  timely : count * (1 / 10 + lag) ≤ scenario.effectiveTimeout action.header
  lasts : 10 * scenario.effectiveTimeout action.header + 1 ≤ scenario.fuel

variable {scenario : Scenario W Rat} {queue : W -> List (List Message)} {lag : Rat}
  {row : Option Row} {count : Nat} {action : Action}

/-! ## Opening a consumer -/

section

variable (feeds : scenario.Feeds queue lag)

include feeds

theorem call_opens (call : Call Rat) (opening : call.opensConsumer = true) (scene : Scene W) :
    ∃ answer world, scenario.call call scene = (.ok answer, { scene with world }) ∧
      queue world = queue scene.world ∧
      scenario.clock.now scene ≤ scenario.clock.now { scene with world } := by
  obtain ⟨answer, world, answered, kept, onward⟩ := feeds.opens call opening scene.world
  exact ⟨answer, world, by rw [Scenario.call, answered], kept, onward⟩

theorem consumer_opens (scene : Scene W) :
    ∃ consumer after, scenario.consumer scene = (.ok consumer, after) ∧
      after.broker.consumer = some consumer ∧ queue after.world = queue scene.world ∧
      scenario.clock.now scene ≤ scenario.clock.now after := by
  rw [consumer, bind_run, look_run]
  cases held : scene.broker.consumer with
  | some consumer => exact ⟨consumer, scene, by simp, held, rfl, le_refl _⟩
  | none =>
    obtain ⟨consumer, between, made, kept, onward⟩ := call_opens feeds
      (.newConsumer scenario.settings.brokerServers scenario.settings.brokerGroup) rfl scene
    obtain ⟨_, last, started, keptOn, onwardOn⟩ := call_opens feeds (.startConsumer consumer) rfl
      (Scene.setBroker (fun broker => { broker with consumer := some consumer })
        { scene with world := between })
    refine ⟨consumer, _, ?_, rfl, keptOn.trans kept, onward.trans onwardOn⟩
    simp only [bind_run, made, change_run, started]
    rfl

theorem subscribe_opens (topic : String) (scene : Scene W) :
    ∃ after, scenario.subscribe topic scene = (.ok (), after) ∧
      queue after.world = queue scene.world ∧
      scenario.clock.now scene ≤ scenario.clock.now after ∧
      (scene.IsAttached → after.broker.consumer.isSome = true) := by
  rw [subscribe, bind_run, look_run]
  by_cases known : topic ∈ scene.broker.topics
  · -- Nothing is opened for a topic that was asked for before, as a consumer is held by then.
    refine ⟨scene, by simp [known], rfl, le_refl _, fun attached => ?_⟩
    refine Option.isSome_iff_ne_none.mpr fun absent => ?_
    simp [attached absent] at known
  · obtain ⟨consumer, between, opened, held, kept, onward⟩ := consumer_opens feeds
      (scene.setBroker fun broker => { broker with topics := broker.topics ++ [topic] })
    obtain ⟨_, last, told, keptOn, onwardOn⟩ := call_opens feeds
      (.subscribe consumer (sortTopics between.broker.topics)) rfl between
    refine ⟨_, ?_, keptOn.trans kept, onward.trans onwardOn, fun _ => by simp [held]⟩
    dsimp only
    rw [if_neg (by simpa using known), change_bind_run, bind_run, opened]
    exact told

/-! ## Looking for a message -/

omit feeds in
theorem brokerPause_exact : (brokerPause : Rat) = 1 / 10 := by
  norm_num [brokerPause, Scale.hundredths]

theorem fetch_held {scene : Scene W} (held : scene.broker.consumer.isSome = true) :
    ∃ world, scenario.fetch brokerPause scene =
        (.ok (((queue scene.world).headD []).map Message.read), { scene with world }) ∧
      queue world = (queue scene.world).tail ∧
      scenario.world.clock.now scene.world ≤ scenario.world.clock.now world ∧
      scenario.world.clock.now world ≤ scenario.world.clock.now scene.world + lag := by
  obtain ⟨consumer, held⟩ := Option.isSome_iff_exists.mp held
  have whole : Scale.whole? (Scale.thousandfold (brokerPause : Rat)) = some 100 := by
    norm_num [brokerPause_exact, Scale.thousandfold, Scale.whole?]
  obtain ⟨world, fetched, taken, onward, bounded⟩ := feeds.fetches consumer 100 scene.world
  refine ⟨world, ?_, taken, onward, bounded⟩
  rw [fetch, bind_run, look_run]
  simp only [held, whole, bind_run, Scenario.call, fetched]
  rfl

end

/-- One look at the broker for a message that suits a record. -/
def looksFor {T : Type} [Scale T] (scenario : Scenario W T) (row : Option Row) (action : Action) :
    Activity (Scene W) (Option Delivery) := do
  return (← scenario.fetch brokerPause).find? (scenario.seeks row action)

def suiting? (scenario : Scenario W Rat) (row : Option Row) (action : Action)
    (batch : List Message) : Option Delivery :=
  (batch.map Message.read).find? (scenario.seeks row action)

theorem suiting?_isSome (batch : List Message) :
    (scenario.suiting? row action batch).isSome = batch.any (scenario.wants row action) := by
  rw [Bool.eq_iff_iff, suiting?, List.find?_isSome, List.any_eq_true]
  simp [wants]

theorem firstIn_suiting? (batches : List (List Message)) :
    (Polling.firstIn (scenario.suiting? row action) batches).map Prod.snd =
      Batches.rest? (scenario.wants row action) batches := by
  induction batches with
  | nil => rfl
  | cons batch batches ih =>
    rw [Polling.firstIn, Batches.rest?, ← suiting?_isSome]
    cases scenario.suiting? row action batch with
    | none => exact ih
    | some found => rfl

theorem looksFor_reads (feeds : scenario.Feeds queue lag) (row : Option Row) (action : Action) :
    Polling.Reads scenario.clock (scenario.looksFor row action) (fun scene => queue scene.world)
      (scenario.suiting? row action) (fun scene => scene.broker.consumer.isSome = true) lag where
  probes := by
    intro scene held
    obtain ⟨world, fetched, taken, onward, bounded⟩ := fetch_held feeds held
    refine ⟨{ scene with world }, ?_, held, taken, onward, bounded⟩
    rw [looksFor, bind_run, fetched]
    cases queue scene.world <;> rfl
  sleeps := by
    intro span scene held
    obtain ⟨kept, slept⟩ := feeds.sleeps span scene.world
    exact ⟨held, kept, slept⟩

theorem looksFor_keepsTime (feeds : scenario.Feeds queue lag) (row : Option Row)
    (action : Action) : Polling.KeepsTime scenario.clock (scenario.looksFor row action) where
  sleeps span scene := (feeds.sleeps span scene.world).2
  probes := by
    intro scene
    cases held : scene.broker.consumer with
    | none =>
      have looked : scenario.looksFor row action scene = (.ok none, scene) := by
        simp [looksFor, fetch, bind_run, held]
      rw [looked]
      exact ⟨nofun, le_refl _⟩
    | some consumer =>
      obtain ⟨after, looked, -, -, onward, -⟩ :=
        (looksFor_reads feeds row action).probes scene (by simp [held])
      rw [looked]
      exact ⟨nofun, onward⟩

/-! ## One attempt -/

variable (scenario row) in
theorem consumeMessage_polls {topic key : String} {part : Option String}
    (consuming : action.operation = .consume topic key part) :
    ∃ (polling : Polling Rat) (report : Delivery -> StepOutcome),
      scenario.consumeMessage action.header row topic key part = (do
        scenario.subscribe (scenario.fill row topic)
        return report (← polling.run scenario.clock scenario.fuel (scenario.looksFor row action))) ∧
      polling.timeout = scenario.effectiveTimeout action.header ∧
      polling.interval = brokerPause := by
  have sought : scenario.seeks row action = Delivery.isWanted (scenario.fill row topic)
      (scenario.fill row key) (scenario.fill? row part) := by rw [seeks, consuming]
  simp only [looksFor, sought]
  exact ⟨_, _, rfl, rfl, rfl⟩

section

variable (feeds : scenario.Feeds queue lag) (affords : scenario.Affords queue lag row count action)

include feeds affords

theorem takeAction_polls (scene : Scene W) :
    ∃ (polling : Polling Rat) (report : Delivery -> StepOutcome) (opened : Scene W),
      scenario.takeAction action row scene =
        (polling.run scenario.clock scenario.fuel (scenario.looksFor row action) >>=
          fun found => pure (report found)) opened ∧
      polling.timeout = scenario.effectiveTimeout action.header ∧ polling.interval = 1 / 10 ∧
      queue opened.world = queue scene.world ∧
      scenario.clock.now scene ≤ scenario.clock.now opened ∧
      (scene.IsAttached → opened.broker.consumer.isSome = true) := by
  obtain ⟨topic, key, part, consuming⟩ := affords.consumes
  obtain ⟨polling, report, polls, timeout, interval⟩ :=
    consumeMessage_polls scenario row consuming
  obtain ⟨waited, awaited, undisturbed⟩ := affords.waits scene
  obtain ⟨ready, entered, same, untouched, unmoved⟩ : ∃ ready,
      scenario.takeAction action row scene =
        scenario.consumeMessage action.header row topic key part ready ∧
      ready.broker = waited.broker ∧ ready.world = waited.world ∧
      scenario.clock.now ready = scenario.clock.now waited := by
    rw [takeAction, prepared, bind_run, awaited, perform, consuming]
    simp only [withBroker, feeds.enabled, if_true]
    split
    · exact ⟨waited.reloadPage _, rfl, rfl, rfl, rfl⟩
    · exact ⟨waited, rfl, rfl, rfl, rfl⟩
  obtain ⟨opened, subscribed, kept, onward, attaches⟩ :=
    subscribe_opens feeds (scenario.fill row topic) ready
  refine ⟨polling, report, opened, ?_, timeout, interval.trans brokerPause_exact, ?_, ?_,
    fun attached => attaches ?_⟩
  · rw [entered, polls, bind_run, subscribed]
  · rw [kept, untouched, undisturbed.queue]
  · exact undisturbed.onward.trans (unmoved ▸ onward)
  · rwa [Scene.IsAttached, same, undisturbed.broker]

theorem exists_fuel (scene : Scene W) : ∃ fuel, scenario.fuel = fuel + 1 ∧
    scenario.effectiveTimeout action.header ≤ fuel * (1 / 10) := by
  obtain ⟨_, -, -, early, late⟩ := feeds.fetches ⟨0⟩ 0 scene.world
  have timely := affords.timely
  have lasts := affords.lasts
  have room : 0 ≤ (count : Rat) * (1 / 10 + lag) := mul_nonneg (Nat.cast_nonneg _) (by linarith)
  have some : scenario.fuel ≠ 0 := by
    intro none
    rw [none, Nat.cast_zero] at lasts
    linarith
  obtain ⟨fuel, more⟩ := Nat.exists_eq_succ_of_ne_zero some
  refine ⟨fuel, more, ?_⟩
  rw [more, Nat.cast_succ] at lasts
  linarith

theorem takeAction_ends (scene : Scene W) :
    (scenario.takeAction action row scene).1 ≠ .stalled ∧
      scenario.clock.now scene ≤ scenario.clock.now (scenario.takeAction action row scene).2 := by
  obtain ⟨polling, report, opened, ran, timeout, interval, -, onward, -⟩ :=
    takeAction_polls feeds affords scene
  obtain ⟨fuel, enough, lasts⟩ := exists_fuel feeds affords scene
  have ended := polling.run_ends (looksFor_keepsTime feeds row action) (by norm_num [interval])
    opened (by rwa [timeout, interval])
  rw [← enough] at ended
  rw [ran, bind_run]
  rcases polled : polling.run scenario.clock scenario.fuel (scenario.looksFor row action) opened
    with ⟨found | failure | _, after⟩ <;> rw [polled] at ended
  · exact ⟨nofun, onward.trans ended.2⟩
  · exact ⟨nofun, onward.trans ended.2⟩
  · exact absurd rfl ended.1

theorem takeAction_reads (scene : Scene W) (attached : scene.IsAttached)
    (room : (queue scene.world).length ≤ count) :
    ∃ outcome after, scenario.takeAction action row scene = (outcome, after) ∧ after.IsAttached ∧
      match Batches.rest? (scenario.wants row action) (queue scene.world) with
      | some left => (∃ report, outcome = .ok report) ∧ queue after.world = left
      | none => (∃ failure, outcome = .failed failure) ∧ queue after.world = [] := by
  obtain ⟨polling, report, opened, ran, timeout, interval, kept, -, attaches⟩ :=
    takeAction_polls feeds affords scene
  obtain ⟨fuel, enough, lasts⟩ := exists_fuel feeds affords scene
  -- There is time for all of the queue: an attempt that fails has seen it to its end.
  have timely : ((queue opened.world).length : Rat) * (polling.interval + lag) ≤ polling.timeout := by
    obtain ⟨_, -, -, early, late⟩ := feeds.fetches ⟨0⟩ 0 scene.world
    have fewer : ((queue scene.world).length : Rat) ≤ count := Nat.cast_le.mpr room
    rw [timeout, interval, kept]
    exact (mul_le_mul_of_nonneg_right fewer (by linarith)).trans affords.timely
  have reads := polling.run_reads (looksFor_reads feeds row action) (by norm_num [interval])
    (attaches attached) timely (by rwa [timeout, interval])
  rw [← enough, kept] at reads
  rw [ran, bind_run, ← firstIn_suiting?]
  rcases polled : polling.run scenario.clock scenario.fuel (scenario.looksFor row action) opened
    with ⟨outcome, after⟩
  rw [polled] at reads
  obtain ⟨held, ended⟩ := reads
  have attachedOn := Scene.isAttached_of_held held
  cases found : Polling.firstIn (scenario.suiting? row action) (queue scene.world) with
  | none =>
    rw [found] at ended
    obtain ⟨rfl, finished⟩ := ended
    exact ⟨_, after, rfl, attachedOn, ⟨_, rfl⟩, finished⟩
  | some first =>
    rw [found] at ended
    obtain ⟨rfl, left⟩ := ended
    exact ⟨_, after, rfl, attachedOn, ⟨_, rfl⟩, left⟩

end

/-! ## One record -/

/-- Nothing in the queue suits a record, and there is no more of it than some number of batches. -/
def LacksSuiting (scenario : Scenario W Rat) (queue : W -> List (List Message))
    (row : Option Row) (count : Nat) (action : Action) (scene : Scene W) : Prop :=
  scene.IsAttached ∧ (queue scene.world).length ≤ count ∧
    Batches.rest? (scenario.wants row action) (queue scene.world) = none

section

variable (feeds : scenario.Feeds queue lag) (affords : scenario.Affords queue lag row count action)

include feeds affords

theorem takeAction_keepsTime : scenario.retrier.KeepsTime (scenario.takeAction action row) where
  steps scene := (takeAction_ends feeds affords scene).2
  recoveries := by
    rintro _ ⟨⟩ scene
    exact (feeds.reopens scene).2.onward
  sleeps span scene := (feeds.sleeps span scene.world).2
  attempts _ _ := rfl
  notes _ := rfl

theorem takeAction_comesToEnd :
    scenario.retrier.ComesToEnd (scenario.takeAction action row) where
  steps scene last ran := (takeAction_ends feeds affords scene).1 (by rw [ran])
  recoveries := by
    rintro _ ⟨⟩ scene last ran
    exact (feeds.reopens scene).1 (by rw [ran])

theorem retry_passes {scene : Scene W} {left : List (List Message)} (attached : scene.IsAttached)
    (room : (queue scene.world).length ≤ count)
    (suits : Batches.rest? (scenario.wants row action) (queue scene.world) = some left)
    (description : String) :
    ∃ report after, scenario.retry description (scenario.takeAction action row) scene =
      (.ok (.ok report), after) ∧ after.IsAttached ∧ queue after.world = left := by
  obtain ⟨_, after, ran, attachedOn, ended⟩ :=
    takeAction_reads feeds affords (noteAttempts 1 scene) attached room
  simp only [noteAttempts, suits] at ended
  obtain ⟨⟨report, rfl⟩, leaves⟩ := ended
  -- The first attempt passes, so no other is made.
  have tried : scenario.retrier.Tries (scenario.takeAction action row) 1 scene (.passed report)
      after := .passed ran
  have ends : scenario.retrier.Ends (scenario.takeAction action row)
      (Scale.add (scenario.retrier.clock.now scene) scenario.retrier.policy.span) 0 scene []
      ⟨scene, .passed report⟩ after := ⟨.none, tried, nofun⟩
  have first := Nat.lt_of_lt_of_le (Nat.succ_pos _) feeds.lasts
  exact ⟨report, after, Retrier.run_of_ends scenario.retrier.policy.budget?_exact ends first,
    attachedOn, leaves⟩

omit affords in
theorem retrier_suits_lacking :
    scenario.retrier.Suits (scenario.LacksSuiting queue row count action) fun _ => True where
  attempts _ _ := id
  reinitializations _ := id
  sleeps := by
    intro span scene lacks
    have kept : queue (scenario.retrier.clock.sleep span scene).world = queue scene.world :=
      (feeds.sleeps span scene.world).1
    rwa [LacksSuiting, kept]
  reopens := by
    -- A timeout names the key and the topic, which may read like the loss of a session.
    rintro _ ⟨⟩ scene lacks
    obtain ⟨-, undisturbed⟩ := feeds.reopens scene
    refine ⟨?_, ?_⟩
    · rwa [LacksSuiting, Scene.IsAttached, undisturbed.broker, undisturbed.queue]
    · cases (scenario.reopen scene).1 <;> trivial
  timesOut _ _ := trivial
  overflows := trivial

theorem takeAction_lacks :
    (scenario.takeAction action row).Ensures (scenario.LacksSuiting queue row count action)
      ⟨fun _ => False, fun _ => True⟩ := by
  rintro scene ⟨attached, room, lacking⟩
  obtain ⟨outcome, after, ran, attachedOn, ended⟩ := takeAction_reads feeds affords scene attached room
  rw [lacking] at ended
  obtain ⟨⟨failure, rfl⟩, finished⟩ := ended
  rw [ran]
  -- An empty queue has nothing that suits either, so each further attempt fails as well.
  exact ⟨⟨attachedOn, by simp [finished], by rw [finished]; rfl⟩, trivial⟩

theorem retry_fails {scene : Scene W} (lacks : scenario.LacksSuiting queue row count action scene)
    (description : String) :
    ∃ failure after, scenario.retry description (scenario.takeAction action row) scene =
      (.ok (.error failure), after) := by
  obtain ⟨result, after, ran⟩ := Retrier.run_answers (takeAction_keepsTime feeds affords)
    (takeAction_comesToEnd feeds affords) feeds.lasts description scene
  have kept := Retrier.run_ensures (retrier_suits_lacking feeds) (takeAction_lacks feeds affords)
    scenario.fuel description
  have met := (kept.of_run lacks ran).2
  cases result with
  | ok report => exact met.elim
  | error failure => exact ⟨failure, after, ran⟩

end

/-! ## Records one after another -/

/-- Records are retried in turn until one fails, with anything in between that leaves the queue
alone; so many of them pass. -/
inductive Consumes (scenario : Scenario W Rat) (queue : W -> List (List Message))
    (row : Option Row) : List Action -> Scene W -> Nat -> Prop where
  | finished {scene : Scene W} : Consumes scenario queue row [] scene 0
  | meanwhile {actions : List Action} {scene after : Scene W} {passed : Nat}
      (kept : queue after.world = queue scene.world)
      (attaches : scene.IsAttached → after.IsAttached)
      (rest : Consumes scenario queue row actions after passed) :
      Consumes scenario queue row actions scene passed
  | passed {action : Action} {actions : List Action} {scene after : Scene W} {passed : Nat}
      {report : StepOutcome}
      (ran : scenario.retry action.describe (scenario.takeAction action row) scene =
        (.ok (.ok report), after))
      (rest : Consumes scenario queue row actions after passed) :
      Consumes scenario queue row (action :: actions) scene (passed + 1)
  | failed {action : Action} {actions : List Action} {scene after : Scene W}
      {failure : StepFailure}
      (ran : scenario.retry action.describe (scenario.takeAction action row) scene =
        (.ok (.error failure), after)) :
      Consumes scenario queue row (action :: actions) scene 0

variable {actions : List Action}

theorem consumes_iff_served (feeds : scenario.Feeds queue lag)
    (affords : ∀ action ∈ actions, scenario.Affords queue lag row count action)
    (scene : Scene W) (attached : scene.IsAttached) (room : (queue scene.world).length ≤ count)
    (passed : Nat) :
    scenario.Consumes queue row actions scene passed ↔
      passed = Batches.served (scenario.wants row) (queue scene.world) actions := by
  constructor
  · -- Along a run the queue only gets shorter, so that each record has the time for all of it.
    intro consumed
    induction consumed with
    | finished => rfl
    | meanwhile kept attaches rest ih =>
      rw [← kept] at room ⊢
      exact ih affords (attaches attached) room
    | @passed action actions scene after passed report ran rest ih =>
      have here := affords action List.mem_cons_self
      cases read : Batches.rest? (scenario.wants row action) (queue scene.world) with
      | none =>
        obtain ⟨failure, last, failed⟩ :=
          retry_fails feeds here ⟨attached, room, read⟩ action.describe
        cases ran.symm.trans failed
      | some left =>
        obtain ⟨_, last, same, attachedOn, leaves⟩ :=
          retry_passes feeds here attached room read action.describe
        cases ran.symm.trans same
        have fewer := Batches.length_le_of_rest? read
        rw [Batches.served, read, ih (fun other member => affords other (.tail _ member))
          attachedOn (leaves ▸ fewer.trans room), leaves]
    | @failed action actions scene after failure ran =>
      have here := affords action List.mem_cons_self
      cases read : Batches.rest? (scenario.wants row action) (queue scene.world) with
      | none => rw [Batches.served, read]
      | some left =>
        obtain ⟨_, last, same, -⟩ := retry_passes feeds here attached room read action.describe
        cases ran.symm.trans same
  · -- The other way round, a run is built from what is known of each record in turn.
    rintro rfl
    induction actions generalizing scene with
    | nil => exact .finished
    | cons action actions ih =>
      have here := affords action List.mem_cons_self
      rw [Batches.served]
      cases read : Batches.rest? (scenario.wants row action) (queue scene.world) with
      | none =>
        obtain ⟨failure, last, failed⟩ :=
          retry_fails feeds here ⟨attached, room, read⟩ action.describe
        exact .failed failed
      | some left =>
        obtain ⟨_, last, ran, attachedOn, leaves⟩ :=
          retry_passes feeds here attached room read action.describe
        have fewer := Batches.length_le_of_rest? read
        have rest := ih (fun other member => affords other (.tail _ member)) last attachedOn
          (leaves ▸ fewer.trans room)
        exact .passed ran (leaves ▸ rest)

/-- Two groupings of the same messages make the same records pass exactly if they have different
batches, in the right order, for the same of these records. No more records pass than would if only
what suits one were taken for it, and so many exactly if there are such batches for all of those. -/
theorem consumes_alike_iff (feeds : scenario.Feeds queue lag)
    (affords : ∀ action ∈ actions, scenario.Affords queue lag row count action)
    (one other : Scene W) (attached : one.IsAttached ∧ other.IsAttached)
    (room : (queue one.world).length ≤ count ∧ (queue other.world).length ≤ count)
    (same : (queue one.world).flatten = (queue other.world).flatten) :
    let kept := Batches.keptServed (scenario.wants row) (queue one.world).flatten actions
    let has := fun (scene : Scene W) (first : Nat) =>
      SublistForall₂ (Batches.HasSuiting (scenario.wants row)) (actions.take first)
        (queue scene.world)
    ∃ passed others,
      (∀ number, scenario.Consumes queue row actions one number ↔ number = passed) ∧
      (∀ number, scenario.Consumes queue row actions other number ↔ number = others) ∧
      (passed = others ↔ ∀ first ≤ actions.length, (has one first ↔ has other first)) ∧
      passed ≤ kept ∧ (passed = kept ↔ has one kept) ∧
      others ≤ kept ∧ (others = kept ↔ has other kept) := by
  intro kept has
  refine ⟨_, _, consumes_iff_served feeds affords one attached.1 room.1,
    consumes_iff_served feeds affords other attached.2 room.2, Batches.served_alike_iff,
    Batches.served_le_keptServed, Batches.served_eq_keptServed_iff, ?_, ?_⟩
  · simp only [kept, same]
    exact Batches.served_le_keptServed
  · simp only [kept, same, has]
    exact Batches.served_eq_keptServed_iff

end Scenario

/-- A broker that hands out batches at once, in a world without a browser. -/
def World.handing : World (List (List Message) × Rat) Rat where
  clock := { now := Prod.snd, sleep := fun span state => (state.1, state.2 + span) }
  isClosed := fun _ _ => false
  url := fun _ _ => ""
  today := 0
  perform := fun call state =>
    match call with
    | .newConsumer _ _ => (.ok ⟨0⟩, state)
    | .startConsumer _ => (.ok (), state)
    | .subscribe _ _ => (.ok (), state)
    | .fetch _ _ => (.ok (state.1.headD []), (state.1.tail, state.2))
    | _ => (.error pageClosed, state)

namespace Scenario

def handing : Scenario (List (List Message) × Rat) Rat :=
  .standard World.handing { pages := [], tests := [], params := [] }
    { Settings.plain with brokerEnabled := true, retryDelay := 1.0 } "run" 20

def handingOut (batches : List (List Message)) : Scene (List (List Message) × Rat) :=
  Scene.opening (batches, 0) (Files.empty "/")

def consuming (key : String) : Action :=
  { header := { index := 1, page := none, element := none, wait := none, timeout := some 1.0 }
    value := none, operation := .consume "orders" key none }

def order (key : String) : Message :=
  { topic := "orders", key := some key.toUTF8, value := none }

theorem handing_reopens (scene : Scene (List (List Message) × Rat)) :
    ∃ failure session, handing.reopen scene = (.failed failure, { scene with session }) := by
  obtain ⟨world, ⟨driverRuns, browser, context, page, restarts⟩⟩ := scene
  cases browser <;> cases driverRuns <;> exact ⟨_, _, rfl⟩

theorem handing_limit : handing.retrier.policy.limit ≤ handing.fuel := by
  have second : (Scale.ofSeconds 1.0 : Rat) = 1 := by decide
  have span : handing.retrier.policy.span = 2 := by
    change ((1 : Int) : Rat) * ((Scale.ofSeconds 1.0 : Rat) + 1) = 2
    norm_num [second]
  have spacing : handing.retrier.policy.spacing = 1 := by
    change max (Scale.ofSeconds 1.0 : Rat) (1 / 10) = 1
    norm_num [second]
  have fit : ⌈(2 : Rat)⌉₊ = 2 := Nat.ceil_ofNat 2
  rw [RetryPolicy.limit, span, spacing]
  norm_num [fit]
  decide

theorem handing_feeds : handing.Feeds Prod.fst 0 where
  enabled := rfl
  opens := by
    intro call opening world
    cases call <;> first | exact ⟨_, _, rfl, rfl, le_refl _⟩ | cases opening
  fetches _ _ world := ⟨_, rfl, rfl, le_refl _, by simp [handing, standard, World.handing]⟩
  sleeps _ _ := ⟨rfl, rfl⟩
  reopens scene := by
    obtain ⟨failure, session, failed⟩ := handing_reopens scene
    rw [failed]
    exact ⟨nofun, rfl, rfl, le_refl _⟩
  lasts := handing_limit

theorem consuming_affords {count : Nat} (few : count ≤ 10) (key : String) :
    handing.Affords Prod.fst 0 none count (consuming key) := by
  have second : handing.effectiveTimeout (consuming key).header = 1 := by
    change (Scale.ofSeconds 1.0 : Rat) = 1
    decide
  have some : (count : Rat) ≤ 10 := Nat.cast_le.mpr few
  refine ⟨⟨_, _, _, rfl⟩, fun scene => ⟨scene, rfl, rfl, rfl, le_refl _⟩, ?_, ?_⟩
  · rw [second]
    linarith
  · rw [second]
    change ((10 : Rat) * 1 + 1) ≤ (20 : Nat)
    norm_num

theorem wants_order :
    (handing.wants none (consuming "a") (order "a") = true ∧
      handing.wants none (consuming "a") (order "b") = false) ∧
    handing.wants none (consuming "b") (order "a") = false ∧
      handing.wants none (consuming "b") (order "b") = true := by
  decide +kernel

theorem orders_of_own_batches_are_consumed :
    let one := handingOut [[order "a"], [order "b"]]
    let other := handingOut [[order "a"], [], [order "b"]]
    let actions := [consuming "a", consuming "b"]
    one.world.1.flatten = other.world.1.flatten ∧
      handing.Consumes Prod.fst none actions one 2 ∧
      handing.Consumes Prod.fst none actions other 2 := by
  intro one other actions
  have affords : ∀ action ∈ actions, handing.Affords Prod.fst 0 none 3 action := by
    simp [actions, consuming_affords]
  obtain ⟨passed, others, consumes, consumesOther, -, -, most, -, mostOther⟩ :=
    consumes_alike_iff handing_feeds affords one other ⟨fun _ => rfl, fun _ => rfl⟩ (by decide) rfl
  have kept : Batches.keptServed (handing.wants none) one.world.1.flatten actions = 2 := by
    simp [Batches.keptServed, one, actions, handingOut, Scene.opening, wants_order]
  have firstSuits : Batches.HasSuiting (handing.wants none) (consuming "a") [order "a"] := by
    simp [Batches.HasSuiting, wants_order]
  have lastSuits : Batches.HasSuiting (handing.wants none) (consuming "b") [order "b"] := by
    simp [Batches.HasSuiting, wants_order]
  rw [kept] at most mostOther
  have both : passed = 2 := most.mpr (.cons firstSuits (.cons lastSuits .nil))
  have bothOther : others = 2 :=
    mostOther.mpr (.cons firstSuits (.cons_right (.cons lastSuits .nil)))
  exact ⟨rfl, (consumes 2).mpr both.symm, (consumesOther 2).mpr bothOther.symm⟩

-- A record drops what came in one batch with its own message.
theorem order_of_same_batch_is_dropped :
    let apart := handingOut [[order "a"], [order "b"]]
    let together := handingOut [[order "a", order "b"]]
    let actions := [consuming "a", consuming "b"]
    apart.world.1.flatten = together.world.1.flatten ∧
      handing.Consumes Prod.fst none actions apart 2 ∧
      handing.Consumes Prod.fst none actions together 1 ∧
      ¬ handing.Consumes Prod.fst none actions together 2 := by
  intro apart together actions
  have affords : ∀ action ∈ actions, handing.Affords Prod.fst 0 none 2 action := by
    simp [actions, consuming_affords]
  have consumes := consumes_iff_served handing_feeds affords
  have two : Batches.served (handing.wants none) apart.world.1 actions = 2 := by
    simp [Batches.served, Batches.rest?, apart, actions, handingOut, Scene.opening, wants_order]
  have one : Batches.served (handing.wants none) together.world.1 actions = 1 := by
    simp [Batches.served, Batches.rest?, together, actions, handingOut, Scene.opening, wants_order]
  have attached : ∀ batches, (handingOut batches).IsAttached := fun _ _ => rfl
  refine ⟨rfl, ?_, ?_, fun both => ?_⟩
  · exact (consumes apart (attached _) (by decide) 2).mpr two.symm
  · exact (consumes together (attached _) (by decide) 1).mpr one.symm
  · have same := (consumes together (attached _) (by decide) 2).mp both
    cases same.trans one

end Scenario

end Rehearsal
