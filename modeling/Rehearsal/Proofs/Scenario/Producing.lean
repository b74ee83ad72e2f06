import Rehearsal.Proofs.Scenario.BrokerRequests

/-!
Producers and the messages that are sent through them. A producer is held from before it is
started until it was stopped, so messages go to one that can be used exactly while no start has
failed, nor a stop if an attempt at it counts for one.
-/

set_option autoImplicit false

namespace Rehearsal

def Call.concernsProducer {T : Type} : Call T -> Bool
  | .newProducer _ | .startProducer _ | .send _ _ | .stopProducer _ => true
  | _ => false

structure Production where
  usable : ProducerId -> Bool
  /-- Whether the latest start failed, or the latest stop. -/
  spoiled : Bool

namespace Production

variable {T : Type}

def fresh : Production := { usable := fun _ => false, spoiled := false }

/-- A producer can be used from the end of its start on, until it is stopped. An attempt to stop it
that fails is `final` or not. -/
def next (final : Bool) (known : Production) (called : Called T) : Production :=
  match called.call, called.fault? with
  -- A new producer may have the number of an old one.
  | .newProducer _, none => { known with usable := fun _ => false }
  | .startProducer _, some _ => { known with spoiled := true }
  | .startProducer started, none =>
    { usable := fun other => decide (other = started) || known.usable other, spoiled := false }
  | .stopProducer stopped, some _ =>
    { usable := fun other => !(final && decide (other = stopped)) && known.usable other
      spoiled := final || known.spoiled }
  | .stopProducer stopped, none =>
    { usable := fun other => !decide (other = stopped) && known.usable other, spoiled := false }
  | _, _ => known

def after (final : Bool) (made : List (Called T)) : Production := made.foldl (next final) fresh

/-- What is held can be used unless something failed, and nothing failed where nothing is held. -/
def Holds (known : Production) : Option ProducerId -> Prop
  | none => known.spoiled = false
  | some producer => known.usable producer = !known.spoiled

/-- All messages of some calls go to a producer that can be used, except while spoiled. -/
def Sends (final : Bool) : Production -> List (Called T) -> Prop
  | _, [] => True
  | known, called :: made =>
    (∀ producer message, called.call = .send producer message →
      known.usable producer = !known.spoiled) ∧ Sends final (known.next final called) made

theorem sends_append {final : Bool} {known : Production} {made more : List (Called T)} :
    Sends final known (made ++ more) ↔
      Sends final known made ∧ Sends final (made.foldl (next final) known) more := by
  induction made generalizing known with
  | nil => simp [Sends]
  | cons called made ih => simp [Sends, ih, and_assoc]

-- The invariant of a dialogue: what is held is as good as what is known, and was so at each send.
def Advances (final : Bool) (known : Production) (made : List (Called T))
    (held : Option ProducerId) : Prop :=
  Holds (made.foldl (next final) known) held ∧ Sends final known made

variable {settings : Settings} {final : Bool} {known : Production} {made more : List (Called T)}
  {held between after : Option ProducerId}

theorem Advances.append (before : Advances final known made between)
    (step : ∀ {known}, Holds known between → Advances final known more after) :
    Advances final known (made ++ more) after := by
  obtain ⟨holds, sends⟩ := before
  obtain ⟨holdsOn, sendsOn⟩ := step holds
  rw [Advances, List.foldl_append, sends_append]
  exact ⟨holdsOn, sends, sendsOn⟩

theorem next_apart {called : Called T} (apart : called.call.concernsProducer = false) :
    next final known called = known := by
  rcases called with ⟨call, fault?⟩
  cases call <;> first | rfl | cases apart

theorem advances_apart (holds : Holds known held)
    (apart : ∀ called ∈ made, called.call.concernsProducer = false) :
    Advances final known made held := by
  induction made with
  | nil => exact ⟨holds, trivial⟩
  | cons called made ih =>
    have here := apart called List.mem_cons_self
    obtain ⟨holdsOn, sends⟩ := ih fun other member => apart other (List.mem_cons_of_mem _ member)
    rw [Advances, List.foldl_cons, next_apart here]
    refine ⟨holdsOn, fun producer message same => ?_, ?_⟩
    · rw [same] at here
      cases here
    · rwa [next_apart here]

theorem advances_sent {producer : ProducerId} (holds : Holds known (some producer))
    (message : Message) (fault? : Option Fault) :
    Advances (T := T) final known [⟨.send producer message, fault?⟩] (some producer) := by
  have kept : next (T := T) final known ⟨.send producer message, fault?⟩ = known := rfl
  refine ⟨by simpa [kept] using holds, ?_, trivial⟩
  rintro _ _ ⟨⟩
  exact holds

/-! ## One request -/

theorem obtained_advances {outcome : Outcome ProducerId} (holds : Holds known held)
    (obtained : BrokerRequest.Produces settings held made outcome after) :
    Advances final known made after := by
  cases obtained with
  | held client => exact ⟨holds, trivial⟩
  | unmade fault => exact ⟨holds, nofun, trivial⟩
  | made client fault? => cases fault? <;> simp [Advances, Holds, Sends, next]

theorem released_advances {outcome : Outcome Unit} (holds : Holds known held)
    (released : Client.Released .stopProducer held made outcome after) :
    Advances final known made after := by
  cases released with
  | absent => exact ⟨holds, trivial⟩
  | unstopped client fault =>
    -- If an attempt to stop it is final, it is no longer usable, and what is known is spoiled.
    simp only [Holds] at holds
    cases final <;> simp [Advances, Holds, Sends, next, holds]
  | stopped client => simp [Advances, Holds, Sends, next]

theorem consumers_apart {outcome : Outcome ConsumerId} {consumer last : Option ConsumerId}
    (obtained : BrokerRequest.Consumes settings consumer made outcome last) :
    ∀ called ∈ made, called.call.concernsProducer = false := by
  cases obtained <;> simp [Call.concernsProducer]

theorem answered_advances {clients last : BrokerClients} {request : BrokerRequest T}
    {outcome : Outcome Unit} (holds : Holds known clients.producer)
    (answered : request.Answered settings clients made outcome last) :
    Advances final known made last.producer := by
  cases answered with
  | unready obtained => exact obtained_advances holds obtained
  | unsent obtained message fault =>
    obtain ⟨rfl, -⟩ := obtained.of_ok
    exact (obtained_advances holds obtained).append fun holds => advances_sent holds message _
  | @sent _ _ _ _ client _ obtained message fault? =>
    obtain ⟨rfl, -⟩ := obtained.of_ok
    refine (obtained_advances holds obtained).append fun holds => ?_
    have flushed : ∀ called ∈ [(⟨.flush client, fault?⟩ : Called T)],
        called.call.concernsProducer = false := by simp [Call.concernsProducer]
    exact (advances_sent holds message none).append fun holds => advances_apart holds flushed
  | known | unfetched => exact ⟨holds, trivial⟩
  | unheard unasked obtained => exact advances_apart holds (consumers_apart obtained)
  | told unasked obtained fault? =>
    refine (advances_apart holds (consumers_apart obtained)).append fun holds => ?_
    exact advances_apart holds (by simp [Call.concernsProducer])
  | fetched => exact advances_apart holds (by simp [Call.concernsProducer])
  | unclosed producers => exact released_advances holds producers
  | halfClosed producers consumers =>
    obtain ⟨-, client, fault, -, rfl⟩ := consumers.of_failed
    refine (released_advances holds producers).append fun holds => ?_
    exact advances_apart holds (by simp [Call.concernsProducer])
  | closed producers consumers =>
    refine (released_advances holds producers).append fun holds => ?_
    obtain ⟨-, ⟨-, rfl⟩ | ⟨client, -, rfl⟩⟩ := consumers.of_ok
    all_goals exact advances_apart holds (by simp [Call.concernsProducer])

/-! ## A whole dialogue -/

theorem dialogue_advances {turns : List (BrokerTurn T)} {clients : BrokerClients}
    (dialogue : BrokerRequest.Dialogue settings turns made clients) :
    Advances final fresh made clients.producer := by
  induction dialogue with
  | opening => exact ⟨rfl, trivial⟩
  | meanwhile before elsewhere ih =>
    -- What is not a call to the broker does not concern a producer.
    refine ih.append fun holds => advances_apart holds fun called member => ?_
    have outside := elsewhere called member
    rcases called with ⟨call, fault?⟩
    cases call <;> first | rfl | cases outside
  | turn before answered ih => exact ih.append fun holds => answered_advances holds answered

end Production

namespace Scenario

open Production

variable {W T : Type} [Scale T] {scenario : Scenario W T} {log : W -> List (Called T)}

omit [Scale T] in
theorem produce_held (logs : scenario.world.IsLog log) {producer : ProducerId}
    {scene after : Scene W} (held : scene.broker.producer = some producer) {topic : String}
    {key value : Option String} {outcome : Outcome Unit}
    (ran : scenario.produce topic key value scene = (outcome, after)) :
    after.broker = scene.broker ∧ ∃ message fault? rest,
      log after.world = log scene.world ++ ⟨.send producer message, fault?⟩ :: rest ∧
      ∀ called ∈ rest, called.call = .flush producer := by
  obtain ⟨made, grown, answered⟩ := produce_answered logs ran
  generalize after.broker = last at answered ⊢
  -- As one is held, none is made, and so none is started before the message is sent.
  cases answered with
  | unready obtained => cases held.symm.trans obtained.of_failed.1
  | unsent obtained message fault =>
    obtain ⟨rfl, ⟨same, rfl⟩ | ⟨absent, -⟩⟩ := obtained.of_ok
    · cases held.symm.trans same
      exact ⟨by rw [← same], message, some fault, [], grown, by simp⟩
    · cases held.symm.trans absent
  | sent obtained message fault? =>
    obtain ⟨rfl, ⟨same, rfl⟩ | ⟨absent, -⟩⟩ := obtained.of_ok
    · cases held.symm.trans same
      exact ⟨by rw [← same], message, none, [⟨.flush producer, fault?⟩], grown, by simp⟩
    · cases held.symm.trans absent

/-- A message goes to a producer that can be used exactly if no start failed before, or was made up
for since; the same with failed stops, where an attempt at one is final. After such a failure the
producer stays where it is: it is sent to again, and never started. -/
theorem send_usable_iff (logs : scenario.world.IsLog log) {turns : List (BrokerTurn T)}
    {scene : Scene W} (run : scenario.Converses log turns scene) (final : Bool) :
    (∀ before producer message fault? rest,
      log scene.world = before ++ ⟨.send producer message, fault?⟩ :: rest →
      ((Production.after final before).usable producer = true ↔
        (Production.after final before).spoiled = false)) ∧
    ((Production.after final (log scene.world)).spoiled = true →
      ∃ producer, scene.broker.producer = some producer ∧
        (Production.after final (log scene.world)).usable producer = false ∧
        ∀ topic key value outcome after,
          scenario.produce topic key value scene = (outcome, after) →
          after.broker = scene.broker ∧ ∃ message fault? rest,
            log after.world = log scene.world ++ ⟨.send producer message, fault?⟩ :: rest ∧
            ∀ called ∈ rest, called.call = .flush producer) := by
  have advanced : Advances final fresh (log scene.world) scene.broker.producer :=
    dialogue_advances (run.dialogue logs)
  obtain ⟨holds, sends⟩ := advanced
  constructor
  · intro before producer message fault? rest split
    rw [split, sends_append] at sends
    have law := sends.2.1 producer message rfl
    change (Production.after final before).usable producer = _ at law
    rw [law]
    simp [Production.after]
  · intro spoiled
    change Holds (Production.after final (log scene.world)) _ at holds
    cases held : scene.broker.producer with
    | none =>
      -- Nothing is held that could have failed.
      rw [held] at holds
      cases holds.symm.trans spoiled
    | some producer =>
      rw [held] at holds
      refine ⟨producer, rfl, holds.trans (by rw [spoiled]; rfl), ?_⟩
      intro topic key value outcome after ran
      exact produce_held logs held ran

theorem order_is_sent_through_started_producer :
    let scenario := brokerOnly true
    let scene := (scenario.produce "orders" none (some "one") brokerOpening).2
    let starting := [⟨.newProducer "", none⟩, ⟨.startProducer ⟨0⟩, none⟩]
    scenario.world.IsLog Prod.snd ∧
      scenario.Converses Prod.snd [⟨.produce "orders" none (some "one"), .ok ()⟩] scene ∧
      (∃ message, scene.world.2 =
        starting ++ ⟨.send ⟨0⟩ message, none⟩ :: [⟨.flush ⟨0⟩, none⟩]) ∧
      (Production.after true starting).usable ⟨0⟩ = true := by
  intro scenario scene starting
  have logs : scenario.world.IsLog Prod.snd := World.recorded_isLog _
  have opening : scenario.Converses Prod.snd [] brokerOpening := .opening rfl rfl
  have run : scenario.Converses Prod.snd [⟨.produce "orders" none (some "one"), .ok ()⟩] scene :=
    .turn opening rfl
  have usable := (send_usable_iff logs run true).1 starting ⟨0⟩ _ none _ rfl
  exact ⟨logs, run, ⟨_, rfl⟩, usable.mpr rfl⟩

/-- A producer that could not be started is sent to all the same, when the step is repeated. -/
theorem unstarted_producer_is_sent_to :
    let scenario := brokerOnly false
    let scene := (scenario.produce "orders" none (some "one") brokerOpening).2
    let after := (scenario.produce "orders" none (some "one") scene).2
    scenario.Converses Prod.snd
        [⟨.produce "orders" none (some "one"), .failed (.fault ⟨.runtime, "no broker"⟩)⟩] scene ∧
      ∃ message, after.world.2 = scene.world.2 ++ [⟨.send ⟨0⟩ message, none⟩, ⟨.flush ⟨0⟩, none⟩] ∧
        (Production.after false scene.world.2).usable ⟨0⟩ = false := by
  intro scenario scene after
  have opening : scenario.Converses Prod.snd [] brokerOpening := .opening rfl rfl
  exact ⟨.turn opening rfl, _, rfl, rfl⟩

end Scenario

end Rehearsal
