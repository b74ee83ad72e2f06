import Rehearsal.Proofs.Scenario.Lifetime

/-!
What is released when a scenario is closed. The log, the broker's clients, the client for requests
and the browser go one after the other, and a client that cannot be stopped keeps all that comes
after it open. Without that, nothing is left that was ever taken hold of.
-/

set_option autoImplicit false

namespace Rehearsal

open Activity

/-! ## Clients that are left running -/

/-- A kind of client of the broker: where one is held, and which calls make or stop one. -/
structure ClientKind (T Id : Type) where
  resource : Resource
  slot : BrokerSlot Id
  made? : Answered T -> Option Id
  /-- A client is asked to stop whether or not that goes well. -/
  stops : Answered T -> Id -> Bool
  apart : ∀ answered : Answered T, answered.call.resource? ≠ some resource →
    made? answered = none ∧ ∀ client, stops answered client = false
  ofBroker : resource ≠ .browser ∧ resource ≠ .handle
  get_put : ∀ held clients, slot.get (slot.put held clients) = held
  get_topics : ∀ clients topics, slot.get { clients with topics } = slot.get clients

namespace ClientKind

variable {T Id : Type}

def producer : ClientKind T ProducerId where
  resource := .producer
  slot := .producer
  made?
    | ⟨.newProducer _, .ok producer⟩ => some producer
    | _ => none
  stops
    | ⟨.stopProducer producer, _⟩, client => producer == client
    | _, _ => false
  apart := by
    rintro ⟨call, answer⟩ other
    cases call <;> first | exact ⟨rfl, fun _ => rfl⟩ | exact absurd rfl other
  ofBroker := by decide
  get_put _ _ := rfl
  get_topics _ _ := rfl

def consumer : ClientKind T ConsumerId where
  resource := .consumer
  slot := .consumer
  made?
    | ⟨.newConsumer _ _, .ok consumer⟩ => some consumer
    | _ => none
  stops
    | ⟨.stopConsumer consumer, _⟩, client => consumer == client
    | _, _ => false
  apart := by
    rintro ⟨call, answer⟩ other
    cases call <;> first | exact ⟨rfl, fun _ => rfl⟩ | exact absurd rfl other
  ofBroker := by decide
  get_put _ _ := rfl
  get_topics _ _ := rfl

variable (kind : ClientKind T Id)

/-- The clients that were made and not asked to stop since. -/
def running (made : List (Answered T)) : List Id :=
  made.foldl (fun running answered =>
    (running.filter fun client => !kind.stops answered client) ++
      (kind.made? answered).toList) []

theorem running_snoc (made : List (Answered T)) (answered : Answered T) :
    kind.running (made ++ [answered]) =
      ((kind.running made).filter fun client => !kind.stops answered client) ++
        (kind.made? answered).toList := by
  rw [running, List.foldl_append]
  rfl

variable {kind}

theorem running_apart {made more : List (Answered T)}
    (apart : ∀ answered ∈ more, answered.call.resource? ≠ some kind.resource) :
    kind.running (made ++ more) = kind.running made := by
  induction more generalizing made with
  | nil => rw [List.append_nil]
  | cons answered rest ih =>
    obtain ⟨other, later⟩ := List.forall_mem_cons.mp apart
    obtain ⟨unmade, unstopped⟩ := kind.apart answered other
    rw [List.append_cons, ih later, running_snoc, unmade]
    simp [unstopped]

theorem running_stopped {made : List (Answered T)} {answered : Answered T} {client : Id}
    (single : ∀ other ∈ kind.running made, other = client)
    (unmade : kind.made? answered = none) (stopped : kind.stops answered client = true) :
    kind.running (made ++ [answered]) = [] := by
  rw [running_snoc, unmade, Option.toList_none, List.append_nil, List.filter_eq_nil_iff]
  intro other member
  simp [single other member, stopped]

end ClientKind

namespace Scenario

variable {W T Id : Type} {scenario : Scenario W T}
  {transcript : W -> List (Answered T)}

/-! ## Clients are held as long as they run -/

/-- A client that runs is held, and none is where there is no broker to reach. -/
structure HoldsRunning (scenario : Scenario W T) (transcript : W -> List (Answered T))
    (kind : ClientKind T Id) (scene : Scene W) : Prop where
  held : ∀ client ∈ kind.running (transcript scene.world),
    kind.slot.get scene.broker = some client
  enabled : kind.slot.get scene.broker ≠ none → scenario.settings.brokerEnabled = true

def leaving (transcript : W -> List (Answered T)) (kind : ClientKind T Id) : Conduct (Scene W) :=
  adding transcript (fun answered => answered.call.resource? ≠ some kind.resource)
    fun scene => kind.slot.get scene.broker

variable {kind : ClientKind T Id}

theorem HoldsRunning.none_runs {scene : Scene W}
    (holds : scenario.HoldsRunning transcript kind scene)
    (free : kind.slot.get scene.broker = none) : kind.running (transcript scene.world) = [] := by
  refine List.eq_nil_iff_forall_not_mem.mpr fun client member => ?_
  cases free.symm.trans (holds.held client member)

theorem HoldsRunning.single {scene : Scene W} {client : Id}
    (holds : scenario.HoldsRunning transcript kind scene)
    (held : kind.slot.get scene.broker = some client) :
    ∀ other ∈ kind.running (transcript scene.world), other = client :=
  fun other member => Option.some.inj ((holds.held other member).symm.trans held)

theorem HoldsRunning.left {before after : Scene W}
    (holds : scenario.HoldsRunning transcript kind before)
    (left : (leaving transcript kind).leads before after) :
    scenario.HoldsRunning transcript kind after := by
  obtain ⟨same, made, grown, apart⟩ := left
  change kind.slot.get after.broker = kind.slot.get before.broker at same
  refine ⟨?_, same ▸ holds.enabled⟩
  rw [grown, ClientKind.running_apart apart, same]
  exact holds.held

theorem holdsRunning_of_leaving {A : Type} {activity : Activity (Scene W) A}
    (follows : activity.Follows (leaving transcript kind)) :
    activity.Follows (.holding (scenario.HoldsRunning transcript kind)) :=
  follows.weaken (fun _ _ left holds => holds.left left) fun _ => trivial

theorem leaving_unworldly {scene after : Scene W} (idle : after.world = scene.world)
    (kept : kind.slot.get after.broker = kind.slot.get scene.broker) :
    (leaving transcript kind).leads scene after :=
  ⟨kept, [], by simp [idle], by simp⟩

section

variable (transcribes : scenario.world.IsTranscript transcript)

include transcribes

theorem call_leaving {call : Call T} (other : call.resource? ≠ some kind.resource) :
    (scenario.call call).Follows (leaving transcript kind) :=
  call_adding transcribes (fun _ _ => rfl) call fun _ => other

theorem comeBy_holdsRunning (make : Call T) (kind : ClientKind T make.Answer)
    {start : make.Answer -> Call T}
    (made : ∀ client, kind.made? ⟨make, .ok client⟩ = some client)
    (unmade : ∀ fault, kind.made? ⟨make, .error fault⟩ = none)
    (starts : ∀ client, (start client).resource? = none)
    (enabled : scenario.settings.brokerEnabled = true) :
    (scenario.comeBy make start kind.slot).Follows
      (.holding (scenario.HoldsRunning transcript kind)) := by
  intro scene
  refine ⟨fun holds => ?_, fun _ _ => trivial⟩
  rw [comeBy, bind_run, look_run]
  dsimp only
  cases free : kind.slot.get scene.broker with
  | some client => exact holds
  | none =>
    have none_runs := holds.none_runs free
    dsimp only
    rw [bind_run]
    obtain ⟨client, world, ran, grown⟩ | ⟨fault, world, ran, grown⟩ :=
      call_answered transcribes make scene
    all_goals
      rw [ran]
      dsimp only
    · -- The client is held before it is started, so a start that fails leaves none unheld.
      rw [change_bind_run]
      have starting : (scenario.call (start client) >>= fun _ => pure client).Follows
          (.holding (scenario.HoldsRunning transcript kind)) := by
        refine follows_bind (holdsRunning_of_leaving (call_leaving transcribes ?_)) fun _ =>
          follows_pure _
        simp [starts]
      refine (starting _).1 ⟨?_, fun _ => enabled⟩
      rw [Scene.setBroker, grown, ClientKind.running_snoc, none_runs, made, kind.get_put]
      simp
    · refine ⟨?_, fun held => absurd free held⟩
      rw [grown, ClientKind.running_snoc, none_runs, unmade]
      simp

theorem letGo_holdsRunning {stop : Id -> Call T} {next : Activity (Scene W) Unit}
    (unmade : ∀ client answer, kind.made? ⟨stop client, answer⟩ = none)
    (stopped : ∀ client answer, kind.stops ⟨stop client, answer⟩ client = true)
    (onward : next.Follows (.holding (scenario.HoldsRunning transcript kind))) :
    (scenario.letGo stop kind.slot next).Follows
      (.holding (scenario.HoldsRunning transcript kind)) := by
  intro scene
  refine ⟨fun holds => ?_, fun _ _ => trivial⟩
  rw [letGo, bind_run, look_run]
  dsimp only
  cases held : kind.slot.get scene.broker with
  | none => exact (onward scene).1 holds
  | some client =>
    have single := holds.single held
    dsimp only
    rw [bind_run]
    obtain ⟨_, world, ran, grown⟩ | ⟨fault, world, ran, grown⟩ :=
      call_answered transcribes (stop client) scene
    -- The client was asked to stop whichever way it answers.
    all_goals
      have none_runs : kind.running (transcript world) = [] := by
        rw [grown]
        exact ClientKind.running_stopped single (unmade client _) (stopped client _)
      rw [ran]
      dsimp only
    · rw [change_bind_run]
      refine (onward _).1 ⟨?_, ?_⟩
      · simp [Scene.setBroker, none_runs]
      · simp [Scene.setBroker, kind.get_put]
    · exact ⟨by simp [none_runs], holds.enabled⟩

/-! ## Clients over a lifetime -/

theorem admits_holdsRunning
    (producers : scenario.settings.brokerEnabled = true →
      scenario.producer.Follows (.holding (scenario.HoldsRunning transcript kind)))
    (consumers : scenario.settings.brokerEnabled = true →
      scenario.consumer.Follows (.holding (scenario.HoldsRunning transcript kind))) :
    scenario.Admits (.holding (scenario.HoldsRunning transcript kind)) where
  called call plain scene holds := by
    refine holds.left ⟨rfl, _, transcribes.performed call scene.world, ?_⟩
    simp [plain]
  slept span scene holds :=
    holds.left ⟨rfl, [], by simpa [clock] using transcribes.slept span scene.world, by simp⟩
  found page element lead failed := by
    refine holdsRunning_of_leaving (follows_bind (call_leaving transcribes ?_) fun handle => ?_)
    · simpa [Call.resource?] using kind.ofBroker.2.symm
    · exact fun scene => ⟨leaving_unworldly rfl rfl, fun _ broke => by cases broke⟩
  producers := producers
  consumers := consumers
  topics topic scene holds := holds.left (leaving_unworldly rfl (kind.get_topics _ _))
  reloaded _ _ holds := holds.left (leaving_unworldly rfl rfl)
  dropped _ holds := holds.left (leaving_unworldly rfl rfl)
  cookieJar _ _ holds := holds.left (leaving_unworldly rfl rfl)
  grounded _ _ _ := trivial

theorem permitsSession_holdsRunning :
    scenario.PermitsSession (.holding (scenario.HoldsRunning transcript kind)) where
  called call own := by
    refine holdsRunning_of_leaving (call_leaving transcribes ?_)
    rcases Call.resource?_of_session own with plain | browser
    · simp [plain]
    · simpa [browser] using kind.ofBroker.1.symm
  slept span scene holds :=
    holds.left ⟨rfl, [], by simpa [clock] using transcribes.slept span scene.world, by simp⟩
  holds _ _ _ holds := holds.left (leaving_unworldly rfl rfl)
  exhausted _ _ _ := trivial

theorem closeBroker_holdsProducer :
    scenario.closeBroker.Follows (.holding (scenario.HoldsRunning transcript .producer)) := by
  rw [closeBroker_eq]
  refine letGo_holdsRunning transcribes (fun _ _ => rfl) (fun _ _ => beq_self_eq_true _)
    (holdsRunning_of_leaving (letGo_follows (fun _ => call_leaving transcribes nofun)
      (fun _ => leaving_unworldly rfl rfl) ?_))
  exact follows_change fun _ => leaving_unworldly rfl rfl

theorem closeBroker_holdsConsumer :
    scenario.closeBroker.Follows (.holding (scenario.HoldsRunning transcript .consumer)) := by
  rw [closeBroker_eq]
  refine letGo_follows (fun _ => holdsRunning_of_leaving (call_leaving transcribes nofun))
    (fun _ holds => holds.left (leaving_unworldly rfl rfl)) ?_
  refine letGo_holdsRunning transcribes (fun _ _ => rfl) (fun _ _ => beq_self_eq_true _) ?_
  exact follows_change fun _ holds => holds.left (leaving_unworldly rfl rfl)

variable [Scale T] (listens : scenario.onRestart = [Scene.dropHandles])

include listens

theorem Lived.holdsRunning {phase : Phase T} {scene : Scene W}
    (lived : scenario.Lived transcript phase scene) (unheld : kind.slot.get .none = none)
    (admits : scenario.Admits (.holding (scenario.HoldsRunning transcript kind)))
    (releases : scenario.closeBroker.Follows (.holding (scenario.HoldsRunning transcript kind))) :
    scenario.HoldsRunning transcript kind scene := by
  have sustains := admits.sustains (permitsSession_holdsRunning transcribes) listens
    (fun _ => trivial) (fun _ => releases) fun scene changed idle _ _ broker _ holds =>
      holds.left (leaving_unworldly idle (by rw [broker]))
  refine lived.holds sustains fun world files silent => ⟨?_, fun held => absurd unheld held⟩
  rw [Scene.opening, silent]
  exact fun _ running => absurd running List.not_mem_nil

theorem Lived.holdsProducer {phase : Phase T} {scene : Scene W}
    (lived : scenario.Lived transcript phase scene) :
    scenario.HoldsRunning transcript .producer scene := by
  refine lived.holdsRunning transcribes listens rfl
    (admits_holdsRunning transcribes (fun enabled => ?_) fun _ => ?_)
    (closeBroker_holdsProducer transcribes)
  · rw [producer_eq]
    exact comeBy_holdsRunning transcribes (.newProducer _) .producer (fun _ => rfl) (fun _ => rfl)
      (fun _ => rfl) enabled
  · rw [consumer_eq]
    exact holdsRunning_of_leaving (comeBy_follows (call_leaving transcribes nofun)
      (fun _ => call_leaving transcribes nofun) fun _ _ => leaving_unworldly rfl rfl)

theorem Lived.holdsConsumer {phase : Phase T} {scene : Scene W}
    (lived : scenario.Lived transcript phase scene) :
    scenario.HoldsRunning transcript .consumer scene := by
  refine lived.holdsRunning transcribes listens rfl
    (admits_holdsRunning transcribes (fun _ => ?_) fun enabled => ?_)
    (closeBroker_holdsConsumer transcribes)
  · rw [producer_eq]
    exact holdsRunning_of_leaving (comeBy_follows (call_leaving transcribes nofun)
      (fun _ => call_leaving transcribes nofun) fun _ _ => leaving_unworldly rfl rfl)
  · rw [consumer_eq]
    exact comeBy_holdsRunning transcribes (.newConsumer _ _) .consumer (fun _ => rfl) (fun _ => rfl)
      (fun _ => rfl) enabled

end

/-! ## How far a close gets -/

/-- Nothing is left of what was taken hold of: every client was asked to stop, and every browser
was asked to close. -/
structure Released (transcript : W -> List (Answered T)) (scene : Scene W) : Prop where
  log : scene.log = none
  producers : ClientKind.producer.running (transcript scene.world) = []
  consumers : ClientKind.consumer.running (transcript scene.world) = []
  requests : scene.requestsClosed = true
  browsers : launched (transcript scene.world) = askedToClose (transcript scene.world)

inductive Frees (transcript : W -> List (Answered T)) (stop : Id -> Call T) :
    Option Id -> W -> W -> Prop where
  | unheld {world : W} : Frees transcript stop none world world
  | stopped {client : Id} {world after : W} {answer : (stop client).Answer}
      (asked : transcript after = transcript world ++ [⟨stop client, .ok answer⟩]) :
      Frees transcript stop (some client) world after

/-- What a close comes to. A client that cannot be stopped keeps it from all that comes after. -/
inductive Shuts (transcript : W -> List (Answered T)) (before : Scene W) :
    Outcome Unit -> Scene W -> Prop where
  | whole {after : Scene W} (released : Released transcript after) :
      Shuts transcript before (.ok ()) after
  | atProducer {producer : ProducerId} {fault : Fault} {world : W}
      (held : before.broker.producer = some producer)
      (asked : transcript world =
        transcript before.world ++ [⟨.stopProducer producer, .error fault⟩]) :
      Shuts transcript before (.failed (.fault fault)) { before with world, log := none }
  | atConsumer {consumer : ConsumerId} {fault : Fault} {freed world : W}
      (held : before.broker.consumer = some consumer)
      (frees : Frees transcript .stopProducer before.broker.producer before.world freed)
      (asked : transcript world =
        transcript freed ++ [⟨.stopConsumer consumer, .error fault⟩]) :
      Shuts transcript before (.failed (.fault fault))
        { before with world, log := none, broker := { before.broker with producer := none } }

/-- All that comes after the client that could not be stopped was released before. -/
def LeavesNothing (transcript : W -> List (Answered T)) (before after : Scene W) : Prop :=
  (after.broker.producer = none ∨
    ClientKind.consumer.running (transcript before.world) = []) ∧
  before.requestsClosed = true ∧
  launched (transcript before.world) = askedToClose (transcript before.world)

theorem letGo_run (transcribes : scenario.world.IsTranscript transcript) (stop : Id -> Call T)
    (slot : BrokerSlot Id) (next : Activity (Scene W) Unit) (scene : Scene W) :
    (∃ world, Frees transcript stop (slot.get scene.broker) scene.world world ∧
        scenario.letGo stop slot next scene =
          next { scene with world, broker := slot.put none scene.broker }) ∨
      ∃ client fault world, slot.get scene.broker = some client ∧
        transcript world = transcript scene.world ++ [⟨stop client, .error fault⟩] ∧
        scenario.letGo stop slot next scene = (.failed (.fault fault), { scene with world }) := by
  -- Where no client is held, taking none out of its slot changes nothing.
  have kept := slot.put_get scene.broker
  rw [letGo, bind_run, look_run]
  dsimp only
  cases held : slot.get scene.broker with
  | none =>
    rw [held] at kept
    exact .inl ⟨scene.world, .unheld, by rw [kept]⟩
  | some client =>
    dsimp only
    rw [bind_run]
    obtain ⟨answer, world, ran, grown⟩ | ⟨fault, world, ran, grown⟩ :=
      call_answered transcribes (stop client) scene
    · rw [ran]
      exact .inl ⟨world, .stopped grown, rfl⟩
    · rw [ran]
      exact .inr ⟨client, fault, world, rfl, grown, rfl⟩

/-! ## What a close releases -/

theorem Frees.grown {stop : Id -> Call T} {held : Option Id} {world freed : W}
    (frees : Frees transcript stop held world freed) :
    ∃ made, transcript freed = transcript world ++ made ∧
      ∀ answered ∈ made, ∃ client, answered.call = stop client := by
  cases frees with
  | unheld => exact ⟨[], by simp, by simp⟩
  | stopped asked => exact ⟨_, asked, by simp⟩

variable (kind) in
theorem Frees.none_runs {stop : Id -> Call T} {scene : Scene W} {freed : W}
    (frees : Frees transcript stop (kind.slot.get scene.broker) scene.world freed)
    (holds : scenario.HoldsRunning transcript kind scene)
    (unmade : ∀ client answer, kind.made? ⟨stop client, answer⟩ = none)
    (stopped : ∀ client answer, kind.stops ⟨stop client, answer⟩ client = true) :
    kind.running (transcript freed) = [] := by
  generalize held : kind.slot.get scene.broker = client? at frees
  generalize here : scene.world = world at frees
  cases frees with
  | unheld => exact here ▸ holds.none_runs held
  | stopped asked =>
    rw [asked, ← here]
    exact ClientKind.running_stopped (holds.single held) (unmade _ _) (stopped _ _)

theorem settled_apart {made more : List (Answered T)}
    (apart : ∀ answered ∈ more, answered.call.resource? ≠ some .browser) :
    launched (made ++ more) = askedToClose (made ++ more) ↔ launched made = askedToClose made := by
  have aside := aside_of_resource apart
  rw [launched_append, askedToClose_append, aside.unlaunched, aside.unasked, List.append_nil,
    List.append_nil]

/-- The producer counts as asked to stop though it could not be, and all else is as it was. -/
theorem released_iff_atProducer {scene : Scene W} {producer : ProducerId} {fault : Fault}
    {world : W} (held : scene.broker.producer = some producer)
    (asked : transcript world =
      transcript scene.world ++ [⟨.stopProducer producer, .error fault⟩])
    (producers : scenario.HoldsRunning transcript .producer scene) :
    Released transcript { scene with world, log := none } ↔
      ClientKind.consumer.running (transcript scene.world) = [] ∧ scene.requestsClosed = true ∧
        launched (transcript scene.world) = askedToClose (transcript scene.world) := by
  have stopped : ClientKind.producer.running (transcript world) = [] := by
    rw [asked]
    exact ClientKind.running_stopped (producers.single held) rfl (beq_self_eq_true _)
  have others : ClientKind.consumer.running (transcript world) =
      ClientKind.consumer.running (transcript scene.world) := by
    rw [asked]
    exact ClientKind.running_apart (by simp [Call.resource?, ClientKind.consumer])
  have settled : launched (transcript world) = askedToClose (transcript world) ↔
      launched (transcript scene.world) = askedToClose (transcript scene.world) := by
    rw [asked]
    exact settled_apart (by simp [Call.resource?])
  constructor
  · rintro ⟨-, -, consumers, requests, browsers⟩
    exact ⟨others ▸ consumers, requests, settled.mp browsers⟩
  · rintro ⟨consumers, requests, browsers⟩
    exact ⟨rfl, stopped, others.trans consumers, requests, settled.mpr browsers⟩

/-- With the producer gone and the consumer asked to stop, no client is left running. -/
theorem released_iff_atConsumer {scene : Scene W} {consumer : ConsumerId} {fault : Fault}
    {freed world : W} (held : scene.broker.consumer = some consumer)
    (frees : Frees transcript .stopProducer scene.broker.producer scene.world freed)
    (asked : transcript world = transcript freed ++ [⟨.stopConsumer consumer, .error fault⟩])
    (producers : scenario.HoldsRunning transcript .producer scene)
    (consumers : scenario.HoldsRunning transcript .consumer scene) :
    Released transcript
        { scene with world, log := none, broker := { scene.broker with producer := none } } ↔
      scene.requestsClosed = true ∧
        launched (transcript scene.world) = askedToClose (transcript scene.world) := by
  -- What was added since is the producer's and the consumer's stop, none of it a browser's.
  obtain ⟨made, grown, stops⟩ := frees.grown
  have ofProducer : ∀ answered ∈ made, answered.call.resource? = some .producer := by
    intro answered member
    obtain ⟨client, same⟩ := stops answered member
    rw [same]
    rfl
  have unproducing : ClientKind.producer.running (transcript world) = [] := by
    rw [asked, ClientKind.running_apart (by simp [Call.resource?, ClientKind.producer])]
    exact frees.none_runs .producer producers (fun _ _ => rfl) fun _ _ => beq_self_eq_true _
  have unconsuming : ClientKind.consumer.running (transcript world) = [] := by
    rw [asked]
    refine ClientKind.running_stopped ?_ rfl (beq_self_eq_true _)
    rw [grown, ClientKind.running_apart
      fun answered member => by simp [ofProducer answered member, ClientKind.consumer]]
    exact consumers.single held
  have settled : launched (transcript world) = askedToClose (transcript world) ↔
      launched (transcript scene.world) = askedToClose (transcript scene.world) := by
    rw [asked, settled_apart (by simp [Call.resource?]), grown]
    exact settled_apart fun answered member => by simp [ofProducer answered member]
  constructor
  · exact fun released => ⟨released.requests, settled.mp released.browsers⟩
  · rintro ⟨requests, browsers⟩
    exact ⟨rfl, unproducing, unconsuming, requests, settled.mpr browsers⟩

theorem Shuts.released_iff {scene after : Scene W} {outcome : Outcome Unit}
    (shuts : Shuts transcript scene outcome after)
    (producers : scenario.HoldsRunning transcript .producer scene)
    (consumers : scenario.HoldsRunning transcript .consumer scene) :
    Released transcript after ↔ outcome = .ok () ∨ LeavesNothing transcript scene after := by
  cases shuts with
  | whole released => exact ⟨fun _ => .inl rfl, fun _ => released⟩
  | atProducer held asked =>
    rw [released_iff_atProducer held asked producers]
    simp [LeavesNothing, held]
  | atConsumer held frees asked =>
    rw [released_iff_atConsumer held frees asked producers consumers]
    simp [LeavesNothing]

section

variable (transcribes : scenario.world.IsTranscript transcript) {scene after : Scene W}
  {outcome : Outcome Unit}

include transcribes

theorem closeBroker_shuts (scene : Scene W) :
    (∃ world, scenario.closeBroker scene = (.ok (), { scene with world, broker := .none })) ∨
      (∃ producer fault world, scene.broker.producer = some producer ∧
        transcript world = transcript scene.world ++ [⟨.stopProducer producer, .error fault⟩] ∧
        scenario.closeBroker scene = (.failed (.fault fault), { scene with world })) ∨
      ∃ consumer fault freed world, scene.broker.consumer = some consumer ∧
        Frees transcript .stopProducer scene.broker.producer scene.world freed ∧
        transcript world = transcript freed ++ [⟨.stopConsumer consumer, .error fault⟩] ∧
        scenario.closeBroker scene = (.failed (.fault fault),
          { scene with world, broker := { scene.broker with producer := none } }) := by
  rw [closeBroker_eq]
  obtain ⟨freed, frees, onward⟩ | stuck := letGo_run transcribes .stopProducer .producer
    (scenario.letGo .stopConsumer .consumer
      (change <| Scene.setBroker fun broker => { broker with topics := [] })) scene
  · rw [onward]
    obtain ⟨world, -, onward⟩ | ⟨consumer, fault, world, held, asked, ran⟩ :=
      letGo_run transcribes .stopConsumer .consumer
        (change <| Scene.setBroker fun broker => { broker with topics := [] })
        { scene with world := freed, broker := BrokerSlot.producer.put none scene.broker }
    · exact .inl ⟨world, onward⟩
    · exact .inr (.inr ⟨consumer, fault, freed, world, held, frees, asked, ran⟩)
  · exact .inr (.inl stuck)

/-- Where no client is held any more, nothing can keep the rest from being released. -/
theorem closeRest_releases (producers : scenario.HoldsRunning transcript .producer scene)
    (consumers : scenario.HoldsRunning transcript .consumer scene)
    (one : HoldsOne transcript scene) (unlogged : scene.log = none)
    (unproducing : scene.broker.producer = none) (unconsuming : scene.broker.consumer = none)
    (ran : (change (fun scene : Scene W => { scene with requestsClosed := true }) >>= fun _ =>
      scenario.closeSession) scene = (outcome, after)) :
    outcome = .ok () ∧ Released transcript after := by
  rw [change_bind_run] at ran
  obtain ⟨last, closed, ⟨tended, -⟩, unheld, -⟩ :=
    scenario.closeSession_holdsOne transcribes
      (⟨one.tended, one.within⟩ : HoldsOne transcript { scene with requestsClosed := true })
  have permits : scenario.PermitsSession
      (.keeping fun scene => (scene.log, scene.requestsClosed, scene.broker)) :=
    permitsSession_keeping ⟨fun _ _ => rfl, fun _ _ _ => rfl⟩
  have kept := (Conduct.follows_keeping.mp (closeSession_follows permits)).of_run closed
  simp only [Prod.mk.injEq, unlogged] at kept
  obtain ⟨log, requests, broker⟩ := kept
  have producersOn := ((closeSession_follows (permitsSession_holdsRunning transcribes)).of_run
    closed).1 (producers.left (leaving_unworldly rfl rfl))
  have consumersOn := ((closeSession_follows (permitsSession_holdsRunning transcribes)).of_run
    closed).1 (consumers.left (leaving_unworldly rfl rfl))
  rw [closed] at ran
  cases ran
  refine ⟨rfl, log, producersOn.none_runs ?_, consumersOn.none_runs ?_, requests, ?_⟩
  · rw [broker]
    exact unproducing
  · rw [broker]
    exact unconsuming
  · simpa [Balanced, unheld] using tended.balanced

variable [Scale T] (listens : scenario.onRestart = [Scene.dropHandles])

include listens

theorem close_shuts (lived : scenario.Lived transcript .idle scene)
    (ran : scenario.close scene = (outcome, after)) : Shuts transcript scene outcome after := by
  have producers : scenario.HoldsRunning transcript .producer { scene with log := none } :=
    (lived.holdsProducer transcribes listens).left (leaving_unworldly rfl rfl)
  have consumers : scenario.HoldsRunning transcript .consumer { scene with log := none } :=
    (lived.holdsConsumer transcribes listens).left (leaving_unworldly rfl rfl)
  have one : HoldsOne transcript { scene with log := none } :=
    ⟨(lived.holdsOne transcribes listens).tended,
      (lived.holdsOne transcribes listens).within⟩
  rw [close, change_bind_run] at ran
  dsimp only at ran
  split at ran
  next enabled =>
    rw [bind_run] at ran
    obtain ⟨world, closed⟩ | ⟨producer, fault, world, held, asked, closed⟩ |
        ⟨consumer, fault, freed, world, held, frees, asked, closed⟩ :=
      closeBroker_shuts transcribes { scene with log := none }
    · rw [closed] at ran
      have oneOn := (((sustains_holdsOne transcribes listens).releases enabled).of_run closed).1 one
      obtain ⟨rfl, released⟩ := closeRest_releases transcribes
        (((closeBroker_holdsProducer transcribes).of_run closed).1 producers)
        (((closeBroker_holdsConsumer transcribes).of_run closed).1 consumers) oneOn rfl rfl rfl ran
      exact .whole released
    · rw [closed] at ran
      cases ran
      exact .atProducer held asked
    · rw [closed] at ran
      cases ran
      exact .atConsumer held frees asked
  next disabled =>
    -- Without a broker there never was a client.
    obtain ⟨rfl, released⟩ := closeRest_releases transcribes producers consumers one rfl
      (Classical.not_not.mp fun held => disabled (producers.enabled held))
      (Classical.not_not.mp fun held => disabled (consumers.enabled held)) ran
    exact .whole released

/-- Whatever fails, a close comes to an end with its log closed; and it releases all the rest
exactly if it passes or nothing was left to release after the client that could not be stopped. -/
theorem close_releases_iff :
    (∀ scene, scenario.Lived transcript .idle scene → ∃ outcome after,
      scenario.close scene = (outcome, after) ∧ Shuts transcript scene outcome after ∧
      after.log = none ∧
      (Released transcript after ↔ outcome = .ok () ∨ LeavesNothing transcript scene after)) ∧
    ∀ scene call, scenario.Lived transcript .idle scene → ∃ phase,
      scenario.Lived transcript phase (scenario.drive call scene).2 ∧
        ((scenario.drive call scene).1 ≠ .stalled → phase = .idle) := by
  refine ⟨fun scene lived => ?_, fun scene call lived => lived.driven call⟩
  rcases ran : scenario.close scene with ⟨outcome, after⟩
  have shuts := close_shuts transcribes listens lived ran
  refine ⟨outcome, after, rfl, shuts, ?_, shuts.released_iff
    (lived.holdsProducer transcribes listens) (lived.holdsConsumer transcribes listens)⟩
  cases shuts with
  | whole released => exact released.log
  | atProducer | atConsumer => rfl

end

/-! ## A test with messages -/

def messagesTest : Test :=
  let header : Header :=
    { index := 1, page := none, element := none, wait := none, timeout := none }
  { name := "entry", dataFile := none, rows := none, startPage := none, resetsSession := false
    script :=
      { test := "entry", assertions := []
        actions :=
          [{ header, value := none, operation := .produce "orders" none none },
           { header := { header with index := 2 }, value := none
             operation := .consume "orders" "key" none }] } }

/-- A browser and a broker that do as they are asked, but for producers that may not stop. -/
def messaging (stoppable : Bool) : Scenario (Unit × List (Answered Rat)) Rat :=
  let world := World.still fun
    | .stopProducer _ => if stoppable then .ok () else .error ⟨.runtime, "no broker"⟩
    | .fetch _ _ => .ok [{ topic := "orders", key := some "key".toUTF8, value := none }]
    | call => if call.isToBroker then World.broker true call else World.willing call
  .standard world.transcribed { pages := [], tests := [("entry", messagesTest)], params := [] }
    { Settings.plain with brokerEnabled := true, eventLog := false } "run" 20

def opened (stoppable : Bool) : Scene (Unit × List (Answered Rat)) :=
  ((messaging stoppable).start (Scene.opening ((), []) (Files.empty "/"))).2

def messaged (stoppable : Bool) : Scene (Unit × List (Answered Rat)) :=
  ((messaging stoppable).serve (.replay "entry" none) (opened stoppable)).2

theorem messaged_lived {stoppable : Bool}
    (passes : ((messaging stoppable).serve (.replay "entry" none) (opened stoppable)).1.passes =
      true) : (messaging stoppable).Lived Prod.snd .idle (messaged stoppable) := by
  have started : (messaging stoppable).Lived Prod.snd .idle (opened stoppable) :=
    .strode (.opening rfl) .started
  obtain ⟨phase, lived, idle⟩ := started.driven (.serve (.replay "entry" none))
  obtain ⟨_, passed⟩ := Outcome.of_passes passes
  obtain rfl := idle fun stalled => by cases passed.symm.trans stalled
  exact lived

/-- Both clients run here, and a browser; none of them is left. -/
theorem messages_are_released :
    let scenario := messaging true
    let scene := messaged true
    scenario.Lived Prod.snd .idle scene ∧
      ClientKind.producer.running scene.world.2 = [⟨0⟩] ∧
      ClientKind.consumer.running scene.world.2 = [⟨0⟩] ∧
      ∃ after, scenario.close scene = (.ok (), after) ∧ Released Prod.snd after ∧
        askedToClose after.world.2 = [⟨0⟩] := by
  intro scenario scene
  have lived : scenario.Lived Prod.snd .idle scene := messaged_lived (by decide +kernel)
  obtain ⟨closes, -⟩ := close_releases_iff (World.transcribed_isTranscript _)
    (rfl : scenario.onRestart = [Scene.dropHandles])
  obtain ⟨outcome, after, ran, -, -, released⟩ := closes scene lived
  have told : (scenario.close scene).1.passes = true ∧
      askedToClose (scenario.close scene).2.world.2 = [⟨0⟩] := by
    decide +kernel
  rw [ran] at told
  obtain ⟨_, rfl⟩ := Outcome.of_passes told.1
  exact ⟨lived, by decide +kernel, by decide +kernel, after, ran, released.mpr (.inl rfl), told.2⟩

/-- The producer cannot be stopped, so the consumer and the browser are not even asked to. -/
theorem unstopped_producer_leaves_rest :
    let scenario := messaging false
    let scene := messaged false
    let after := (scenario.close scene).2
    scenario.Lived Prod.snd .idle scene ∧
      (scenario.close scene).1 = .failed (.fault ⟨.runtime, "no broker"⟩) ∧
      ClientKind.consumer.running after.world.2 = [⟨0⟩] ∧ after.requestsClosed = false ∧
      launched after.world.2 = [⟨0⟩] ∧ askedToClose after.world.2 = [] ∧
      ¬ Released Prod.snd after := by
  intro scenario scene after
  have consuming : ClientKind.consumer.running after.world.2 = [⟨0⟩] := by decide +kernel
  refine ⟨messaged_lived (by decide +kernel), Outcome.eq_of_isFault (by decide +kernel), consuming,
    by decide +kernel, by decide +kernel, by decide +kernel, fun released => ?_⟩
  cases consuming.symm.trans released.consumers

end Scenario

end Rehearsal
