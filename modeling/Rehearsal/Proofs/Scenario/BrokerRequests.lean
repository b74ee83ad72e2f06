import Rehearsal.Proofs.World.CallLog
import Rehearsal.Scenario.Messaging

/-!
Requests to the broker, and the calls that come of them. A request may fail at each of its calls,
and the next one is made with the clients that it left behind.
-/

set_option autoImplicit false

namespace Rehearsal

inductive BrokerRequest (T : Type) where
  | produce (topic : String) (key value : Option String)
  | subscribe (topic : String)
  | fetch (span : T)
  | close

structure BrokerTurn (T : Type) where
  request : BrokerRequest T
  outcome : Outcome Unit

def Call.isToBroker {T : Type} : Call T -> Bool
  | .newProducer _ | .startProducer _ | .send _ _ | .flush _ | .stopProducer _ => true
  | .newConsumer _ _ | .startConsumer _ | .subscribe _ _ | .fetch _ _ | .stopConsumer _ => true
  | _ => false

/-- How something ends that ends with a call. -/
def Outcome.ofCall {A : Type} (value : A) : Option Fault -> Outcome A
  | none => .ok value
  | some fault => .failed (.fault fault)

def BrokerRequest.run {W T : Type} [Scale T] (scenario : Scenario W T) :
    BrokerRequest T -> Activity (Scene W) Unit
  | .produce topic key value => scenario.produce topic key value
  | .subscribe topic => scenario.subscribe topic
  | .fetch span => discard (scenario.fetch span)
  | .close => scenario.closeBroker

/-- The place where one of the clients is held. -/
structure BrokerSlot (Id : Type) where
  get : BrokerClients -> Option Id
  put : Option Id -> BrokerClients -> BrokerClients
  put_get : ∀ clients, put (get clients) clients = clients

def BrokerSlot.producer : BrokerSlot ProducerId where
  get := fun clients => clients.producer
  put := fun producer clients => { clients with producer }
  put_get := fun _ => rfl

def BrokerSlot.consumer : BrokerSlot ConsumerId where
  get := fun clients => clients.consumer
  put := fun consumer clients => { clients with consumer }
  put_get := fun _ => rfl

namespace Client

variable {T Id : Type}

/-- How a client is come by. It is held as soon as it is made, whether or not it can be started. -/
inductive Obtained (make : Call T) (start : Id -> Call T) :
    Option Id -> List (Called T) -> Outcome Id -> Option Id -> Prop where
  | held (client : Id) : Obtained make start (some client) [] (.ok client) (some client)
  | unmade (fault : Fault) :
      Obtained make start none [⟨make, some fault⟩] (.failed (.fault fault)) none
  | made (client : Id) (fault? : Option Fault) :
      Obtained make start none [⟨make, none⟩, ⟨start client, fault?⟩]
        (.ofCall client fault?) (some client)

theorem Obtained.ends {make : Call T} {start : Id -> Call T} {held after : Option Id}
    {made : List (Called T)} {outcome : Outcome Id}
    (obtained : Obtained make start held made outcome after) : outcome ≠ .stalled := by
  cases obtained with
  | held | unmade => nofun
  | made client fault? => cases fault? <;> nofun

theorem Obtained.of_ok {make : Call T} {start : Id -> Call T} {held after : Option Id}
    {made : List (Called T)} {client : Id}
    (obtained : Obtained make start held made (.ok client) after) :
    after = some client ∧
      (held = some client ∧ made = [] ∨
        held = none ∧ made = [⟨make, none⟩, ⟨start client, none⟩]) := by
  generalize ended : Outcome.ok client = outcome at obtained
  cases obtained with
  | held other => cases ended; exact ⟨rfl, .inl ⟨rfl, rfl⟩⟩
  | unmade => cases ended
  | made other fault? =>
    cases fault? with
    | none => cases ended; exact ⟨rfl, .inr ⟨rfl, rfl⟩⟩
    | some fault => cases ended

theorem Obtained.of_failed {make : Call T} {start : Id -> Call T} {held after : Option Id}
    {made : List (Called T)} {failure : Failure}
    (obtained : Obtained make start held made (.failed failure) after) :
    held = none ∧ ∃ fault,
      (after = none ∧ made = [⟨make, some fault⟩] ∨
        ∃ client, after = some client ∧ made = [⟨make, none⟩, ⟨start client, some fault⟩]) := by
  generalize ended : Outcome.failed failure = outcome at obtained
  cases obtained with
  | held other => cases ended
  | unmade fault => exact ⟨rfl, fault, .inl ⟨rfl, rfl⟩⟩
  | made client fault? =>
    cases fault? with
    | none => cases ended
    | some fault => exact ⟨rfl, fault, .inr ⟨client, rfl, rfl⟩⟩

/-- How a client is let go of. It is held on to if it cannot be stopped. -/
inductive Released (stop : Id -> Call T) :
    Option Id -> List (Called T) -> Outcome Unit -> Option Id -> Prop where
  | absent : Released stop none [] (.ok ()) none
  | unstopped (client : Id) (fault : Fault) :
      Released stop (some client) [⟨stop client, some fault⟩] (.failed (.fault fault)) (some client)
  | stopped (client : Id) : Released stop (some client) [⟨stop client, none⟩] (.ok ()) none

theorem Released.of_ok {stop : Id -> Call T} {held after : Option Id} {made : List (Called T)}
    (released : Released stop held made (.ok ()) after) :
    after = none ∧ (held = none ∧ made = [] ∨
      ∃ client, held = some client ∧ made = [⟨stop client, none⟩]) := by
  cases released with
  | absent => exact ⟨rfl, .inl ⟨rfl, rfl⟩⟩
  | stopped client => exact ⟨rfl, .inr ⟨client, rfl, rfl⟩⟩

theorem Released.of_failed {stop : Id -> Call T} {held after : Option Id} {made : List (Called T)}
    {failure : Failure} (released : Released stop held made (.failed failure) after) :
    after = held ∧ ∃ client fault, held = some client ∧ made = [⟨stop client, some fault⟩] := by
  cases released with
  | unstopped client fault => exact ⟨rfl, client, fault, rfl, rfl⟩

end Client

namespace BrokerRequest

variable {T : Type} (settings : Settings) (held : BrokerClients)

def Produces : Option ProducerId -> List (Called T) -> Outcome ProducerId -> Option ProducerId -> Prop :=
  Client.Obtained (.newProducer settings.brokerServers) .startProducer

def Consumes : Option ConsumerId -> List (Called T) -> Outcome ConsumerId -> Option ConsumerId -> Prop :=
  Client.Obtained (.newConsumer settings.brokerServers settings.brokerGroup) .startConsumer

/-- What comes of a request to the clients that are `held`: the calls, how it ends, and what is
held then. -/
inductive Answered : BrokerRequest T -> List (Called T) -> Outcome Unit -> BrokerClients -> Prop where
  | unready {topic : String} {key value : Option String} {made : List (Called T)}
      {failure : Failure} {producer : Option ProducerId}
      (obtained : Produces settings held.producer made (.failed failure) producer) :
      Answered (.produce topic key value) made (.failed failure) { held with producer }
  | unsent {topic : String} {key value : Option String} {made : List (Called T)}
      {client : ProducerId} {producer : Option ProducerId}
      (obtained : Produces settings held.producer made (.ok client) producer)
      (message : Message) (fault : Fault) :
      Answered (.produce topic key value) (made ++ [⟨.send client message, some fault⟩])
        (.failed (.fault fault)) { held with producer }
  | sent {topic : String} {key value : Option String} {made : List (Called T)}
      {client : ProducerId} {producer : Option ProducerId}
      (obtained : Produces settings held.producer made (.ok client) producer)
      (message : Message) (fault? : Option Fault) :
      Answered (.produce topic key value)
        (made ++ [⟨.send client message, none⟩, ⟨.flush client, fault?⟩]) (.ofCall () fault?)
        { held with producer }
  | known {topic : String} (known : topic ∈ held.topics) :
      Answered (.subscribe topic) [] (.ok ()) held
  | unheard {topic : String} (fresh : topic ∉ held.topics) {made : List (Called T)}
      {failure : Failure} {consumer : Option ConsumerId}
      (obtained : Consumes settings held.consumer made (.failed failure) consumer) :
      Answered (.subscribe topic) made (.failed failure)
        { held with consumer, topics := held.topics ++ [topic] }
  | told {topic : String} (fresh : topic ∉ held.topics) {made : List (Called T)}
      {client : ConsumerId} {consumer : Option ConsumerId}
      (obtained : Consumes settings held.consumer made (.ok client) consumer)
      (fault? : Option Fault) :
      Answered (.subscribe topic)
        (made ++ [⟨.subscribe client (Scenario.sortTopics (held.topics ++ [topic])), fault?⟩])
        (.ofCall () fault?) { held with consumer, topics := held.topics ++ [topic] }
  | unfetched {span : T} (outcome : Outcome Unit) : Answered (.fetch span) [] outcome held
  | fetched {span : T} (client : ConsumerId) (count : Int) (fault? : Option Fault) :
      Answered (.fetch span) [⟨.fetch client count, fault?⟩] (.ofCall () fault?) held
  | unclosed {made : List (Called T)} {failure : Failure} {producer : Option ProducerId}
      (producers : Client.Released .stopProducer held.producer made (.failed failure) producer) :
      Answered .close made (.failed failure) { held with producer }
  | halfClosed {made more : List (Called T)} {failure : Failure} {producer : Option ProducerId}
      {consumer : Option ConsumerId}
      (producers : Client.Released .stopProducer held.producer made (.ok ()) producer)
      (consumers : Client.Released .stopConsumer held.consumer more (.failed failure) consumer) :
      Answered .close (made ++ more) (.failed failure) { held with producer, consumer }
  | closed {made more : List (Called T)} {producer : Option ProducerId}
      {consumer : Option ConsumerId}
      (producers : Client.Released .stopProducer held.producer made (.ok ()) producer)
      (consumers : Client.Released .stopConsumer held.consumer more (.ok ()) consumer) :
      Answered .close (made ++ more) (.ok ()) { producer, consumer, topics := [] }

/-- Turns taken one after another, with all calls that were made up to now. Others may have been
made in between, to something else than the broker. -/
inductive Dialogue : List (BrokerTurn T) -> List (Called T) -> BrokerClients -> Prop where
  | opening : Dialogue [] [] .none
  | meanwhile {turns : List (BrokerTurn T)} {made more : List (Called T)} {held : BrokerClients}
      (before : Dialogue turns made held)
      (elsewhere : ∀ called ∈ more, called.call.isToBroker = false) :
      Dialogue turns (made ++ more) held
  | turn {turns : List (BrokerTurn T)} {made more : List (Called T)} {held after : BrokerClients}
      {request : BrokerRequest T} {outcome : Outcome Unit} (before : Dialogue turns made held)
      (answered : Answered settings held request more outcome after) :
      Dialogue (turns ++ [⟨request, outcome⟩]) (made ++ more) after

end BrokerRequest

namespace Scenario

variable {W T : Type} {scenario : Scenario W T} {log : W -> List (Called T)}

theorem call_run (logs : scenario.world.IsLog log) {call : Call T} {scene after : Scene W}
    {outcome : Outcome call.Answer} (ran : scenario.call call scene = (outcome, after)) :
    ∃ world, after = { scene with world } ∧
      ((∃ answer, outcome = .ok answer ∧ log world = log scene.world ++ [⟨call, none⟩]) ∨
        ∃ fault, outcome = .failed (.fault fault) ∧
          log world = log scene.world ++ [⟨call, some fault⟩]) := by
  have performed := logs.performed call scene.world
  unfold Scenario.call at ran
  split at ran
  next answer world answered =>
    rw [answered] at performed
    cases ran
    exact ⟨world, rfl, .inl ⟨answer, rfl, performed⟩⟩
  next fault world answered =>
    rw [answered] at performed
    cases ran
    exact ⟨world, rfl, .inr ⟨fault, rfl, performed⟩⟩

theorem call_bind_run {A : Type} (logs : scenario.world.IsLog log) {call : Call T}
    {next : call.Answer -> Activity (Scene W) A} {scene after : Scene W} {outcome : Outcome A}
    (ran : (scenario.call call >>= next) scene = (outcome, after)) :
    ∃ world,
      (∃ answer, log world = log scene.world ++ [⟨call, none⟩] ∧
        next answer { scene with world } = (outcome, after)) ∨
      ∃ fault, log world = log scene.world ++ [⟨call, some fault⟩] ∧
        outcome = .failed (.fault fault) ∧ after = { scene with world } := by
  rw [Activity.bind_run] at ran
  rcases called : scenario.call call scene with ⟨result, between⟩
  rw [called] at ran
  obtain ⟨world, rfl, ⟨answer, rfl, grown⟩ | ⟨fault, rfl, grown⟩⟩ := call_run logs called
  · exact ⟨world, .inl ⟨answer, grown, ran⟩⟩
  · cases ran
    exact ⟨world, .inr ⟨fault, grown, rfl, rfl⟩⟩

theorem call_last_run {A : Type} (logs : scenario.world.IsLog log) {call : Call T} {value : A}
    {scene after : Scene W} {outcome : Outcome A}
    (ran : (scenario.call call >>= fun _ => pure value) scene = (outcome, after)) :
    ∃ world fault?, log world = log scene.world ++ [⟨call, fault?⟩] ∧
      outcome = .ofCall value fault? ∧ after = { scene with world } := by
  obtain ⟨world, ⟨answer, grown, rest⟩ | ⟨fault, grown, ended, same⟩⟩ := call_bind_run logs ran
  · cases rest
    exact ⟨world, none, grown, rfl, rfl⟩
  · exact ⟨world, some fault, grown, ended, same⟩

/-- A client that is held, or else is made, held, and then started. -/
def comeBy (scenario : Scenario W T) (make : Call T) (start : make.Answer -> Call T)
    (slot : BrokerSlot make.Answer) : Activity (Scene W) make.Answer := do
  match ← Activity.look fun scene => slot.get scene.broker with
  | some client => return client
  | none =>
    let client ← scenario.call make
    Activity.change (Scene.setBroker (slot.put (some client)))
    let _ ← scenario.call (start client)
    return client

/-- A client is stopped, if one is held, before something else. -/
def letGo {Id : Type} (scenario : Scenario W T) (stop : Id -> Call T) (slot : BrokerSlot Id)
    (next : Activity (Scene W) Unit) : Activity (Scene W) Unit := do
  match ← Activity.look fun scene => slot.get scene.broker with
  | some client =>
    let _ ← scenario.call (stop client)
    Activity.change (Scene.setBroker (slot.put none))
    next
  | none => next

-- The two kinds of clients are handled alike, so one lemma is proved about each way to handle them.

theorem producer_eq :
    scenario.producer =
      scenario.comeBy (.newProducer scenario.settings.brokerServers) .startProducer .producer := by
  unfold Scenario.producer comeBy
  congr 1
  funext held
  cases held <;> rfl

theorem consumer_eq :
    scenario.consumer =
      scenario.comeBy (.newConsumer scenario.settings.brokerServers scenario.settings.brokerGroup)
        .startConsumer .consumer := by
  unfold Scenario.consumer comeBy
  congr 1
  funext held
  cases held <;> rfl

theorem closeBroker_eq :
    scenario.closeBroker = scenario.letGo .stopProducer .producer (
      scenario.letGo .stopConsumer .consumer
        (Activity.change <| Scene.setBroker fun broker => { broker with topics := [] })) := by
  unfold closeBroker letGo
  congr 1
  funext producer
  cases producer with
  | none =>
    dsimp only
    congr 1
    funext consumer
    cases consumer <;> rfl
  | some client =>
    dsimp only
    congr 1
    funext _
    congr 1
    funext _
    congr 1
    funext consumer
    cases consumer <;> rfl

theorem comeBy_follows {conduct : Conduct (Scene W)} {make : Call T}
    {start : make.Answer -> Call T} {slot : BrokerSlot make.Answer}
    (made : (scenario.call make).Follows conduct)
    (started : ∀ client, (scenario.call (start client)).Follows conduct)
    (holds : ∀ client scene, conduct.leads scene (scene.setBroker (slot.put (some client)))) :
    (scenario.comeBy make start slot).Follows conduct := by
  refine Activity.follows_bind (Activity.follows_look _) fun held => ?_
  cases held with
  | some client => exact Activity.follows_pure _
  | none =>
    refine Activity.follows_bind made fun client => ?_
    refine Activity.follows_bind (Activity.follows_change (holds client)) fun _ => ?_
    exact Activity.follows_bind (started client) fun _ => Activity.follows_pure _

theorem letGo_follows {Id : Type} {conduct : Conduct (Scene W)} {stop : Id -> Call T}
    {slot : BrokerSlot Id} {next : Activity (Scene W) Unit}
    (stopped : ∀ client, (scenario.call (stop client)).Follows conduct)
    (frees : ∀ scene, conduct.leads scene (scene.setBroker (slot.put none)))
    (onward : next.Follows conduct) : (scenario.letGo stop slot next).Follows conduct := by
  refine Activity.follows_bind (Activity.follows_look _) fun held => ?_
  cases held with
  | none => exact onward
  | some client =>
    refine Activity.follows_bind (stopped client) fun _ => ?_
    exact Activity.follows_bind (Activity.follows_change frees) fun _ => onward

section

variable {conduct : Conduct (Scene W)}
  (called : ∀ call : Call T, call.isToBroker = true → (scenario.call call).Follows conduct)
  (holds : ∀ update scene, conduct.leads scene (Scene.setBroker update scene))

include called holds

theorem producer_follows : scenario.producer.Follows conduct := by
  rw [producer_eq]
  exact comeBy_follows (called _ rfl) (fun _ => called _ rfl) fun _ => holds _

theorem consumer_follows : scenario.consumer.Follows conduct := by
  rw [consumer_eq]
  exact comeBy_follows (called _ rfl) (fun _ => called _ rfl) fun _ => holds _

theorem closeBroker_follows : scenario.closeBroker.Follows conduct := by
  rw [closeBroker_eq]
  refine letGo_follows (fun _ => called _ rfl) (holds _) ?_
  exact letGo_follows (fun _ => called _ rfl) (holds _) (Activity.follows_change (holds _))

end

theorem comeBy_obtained (logs : scenario.world.IsLog log) {make : Call T}
    {start : make.Answer -> Call T} {slot : BrokerSlot make.Answer} {scene after : Scene W}
    {outcome : Outcome make.Answer}
    (ran : scenario.comeBy make start slot scene = (outcome, after)) :
    ∃ made client?, log after.world = log scene.world ++ made ∧
      after.broker = slot.put client? scene.broker ∧
      Client.Obtained make start (slot.get scene.broker) made outcome client? := by
  have kept := slot.put_get scene.broker
  rw [comeBy, Activity.bind_run, Activity.look_run] at ran
  cases held : slot.get scene.broker with
  | some client =>
    simp only [held, Activity.pure_run] at ran
    cases ran
    exact ⟨[], some client, by simp, by rw [← held, kept], .held client⟩
  | none =>
    simp only [held] at ran
    obtain ⟨world, ⟨client, grown, rest⟩ | ⟨fault, grown, rfl, rfl⟩⟩ := call_bind_run logs ran
    · -- It is put into its place here, before it is known whether it can be started.
      rw [Activity.change_bind_run] at rest
      obtain ⟨last, fault?, grownOn, rfl, rfl⟩ := call_last_run logs rest
      refine ⟨_, some client, ?_, rfl, .made client fault?⟩
      rw [grownOn, Scene.setBroker, grown, List.append_assoc]
      rfl
    · exact ⟨_, none, grown, by rw [← held, kept], .unmade fault⟩

theorem letGo_released {Id : Type} (logs : scenario.world.IsLog log) {stop : Id -> Call T}
    {slot : BrokerSlot Id} {next : Activity (Scene W) Unit} {scene after : Scene W}
    {outcome : Outcome Unit} (ran : scenario.letGo stop slot next scene = (outcome, after)) :
    ∃ made client? result between, log between.world = log scene.world ++ made ∧
      between.broker = slot.put client? scene.broker ∧
      Client.Released stop (slot.get scene.broker) made result client? ∧
      (result = .ok () ∧ next between = (outcome, after) ∨
        result = outcome ∧ ∃ failure, outcome = .failed failure ∧ after = between) := by
  have kept := slot.put_get scene.broker
  rw [letGo, Activity.bind_run, Activity.look_run] at ran
  cases held : slot.get scene.broker with
  | none =>
    simp only [held] at ran
    exact ⟨[], none, _, scene, by simp, by rw [← held, kept], .absent, .inl ⟨rfl, ran⟩⟩
  | some client =>
    simp only [held] at ran
    obtain ⟨world, ⟨answer, grown, rest⟩ | ⟨fault, grown, rfl, rfl⟩⟩ := call_bind_run logs ran
    · rw [Activity.change_bind_run] at rest
      exact ⟨_, none, _, _, grown, rfl, .stopped client, .inl ⟨rfl, rest⟩⟩
    · exact ⟨_, _, _, _, grown, by rw [← held, kept], .unstopped client fault,
        .inr ⟨rfl, _, rfl, rfl⟩⟩

theorem produce_answered (logs : scenario.world.IsLog log) {topic : String}
    {key value : Option String} {scene after : Scene W} {outcome : Outcome Unit}
    (ran : scenario.produce topic key value scene = (outcome, after)) :
    ∃ made, log after.world = log scene.world ++ made ∧
      BrokerRequest.Answered scenario.settings scene.broker (.produce topic key value) made outcome
        after.broker := by
  unfold Scenario.produce at ran
  rw [Activity.bind_run] at ran
  rcases sought : scenario.producer scene with ⟨result, between⟩
  obtain ⟨made, producer, grown, held, obtained⟩ := comeBy_obtained logs (producer_eq ▸ sought)
  rw [sought] at ran
  rcases result with client | failure | _
  · obtain ⟨world, ⟨answer, grownOn, rest⟩ | ⟨fault, grownOn, rfl, rfl⟩⟩ := call_bind_run logs ran
    · have flushed := (congrFun (Activity.bind_done (scenario.call (.flush client))) _).trans rest
      obtain ⟨last, fault?, grownLast, rfl, rfl⟩ := call_last_run logs flushed
      simp only [grownOn, grown, List.append_assoc, List.cons_append, List.nil_append] at grownLast
      refine ⟨_, grownLast, ?_⟩
      exact held ▸ BrokerRequest.Answered.sent obtained _ fault?
    · refine ⟨made ++ [_], by rw [grownOn, grown, List.append_assoc], ?_⟩
      exact held ▸ .unsent obtained _ fault
  · cases ran
    exact ⟨made, grown, held ▸ .unready obtained⟩
  · exact absurd rfl obtained.ends

theorem subscribe_answered (logs : scenario.world.IsLog log) {topic : String}
    {scene after : Scene W} {outcome : Outcome Unit}
    (ran : scenario.subscribe topic scene = (outcome, after)) :
    ∃ made, log after.world = log scene.world ++ made ∧
      BrokerRequest.Answered scenario.settings scene.broker (.subscribe topic) made outcome
        after.broker := by
  unfold Scenario.subscribe at ran
  rw [Activity.bind_run, Activity.look_run] at ran
  by_cases known : topic ∈ scene.broker.topics
  · simp only [List.contains_eq_mem, known, decide_true, if_true, Activity.pure_run,
      Prod.mk.injEq] at ran
    obtain ⟨rfl, rfl⟩ := ran
    exact ⟨[], by simp, .known known⟩
  · simp only [List.contains_eq_mem, known, decide_false, Bool.false_eq_true, if_false] at ran
    -- The topic is among those asked for before any call is made for it.
    rw [Activity.change_bind_run, Activity.bind_run] at ran
    rcases sought : scenario.consumer (scene.setBroker fun broker =>
      { broker with topics := broker.topics ++ [topic] }) with ⟨result, between⟩
    obtain ⟨made, consumer, grown, held, obtained⟩ := comeBy_obtained logs (consumer_eq ▸ sought)
    rw [sought] at ran
    rcases result with client | failure | _
    · have told := (congrFun (Activity.bind_done (scenario.call (.subscribe client
        (sortTopics between.broker.topics)))) _).trans ran
      obtain ⟨last, fault?, grownOn, rfl, rfl⟩ := call_last_run logs told
      refine ⟨made ++ [_], by rw [grownOn, grown, List.append_assoc]; rfl, ?_⟩
      rw [show between.broker.topics = scene.broker.topics ++ [topic] by rw [held]; rfl]
      exact held ▸ .told known obtained fault?
    · cases ran
      exact ⟨made, grown, held ▸ .unheard known obtained⟩
    · exact absurd rfl obtained.ends

theorem fetch_answered [Scale T] (logs : scenario.world.IsLog log) {span : T}
    {scene after : Scene W} {outcome : Outcome Unit}
    (ran : discard (scenario.fetch span) scene = (outcome, after)) :
    ∃ made, log after.world = log scene.world ++ made ∧
      BrokerRequest.Answered scenario.settings scene.broker (.fetch span) made outcome
        after.broker := by
  rw [Activity.discard_run] at ran
  rcases fetched : scenario.fetch span scene with ⟨result, last⟩
  rw [fetched] at ran
  rw [fetch, Activity.bind_run, Activity.look_run] at fetched
  cases held : scene.broker.consumer with
  | none =>
    simp only [held, Activity.pure_run] at fetched
    cases fetched
    cases ran
    exact ⟨[], by simp, .unfetched _⟩
  | some client =>
    simp only [held] at fetched
    cases whole : Scale.whole? (Scale.thousandfold span) with
    | none =>
      rw [whole] at fetched
      cases fetched
      cases ran
      exact ⟨[], by simp, .unfetched _⟩
    | some count =>
      rw [whole] at fetched
      obtain ⟨world, ⟨answer, grown, rest⟩ | ⟨fault, grown, rfl, rfl⟩⟩ :=
        call_bind_run logs fetched
      · cases rest
        cases ran
        exact ⟨_, grown, .fetched client _ none⟩
      · cases ran
        exact ⟨_, grown, .fetched client _ (some fault)⟩

theorem closeBroker_answered (logs : scenario.world.IsLog log) {scene after : Scene W}
    {outcome : Outcome Unit} (ran : scenario.closeBroker scene = (outcome, after)) :
    ∃ made, log after.world = log scene.world ++ made ∧
      BrokerRequest.Answered (T := T) scenario.settings scene.broker .close made outcome
        after.broker := by
  rw [closeBroker_eq] at ran
  obtain ⟨made, producer, result, between, grown, held, released, step⟩ := letGo_released logs ran
  rcases step with ⟨rfl, rest⟩ | ⟨rfl, failure, rfl, rfl⟩
  · obtain ⟨more, consumer, result, last, grownOn, heldOn, releasedOn, step⟩ :=
      letGo_released logs rest
    rcases step with ⟨rfl, rest⟩ | ⟨rfl, failure, rfl, rfl⟩
    · cases rest
      refine ⟨made ++ more, by rw [← List.append_assoc, ← grown]; exact grownOn, ?_⟩
      rw [held] at releasedOn
      rw [Scene.setBroker, heldOn, held]
      exact .closed released releasedOn
    · -- The topics are kept if the consumer cannot be stopped, although the producer is gone.
      refine ⟨made ++ more, by rw [grownOn, grown, List.append_assoc], ?_⟩
      rw [heldOn, held]
      rw [held] at releasedOn
      exact .halfClosed released releasedOn
  · exact ⟨made, grown, held ▸ .unclosed released⟩

variable [Scale T]

theorem run_answered (logs : scenario.world.IsLog log) {request : BrokerRequest T}
    {scene after : Scene W} {outcome : Outcome Unit}
    (ran : request.run scenario scene = (outcome, after)) :
    ∃ made, log after.world = log scene.world ++ made ∧
      BrokerRequest.Answered scenario.settings scene.broker request made outcome after.broker := by
  cases request with
  | produce topic key value => exact produce_answered logs ran
  | subscribe topic => exact subscribe_answered logs ran
  | fetch span => exact fetch_answered logs ran
  | close => exact closeBroker_answered logs ran

/-- Requests one after another, each made however the one before it ended. -/
inductive Converses (scenario : Scenario W T) (log : W -> List (Called T)) :
    List (BrokerTurn T) -> Scene W -> Prop where
  | opening {scene : Scene W} (closed : scene.broker = .none) (unused : log scene.world = []) :
      Converses scenario log [] scene
  | meanwhile {turns : List (BrokerTurn T)} {scene after : Scene W} {made : List (Called T)}
      (before : Converses scenario log turns scene) (kept : after.broker = scene.broker)
      (grown : log after.world = log scene.world ++ made)
      (elsewhere : ∀ called ∈ made, called.call.isToBroker = false) :
      Converses scenario log turns after
  | turn {turns : List (BrokerTurn T)} {scene after : Scene W} {request : BrokerRequest T}
      {outcome : Outcome Unit} (before : Converses scenario log turns scene)
      (ran : request.run scenario scene = (outcome, after)) :
      Converses scenario log (turns ++ [⟨request, outcome⟩]) after

theorem Converses.dialogue (logs : scenario.world.IsLog log) {turns : List (BrokerTurn T)}
    {scene : Scene W} (run : scenario.Converses log turns scene) :
    BrokerRequest.Dialogue scenario.settings turns (log scene.world) scene.broker := by
  induction run with
  | opening closed unused =>
    rw [closed, unused]
    exact .opening
  | meanwhile before kept grown elsewhere ih =>
    rw [kept, grown]
    exact .meanwhile ih elsewhere
  | turn before ran ih =>
    obtain ⟨made, grown, answered⟩ := run_answered logs ran
    rw [grown]
    exact .turn ih answered

end Scenario

/-- A broker in an otherwise closed world, whose clients can be started or not. -/
def World.broker {T : Type} (startable : Bool) : (call : Call T) -> Except Fault call.Answer
  | .newProducer _ => .ok ⟨0⟩
  | .newConsumer _ _ => .ok ⟨0⟩
  | .startProducer _ => if startable then .ok () else .error ⟨.runtime, "no broker"⟩
  | .startConsumer _ => if startable then .ok () else .error ⟨.runtime, "no broker"⟩
  | .send _ _ => .ok ()
  | .flush _ => .ok ()
  | .stopProducer _ => .ok ()
  | .subscribe _ _ => .ok ()
  | .fetch _ _ => .ok []
  | .stopConsumer _ => .ok ()
  | _ => .error pageClosed

namespace Scenario

def brokerOnly (startable : Bool) : Scenario (Unit × List (Called Rat)) Rat :=
  .standard (World.still (World.broker startable)).recorded
    { pages := [], tests := [], params := [] } .plain "run" 1

def brokerOpening : Scene (Unit × List (Called Rat)) := Scene.opening ((), []) (Files.empty "/")

end Scenario

end Rehearsal
