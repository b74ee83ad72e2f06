import Rehearsal.Scene
import Rehearsal.Text.Search
import Rehearsal.Text.Utf8

/-!
Messages to and from the broker. One producer and one consumer are made when they are first
needed; the consumer is subscribed to all topics that were asked for.
-/

set_option autoImplicit false

namespace Rehearsal

/-- A message with its bytes read as text. -/
structure Delivery where
  topic : String
  key : Option String
  value : Option String
  deriving DecidableEq

def Message.read (message : Message) : Delivery :=
  { topic := message.topic, key := message.key.map Text.decodeLossy
    value := message.value.map Text.decodeLossy }

/-- Whether a message is the one that is looked for. -/
def Delivery.isWanted (topic key : String) (part : Option String) (message : Delivery) : Bool :=
  message.topic == topic && message.key == some key
    && part.all fun part => Text.contains (message.value.getD "") part

namespace Scenario

variable {W T : Type}

/-- The producer, started if it is new. It is held from before it is started. -/
def producer (scenario : Scenario W T) : Activity (Scene W) ProducerId := do
  match ← Activity.look fun scene => scene.broker.producer with
  | some producer => return producer
  | none =>
    let producer ← scenario.call (.newProducer scenario.settings.brokerServers)
    Activity.change <| Scene.setBroker fun broker => { broker with producer := some producer }
    scenario.call (.startProducer producer)
    return producer

def produce (scenario : Scenario W T) (topic : String) (key value : Option String) :
    Activity (Scene W) Unit := do
  let producer ← scenario.producer
  let message := { topic, key := key.map String.toUTF8, value := value.map String.toUTF8 }
  scenario.call (.send producer message)
  scenario.call (.flush producer)

/-- The consumer, started if it is new. It is held from before it is started. -/
def consumer (scenario : Scenario W T) : Activity (Scene W) ConsumerId := do
  match ← Activity.look fun scene => scene.broker.consumer with
  | some consumer => return consumer
  | none =>
    let settings := scenario.settings
    let consumer ← scenario.call (.newConsumer settings.brokerServers settings.brokerGroup)
    Activity.change <| Scene.setBroker fun broker => { broker with consumer := some consumer }
    scenario.call (.startConsumer consumer)
    return consumer

def sortTopics (topics : List String) : List String :=
  topics.mergeSort fun left right => !(decide (right < left))

/-- Asks for a topic once. It counts as asked for from before the broker is told. -/
def subscribe (scenario : Scenario W T) (topic : String) : Activity (Scene W) Unit := do
  if (← Activity.look fun scene => scene.broker.topics).contains topic then return ()
  else
    Activity.change <| Scene.setBroker fun broker =>
      { broker with topics := broker.topics ++ [topic] }
    let consumer ← scenario.consumer
    let topics ← Activity.look fun scene => scene.broker.topics
    scenario.call (.subscribe consumer (sortTopics topics))

/-- The next messages, none if nothing was asked for. -/
def fetch [Scale T] (scenario : Scenario W T) (span : T) : Activity (Scene W) (List Delivery) := do
  match ← Activity.look fun scene => scene.broker.consumer with
  | none => return []
  | some consumer =>
    match Scale.whole? (Scale.thousandfold span) with
    | none => throw (.fault ⟨.overflow, "cannot convert float infinity to integer"⟩)
    | some count => return (← scenario.call (.fetch consumer count)).map Message.read

def closeBroker (scenario : Scenario W T) : Activity (Scene W) Unit := do
  match ← Activity.look fun scene => scene.broker.producer with
  | some producer =>
    scenario.call (.stopProducer producer)
    Activity.change <| Scene.setBroker fun broker => { broker with producer := none }
  | none => pure ()
  match ← Activity.look fun scene => scene.broker.consumer with
  | some consumer =>
    scenario.call (.stopConsumer consumer)
    Activity.change <| Scene.setBroker fun broker => { broker with consumer := none }
  | none => pure ()
  Activity.change <| Scene.setBroker fun broker => { broker with topics := [] }

end Scenario

end Rehearsal
