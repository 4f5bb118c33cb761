import ClusterGateway.Component
import ClusterGateway.Error
import ClusterGateway.Topic

/-!
# Script of the cluster

The components that a gateway owns are played by a cluster in memory, which follows a
script: what it answers to a message for each topic, what its consumers find, how long
its calls take, and which of its components fail to start or to stop. The same script
serves every gateway; what happens to one has no effect on another.
-/

namespace ClusterGateway

/-- A sequence of bytes, such as the key or the value of a message. -/
abbrev Bytes := List UInt8

/-- A message as the cluster has accepted it. -/
structure Receipt where
  topic : String
  partition : Int32
  offset : Int64
  key : Option Bytes
  value : Bytes
deriving Repr, DecidableEq

/-- What becomes of the messages of a topic. -/
inductive TopicFate where
  | accept
  /-- Accepted, with a receipt of the cluster's own choice. -/
  | confirm (receipt : Receipt)
  | reject (error : Error)
  /-- The request is dropped without an answer. -/
  | drop
deriving Repr

/-- What becomes of one message, and how long it takes. -/
structure TopicTurn where
  fate : TopicFate := .accept
  delay : Nat := 0
deriving Repr

/-- A topic that messages can be produced to. -/
structure TopicScript where
  partitions : Int32 := 8
  delay : Nat := 0
  fate : TopicFate := .accept
  /-- What becomes of the first messages of the topic, one after the other; all later ones
  share a fate and a delay. -/
  turns : List TopicTurn := []
deriving Repr

/-- What becomes of a message that comes after a number of others of its topic. -/
def TopicScript.turn (topic : TopicScript) (earlier : Nat) : TopicTurn :=
  (topic.turns[earlier]?).getD ⟨topic.fate, topic.delay⟩

/-- What a request of a consumer finds. -/
inductive Delivery where
  | message (topic : Option String) (partition : Int32) (offset highWaterMark : Int64)
      (key : Option Bytes) (value : Bytes)
  | failure (error : Error)
  /-- The request is dropped without an answer. -/
  | drop
deriving Repr

/-- A delivery that takes some time. -/
structure QueuedDelivery where
  delivery : Delivery
  delay : Nat := 0
deriving Repr

/-- The creation of a component that fails: which one, and how many go well before. -/
structure CreationFault where
  component : Component
  after : Nat := 0
  error : Error
deriving Repr

/-- The script of a cluster. -/
structure BrokerScript where
  topics : List (String × TopicScript) := []
  /-- How long a consumer waits at an empty queue. -/
  pollTimeout : Nat := 1000
  /-- Capacity of a partition session. -/
  sessionBuffer : Nat := 4
  knownTopics : List TopicMetadata := []
  /-- By topic and group, the partitions that each client consumes. -/
  consumers : List (String × List (String × TopicConsumers)) := []
  /-- Administrative calls that fail, by the names of the calls. -/
  adminErrors : List (String × Error) := []
  adminDelay : Nat := 0
  stopDelays : List (Component × Nat) := []
  /-- Stops that take another time at the gateway of a path. -/
  ownStopDelays : List ((String × Component) × Nat) := []
  stopFaults : List Component := []
  creationFault : Option CreationFault := none
deriving Repr

/-- How long the stop of a component takes at the gateway of a path. -/
def BrokerScript.stopDelay (script : BrokerScript) (owner : String) (component : Component) : Nat :=
  (script.ownStopDelays.lookup (owner, component)).getD
    ((script.stopDelays.lookup component).getD 0)

/-- The stop of a component breaks down. -/
def BrokerScript.stopBreaks (script : BrokerScript) (component : Component) : Bool :=
  script.stopFaults.contains component

end ClusterGateway
