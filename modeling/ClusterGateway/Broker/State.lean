import ClusterGateway.Broker.Script
import ClusterGateway.Partitioner
import ClusterGateway.Routing
import ClusterGateway.Session

/-!
# State of a cluster

One cluster in memory per gateway. It keeps everything that was handed to it: the
messages submitted, the requests of consumers, the administrative calls and the stops of
its components. A partition has one session at a time; a message carries the session of
its partition, which is created when it is needed.
-/

namespace ClusterGateway

/-- A message as a consumer gets it, with the session that takes its acknowledgement. -/
structure Message where
  topic : String
  partition : Int32
  offset : Int64
  highWaterMark : Int64
  key : Option Bytes
  value : Bytes
  session : SessionId
deriving Repr, DecidableEq

/-- What comes of a request: an answer, or nothing because the request was dropped. -/
inductive Answer (α : Type) where
  | reply (result : Except Error α)
  | dropped
deriving Repr

/-- A message submitted to the producer. -/
structure Submission where
  topic : String
  key : Option Bytes
  value : Bytes
deriving Repr, DecidableEq

/-- An administrative call. -/
inductive AdminCall where
  | groupOffsets (group topic : String)
  | setGroupOffsets (group topic : String) (offsets : List PartitionOffset)
  | topicConsumers (group topic : String)
  | allTopicConsumers (topic : String)
  | listTopics (withPartitions withConfig : Bool)
  | topicMetadata (topic : String) (withPartitions withConfig : Bool)
deriving Repr, DecidableEq

/-- What an administrative call yields. -/
inductive AdminReply where
  | done
  | offsets (offsets : List PartitionOffset)
  | consumers (consumers : TopicConsumers)
  | allConsumers (consumers : List (String × TopicConsumers))
  | topics (topics : List TopicMetadata)
  | topic (topic : TopicMetadata)
deriving Repr, DecidableEq

/-- A line of the record of stops. -/
structure StopLine where
  time : Nat
  component : Component
  /-- The stop has ended; otherwise it has begun. -/
  ended : Bool
deriving Repr, DecidableEq

/-- The sessions of one partition, the oldest first. -/
structure Lane where
  generations : List SessionId := []
  /-- The last session is the one that new messages carry. -/
  current : Bool := false
deriving Repr

/-- A cluster in memory. -/
structure Broker where
  submissions : List Submission := []
  nextOffset : Nat := 0
  /-- Deliveries by group and topic. -/
  queues : List ((String × String) × List QueuedDelivery) := []
  /-- Group and topic of every request of a consumer. -/
  requests : List (String × String) := []
  sessions : List Session := []
  lanes : List (RoutingKey × Lane) := []
  committed : List ((String × String) × List PartitionOffset) := []
  adminCalls : List AdminCall := []
  stops : List StopLine := []
deriving Repr

namespace Broker

/-- A message is submitted. What becomes of it is settled at once and told after a delay. -/
def submit (broker : Broker) (script : BrokerScript) (submission : Submission) :
    Broker × Answer Receipt × Nat :=
  let recorded := { broker with submissions := broker.submissions ++ [submission] }
  match script.topics.lookup submission.topic with
  | none => (recorded, .reply (.error (.unknownTopic submission.topic)), 0)
  | some topic =>
    let turn := topic.turn (broker.submissions.countP (·.topic == submission.topic))
    match turn.fate with
    | .drop => (recorded, .dropped, turn.delay)
    | .reject error => (recorded, .reply (.error error), turn.delay)
    | .confirm receipt => (recorded, .reply (.ok receipt), turn.delay)
    | .accept =>
      let receipt : Receipt :=
        { topic := submission.topic
          partition := (Partitioner.choose submission.key topic.partitions).getD 0
          offset := Int64.ofNat broker.nextOffset
          key := submission.key
          value := submission.value }
      ({ recorded with nextOffset := broker.nextOffset + 1 }, .reply (.ok receipt), turn.delay)

/-- A message that is submitted is recorded, and may take an offset. -/
theorem exists_submit (script : BrokerScript) (broker : Broker) (submission : Submission) :
    ∃ nextOffset, (broker.submit script submission).1 =
      { broker with
        submissions := broker.submissions ++ [submission]
        nextOffset := nextOffset } := by
  unfold submit
  dsimp only
  split
  · exact ⟨broker.nextOffset, rfl⟩
  · split
    · exact ⟨broker.nextOffset, rfl⟩
    · exact ⟨broker.nextOffset, rfl⟩
    · exact ⟨broker.nextOffset, rfl⟩
    · exact ⟨broker.nextOffset + 1, rfl⟩

/-- The sessions of a partition. -/
def lane (broker : Broker) (key : RoutingKey) : Lane := (broker.lanes.lookup key).getD {}

/-- The session that the next message of a partition carries; it is created if needed. -/
def currentSession (broker : Broker) (script : BrokerScript) (key : RoutingKey) :
    Broker × SessionId :=
  let lane := broker.lane key
  match lane.current, lane.generations.getLast? with
  | true, some session => (broker, session)
  | _, _ =>
    let session := broker.sessions.length
    ({ broker with
        sessions := broker.sessions ++ [.new script.sessionBuffer]
        lanes := assign key ⟨lane.generations ++ [session], true⟩ broker.lanes }, session)

/-- The next message of a partition gets a session of its own; its number is told. -/
def renewSession (broker : Broker) (key : RoutingKey) : Broker × Nat :=
  let lane := broker.lane key
  ({ broker with lanes := assign key { lane with current := false } broker.lanes },
    lane.generations.length)

/-- The session of a generation of a partition, or of its last one. -/
def generation? (broker : Broker) (key : RoutingKey) (generation : Option Nat) :
    Option SessionId :=
  let generations := (broker.lane key).generations
  match generation with
  | some number => generations[number]?
  | none => generations.getLast?

/-- Deliveries waiting for a group and a topic. -/
def queue (broker : Broker) (group topic : String) : List QueuedDelivery :=
  (broker.queues.lookup (group, topic)).getD []

/-- Puts deliveries at the end of a queue. -/
def enqueue (broker : Broker) (group topic : String) (items : List QueuedDelivery) : Broker :=
  { broker with
    queues := assign (group, topic) (broker.queue group topic ++ items) broker.queues }

/-- What a delivery answers to the request that takes it. -/
def deliver (broker : Broker) (script : BrokerScript) (group topic : String) :
    Delivery → Broker × Answer Message
  | .drop => (broker, .dropped)
  | .failure error => (broker, .reply (.error error))
  | .message given partition offset highWaterMark key value =>
    let (after, session) := broker.currentSession script ⟨group, topic, partition⟩
    (after, .reply (.ok
      { topic := given.getD topic
        partition := partition
        offset := offset
        highWaterMark := highWaterMark
        key := key
        value := value
        session := session }))

/-- A consumer asks for a message. It takes the first delivery of its queue, or fails when
the queue has stayed empty for the poll timeout. -/
def fetch (broker : Broker) (script : BrokerScript) (group topic : String) :
    Broker × Answer Message × Nat :=
  let recorded := { broker with requests := broker.requests ++ [(group, topic)] }
  match broker.queue group topic with
  | [] => (recorded, .reply (.error .requestTimeout), script.pollTimeout)
  | item :: rest =>
    let popped := { recorded with queues := assign (group, topic) rest recorded.queues }
    let (after, answer) := popped.deliver script group topic item.delivery
    (after, answer, item.delay)

/-- Changes one session. -/
def onSession (broker : Broker) (session : SessionId) (change : Session → Session) : Broker :=
  { broker with sessions := broker.sessions.modify session change }

/-- Records an administrative call. -/
def recordCall (broker : Broker) (call : AdminCall) : Broker :=
  { broker with adminCalls := broker.adminCalls ++ [call] }

/-- Records that the stop of a component has begun or ended. -/
def recordStop (broker : Broker) (line : StopLine) : Broker :=
  { broker with stops := broker.stops ++ [line] }

end Broker

/-- A topic without the parts that were not asked for. -/
def TopicMetadata.trim (topic : TopicMetadata) (withPartitions withConfig : Bool) :
    TopicMetadata :=
  { topic with
    config := if withConfig then topic.config else none
    partitions := if withPartitions then topic.partitions else [] }

namespace AdminCall

/-- Name of a call. -/
def name : AdminCall → String
  | groupOffsets _ _ => "get_group_offsets"
  | setGroupOffsets _ _ _ => "set_group_offsets"
  | topicConsumers _ _ => "get_topic_consumers"
  | allTopicConsumers _ => "get_all_topic_consumers"
  | listTopics _ _ => "list_topics"
  | topicMetadata _ _ _ => "get_topic_metadata"

/-- Arguments of a call; of a list of offsets only the length is told. -/
def arguments : AdminCall → List Json
  | groupOffsets group topic => [.str group, .str topic]
  | setGroupOffsets group topic offsets =>
    [.str group, .str topic, .int (Int.ofNat offsets.length)]
  | topicConsumers group topic => [.str group, .str topic]
  | allTopicConsumers topic => [.str topic]
  | listTopics withPartitions withConfig => [.bool withPartitions, .bool withConfig]
  | topicMetadata topic withPartitions withConfig =>
    [.str topic, .bool withPartitions, .bool withConfig]

/-- A call as it is recorded: its name and its arguments. -/
def text (call : AdminCall) : String := call.name ++ (Json.arr call.arguments).compress

end AdminCall

/-- What a cluster answers to an administrative call, once its delay is over. -/
def Broker.answer (broker : Broker) (script : BrokerScript) (call : AdminCall) :
    Broker × Except Error AdminReply :=
  match script.adminErrors.lookup call.name with
  | some error => (broker, .error error)
  | none =>
    match call with
    | .groupOffsets group topic =>
      match broker.committed.lookup (group, topic) with
      | some offsets => (broker, .ok (.offsets offsets))
      | none => (broker, .error (.unknownTopic topic))
    | .setGroupOffsets group topic offsets =>
      ({ broker with committed := assign (group, topic) offsets broker.committed }, .ok .done)
    | .topicConsumers group topic =>
      (broker, .ok (.consumers
        ((((script.consumers.lookup topic).getD []).lookup group).getD [])))
    | .allTopicConsumers topic =>
      (broker, .ok (.allConsumers ((script.consumers.lookup topic).getD [])))
    | .listTopics withPartitions withConfig =>
      (broker, .ok (.topics (script.knownTopics.map (·.trim withPartitions withConfig))))
    | .topicMetadata topic withPartitions withConfig =>
      match script.knownTopics.find? (·.topic == topic) with
      | some known => (broker, .ok (.topic (known.trim withPartitions withConfig)))
      | none => (broker, .error (.unknownTopic topic))

end ClusterGateway
