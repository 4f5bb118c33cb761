import ClusterGateway.Json.Decode

/-!
# Topics, partitions and offsets

What the administration of a cluster tells about its topics, with the JSON form of each
record. Only the configuration and the partitions of a topic may be left out of it; the
configuration is left out when it is absent, the partitions when there are none.
-/

namespace ClusterGateway

open Json

/-- A signed word as JSON. -/
def Json.ofInt32 (value : Int32) : Json := .int value.toInt

/-- A signed double word as JSON. -/
def Json.ofInt64 (value : Int64) : Json := .int value.toInt

/-- Offset range of a partition with the offset that a group has committed. -/
structure PartitionOffset where
  partition : Int32 := 0
  start : Int64 := 0
  finish : Int64 := 0
  count : Int64 := 0
  offset : Int64 := 0
  lag : Int64 := 0
  metadata : String := ""
deriving Repr, DecidableEq

/-- Replicas of a partition. -/
structure PartitionMetadata where
  id : Int32 := 0
  leader : Int32 := 0
  replicas : List Int32 := []
  inSync : List Int32 := []
deriving Repr, DecidableEq

/-- Configuration of a topic, by the names of its settings. -/
structure TopicConfig where
  version : Int32 := 0
  settings : NameMap String := .empty
deriving Repr, DecidableEq

/-- What is known of a topic. -/
structure TopicMetadata where
  topic : String := ""
  config : Option TopicConfig := none
  partitions : List PartitionMetadata := []
deriving Repr, DecidableEq

/-- Partitions that each client of a group consumes. -/
abbrev TopicConsumers := List (String × List Int32)

/-- The offsets of a partition as JSON. -/
def PartitionOffset.toJson (value : PartitionOffset) : Json :=
  .obj [("partition", ofInt32 value.partition), ("begin", ofInt64 value.start),
    ("end", ofInt64 value.finish), ("count", ofInt64 value.count),
    ("offset", ofInt64 value.offset), ("lag", ofInt64 value.lag),
    ("metadata", .str value.metadata)]

/-- Fields of the offsets of a partition. -/
def PartitionOffset.fields : List (RecordField PartitionOffset) :=
  [requiredField "partition" decodeInt32 fun value record => { record with partition := value },
    requiredField "begin" decodeInt64 fun value record => { record with start := value },
    requiredField "end" decodeInt64 fun value record => { record with finish := value },
    requiredField "count" decodeInt64 fun value record => { record with count := value },
    requiredField "offset" decodeInt64 fun value record => { record with offset := value },
    requiredField "lag" decodeInt64 fun value record => { record with lag := value },
    requiredField "metadata" decodeText fun value record => { record with metadata := value }]

/-- The offsets of a partition from JSON. -/
def PartitionOffset.ofJson : Json → Except DecodeError PartitionOffset :=
  decodeRecord {} PartitionOffset.fields

/-- The replicas of a partition as JSON. -/
def PartitionMetadata.toJson (value : PartitionMetadata) : Json :=
  .obj [("id", ofInt32 value.id), ("leader", ofInt32 value.leader),
    ("replicas", .arr (value.replicas.map ofInt32)), ("isr", .arr (value.inSync.map ofInt32))]

/-- Fields of the replicas of a partition. -/
def PartitionMetadata.fields : List (RecordField PartitionMetadata) :=
  [requiredField "id" decodeInt32 fun value record => { record with id := value },
    requiredField "leader" decodeInt32 fun value record => { record with leader := value },
    requiredField "replicas" (decodeList decodeInt32) fun value record =>
      { record with replicas := value },
    requiredField "isr" (decodeList decodeInt32) fun value record =>
      { record with inSync := value }]

/-- The replicas of a partition from JSON. -/
def PartitionMetadata.ofJson : Json → Except DecodeError PartitionMetadata :=
  decodeRecord {} PartitionMetadata.fields

/-- The configuration of a topic as JSON. -/
def TopicConfig.toJson (value : TopicConfig) : Json :=
  .obj [("version", ofInt32 value.version),
    ("config", .obj (value.settings.mapValues Json.str).entries)]

/-- Fields of the configuration of a topic. -/
def TopicConfig.fields : List (RecordField TopicConfig) :=
  [requiredField "version" decodeInt32 fun value record => { record with version := value },
    requiredField "config" (decodeMap decodeText) fun value record =>
      { record with settings := value }]

/-- The configuration of a topic from JSON. -/
def TopicConfig.ofJson : Json → Except DecodeError TopicConfig :=
  decodeRecord {} TopicConfig.fields

/-- The member of a topic's configuration, if it has one. -/
def TopicMetadata.configMember (value : TopicMetadata) : List (String × Json) :=
  match value.config with
  | some config => [("config", config.toJson)]
  | none => []

/-- The member of a topic's partitions, if there are any. -/
def TopicMetadata.partitionsMember (value : TopicMetadata) : List (String × Json) :=
  if value.partitions.isEmpty then []
  else [("partitions", .arr (value.partitions.map PartitionMetadata.toJson))]

/-- A topic as JSON. -/
def TopicMetadata.toJson (value : TopicMetadata) : Json :=
  .obj (("topic", .str value.topic) :: value.configMember ++ value.partitionsMember)

/-- Fields of a topic. In an object the configuration may be left out; in an array it has
to be there, be it null. -/
def TopicMetadata.fields (inArray : Bool) : List (RecordField TopicMetadata) :=
  [requiredField "topic" decodeText fun value record => { record with topic := value },
    ⟨"config", !inArray, fun json => (decodeOption TopicConfig.ofJson json).map
      fun value record => { record with config := value }⟩,
    presetField "partitions" (decodeList PartitionMetadata.ofJson) fun value record =>
      { record with partitions := value }]

/-- A topic from JSON. -/
def TopicMetadata.ofJson : Json → Except DecodeError TopicMetadata
  | .arr elements => decodeRecord {} (TopicMetadata.fields true) (.arr elements)
  | json => decodeRecord {} (TopicMetadata.fields false) json

end ClusterGateway
