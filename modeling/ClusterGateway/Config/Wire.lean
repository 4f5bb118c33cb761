import ClusterGateway.Config.Basic
import ClusterGateway.Json.Decode

/-!
# Configuration as JSON

A configuration is written with every field and read with any of them left out; what is
left out takes the preset value of the section that holds it.
-/

namespace ClusterGateway

open Json

/-- A word as JSON. -/
def Json.ofUInt64 (value : UInt64) : Json := .int (Int.ofNat value.toNat)

/-- Text of a client name; a generated one is shown by a mark. -/
def ClientId.text : ClientId → String
  | .generated => "<generated>"
  | .given name => name

/-- The section as JSON. -/
def KafkaConfig.toJson (config : KafkaConfig) : Json :=
  .obj [("seed_peers", .arr (config.seedPeers.map .str)), ("version", .str config.version)]

/-- Fields of the section. -/
def KafkaConfig.fields : List (RecordField KafkaConfig) :=
  [presetField "seed_peers" (decodeList decodeText) fun value config =>
      { config with seedPeers := value },
    presetField "version" decodeText fun value config => { config with version := value }]

/-- The section as JSON. -/
def ClientConfig.toJson (config : ClientConfig) : Json :=
  .obj [("client_id", .str config.clientId.text), ("dial_timeout_ms", ofUInt64 config.dialTimeout),
    ("read_timeout_ms", ofUInt64 config.readTimeout),
    ("write_timeout_ms", ofUInt64 config.writeTimeout),
    ("metadata_refresh_ms", ofUInt64 config.metadataRefresh)]

/-- Fields of the section. -/
def ClientConfig.fields : List (RecordField ClientConfig) :=
  [presetField "client_id" decodeText fun value config => { config with clientId := .given value },
    presetField "dial_timeout_ms" decodeUInt64 fun value config =>
      { config with dialTimeout := value },
    presetField "read_timeout_ms" decodeUInt64 fun value config =>
      { config with readTimeout := value },
    presetField "write_timeout_ms" decodeUInt64 fun value config =>
      { config with writeTimeout := value },
    presetField "metadata_refresh_ms" decodeUInt64 fun value config =>
      { config with metadataRefresh := value }]

/-- The section as JSON. -/
def ProducerConfig.toJson (config : ProducerConfig) : Json :=
  .obj [("channel_buffer_size", ofUInt64 config.channelBufferSize),
    ("flush_frequency_ms", ofUInt64 config.flushFrequency),
    ("shutdown_timeout_ms", ofUInt64 config.shutdownTimeout)]

/-- Fields of the section. -/
def ProducerConfig.fields : List (RecordField ProducerConfig) :=
  [presetField "channel_buffer_size" decodeUInt64 fun value config =>
      { config with channelBufferSize := value },
    presetField "flush_frequency_ms" decodeUInt64 fun value config =>
      { config with flushFrequency := value },
    presetField "shutdown_timeout_ms" decodeUInt64 fun value config =>
      { config with shutdownTimeout := value }]

/-- The section as JSON. -/
def ConsumerConfig.toJson (config : ConsumerConfig) : Json :=
  .obj [("long_polling_timeout_ms", ofUInt64 config.longPollingTimeout),
    ("channel_buffer_size", ofUInt64 config.channelBufferSize),
    ("ack_timeout_ms", ofUInt64 config.ackTimeout),
    ("offsets_commit_interval_ms", ofUInt64 config.offsetsCommitInterval),
    ("retry_backoff_ms", ofUInt64 config.retryBackoff)]

/-- Fields of the section. -/
def ConsumerConfig.fields : List (RecordField ConsumerConfig) :=
  [presetField "long_polling_timeout_ms" decodeUInt64 fun value config =>
      { config with longPollingTimeout := value },
    presetField "channel_buffer_size" decodeUInt64 fun value config =>
      { config with channelBufferSize := value },
    presetField "ack_timeout_ms" decodeUInt64 fun value config =>
      { config with ackTimeout := value },
    presetField "offsets_commit_interval_ms" decodeUInt64 fun value config =>
      { config with offsetsCommitInterval := value },
    presetField "retry_backoff_ms" decodeUInt64 fun value config =>
      { config with retryBackoff := value }]

/-- The configuration of a gateway as JSON. -/
def GatewayConfig.toJson (config : GatewayConfig) : Json :=
  .obj [("kafka", config.kafka.toJson), ("client", config.client.toJson),
    ("producer", config.producer.toJson), ("consumer", config.consumer.toJson)]

/-- Sections of the configuration of a gateway. -/
def GatewayConfig.fields : List (RecordField GatewayConfig) :=
  [presetField "kafka" (decodeRecord {} KafkaConfig.fields) fun value config =>
      { config with kafka := value },
    presetField "client" (decodeRecord {} ClientConfig.fields) fun value config =>
      { config with client := value },
    presetField "producer" (decodeRecord {} ProducerConfig.fields) fun value config =>
      { config with producer := value },
    presetField "consumer" (decodeRecord {} ConsumerConfig.fields) fun value config =>
      { config with consumer := value }]

/-- The configuration of a gateway from JSON. -/
def GatewayConfig.ofJson : Json → Except DecodeError GatewayConfig :=
  decodeRecord {} GatewayConfig.fields

/-- The options of the log as JSON. -/
def LoggingConfig.toJson (config : LoggingConfig) : Json :=
  .obj [("level", .str config.level), ("json", .bool config.json)]

/-- Fields of the options of the log. -/
def LoggingConfig.fields : List (RecordField LoggingConfig) :=
  [presetField "level" decodeText fun value config => { config with level := value },
    presetField "json" decodeBool fun value config => { config with json := value }]

/-- The options of the log from JSON. -/
def LoggingConfig.ofJson : Json → Except DecodeError LoggingConfig :=
  decodeRecord {} LoggingConfig.fields

/-- The whole configuration as JSON. -/
def AppConfig.toJson (config : AppConfig) : Json :=
  .obj [("proxies", .obj (config.proxies.mapValues GatewayConfig.toJson).entries),
    ("default_cluster", .str config.defaultCluster), ("logging", config.logging.toJson)]

/-- Fields of the whole configuration. -/
def AppConfig.fields : List (RecordField AppConfig) :=
  [presetField "proxies" (decodeMap GatewayConfig.ofJson) fun value config =>
      { config with proxies := value },
    presetField "default_cluster" decodeText fun value config =>
      { config with defaultCluster := value },
    presetField "logging" LoggingConfig.ofJson fun value config =>
      { config with logging := value }]

/-- The whole configuration from JSON. -/
def AppConfig.ofJson : Json → Except DecodeError AppConfig :=
  decodeRecord {} AppConfig.fields

end ClusterGateway
