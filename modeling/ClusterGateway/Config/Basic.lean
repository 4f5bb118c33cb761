import ClusterGateway.NameMap

/-!
# Configuration

One gateway per cluster, each with its own sections, the name of the cluster that serves
requests which name none, and the log. Every setting has a preset value. All times are
in milliseconds.
-/

namespace ClusterGateway

/-- Name that a client of the cluster gives itself. A generated one is drawn anew
wherever none was given. -/
inductive ClientId where
  | generated
  | given (name : String)
deriving Repr, DecidableEq

/-- Two names agree when both were given and are the same; a generated name agrees with
no other. -/
def ClientId.agrees : ClientId → ClientId → Bool
  | .given left, .given right => left == right
  | _, _ => false

/-- Where the cluster is and which protocol it speaks. -/
structure KafkaConfig where
  seedPeers : List String := ["localhost:9092"]
  version : String := "0.10.2.1"
deriving Repr, DecidableEq

/-- Options of the connection to the cluster. -/
structure ClientConfig where
  clientId : ClientId := .generated
  dialTimeout : UInt64 := 30000
  readTimeout : UInt64 := 30000
  writeTimeout : UInt64 := 30000
  metadataRefresh : UInt64 := 600000
deriving Repr, DecidableEq

/-- Options of the producer. -/
structure ProducerConfig where
  channelBufferSize : UInt64 := 4096
  flushFrequency : UInt64 := 500
  shutdownTimeout : UInt64 := 30000
deriving Repr, DecidableEq

/-- Options of the consumer. The long polling timeout bounds a fetch inside the consumer
and the delivery of an acknowledgement. -/
structure ConsumerConfig where
  longPollingTimeout : UInt64 := 3000
  channelBufferSize : UInt64 := 64
  ackTimeout : UInt64 := 300000
  offsetsCommitInterval : UInt64 := 500
  retryBackoff : UInt64 := 500
deriving Repr, DecidableEq

/-- Configuration of the gateway of one cluster. -/
structure GatewayConfig where
  kafka : KafkaConfig := {}
  client : ClientConfig := {}
  producer : ProducerConfig := {}
  consumer : ConsumerConfig := {}
deriving Repr, DecidableEq

/-- Options of the log. -/
structure LoggingConfig where
  level : String := "info"
  json : Bool := false
deriving Repr, DecidableEq

/-- Name of the cluster that is there when none is configured. -/
def defaultClusterName : String := "default"

/-- Configuration of all gateways, by the names of their clusters. -/
structure AppConfig where
  proxies : NameMap GatewayConfig := .singleton defaultClusterName {}
  defaultCluster : String := defaultClusterName
  logging : LoggingConfig := {}
deriving Repr, DecidableEq

/-- Configuration of the default cluster, if there is one of that name. -/
def AppConfig.defaultProxy? (config : AppConfig) : Option GatewayConfig :=
  config.proxies.get? config.defaultCluster

end ClusterGateway
