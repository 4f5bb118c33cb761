import ClusterGateway.Config.Basic
import ClusterGateway.KeyOrder
import ClusterGateway.Text.Blank
import ClusterGateway.Text.Quoted

/-!
# Validation of a configuration

Every violated condition has its own message. The messages of a gateway come in a fixed
order; those of all gateways come after the ones about the set of clusters, in ascending
order of the cluster names and with the name in front.
-/

namespace ClusterGateway

/-- A generated client name is never blank. -/
def ClientId.isBlank : ClientId → Bool
  | .generated => false
  | .given name => Text.isBlank name

/-- The message of a condition that is violated. -/
def messageIf (violated : Bool) (message : String) : List String :=
  if violated then [message] else []

/-- Messages of the violated conditions of one gateway. -/
def GatewayConfig.faults (config : GatewayConfig) : List String :=
  messageIf config.kafka.seedPeers.isEmpty "kafka.seed_peers must not be empty" ++
  messageIf (config.kafka.seedPeers.any Text.isBlank)
    "kafka.seed_peers must not contain blank addresses" ++
  messageIf config.client.clientId.isBlank "client.client_id must not be empty" ++
  messageIf (config.consumer.longPollingTimeout == 0)
    "consumer.long_polling_timeout_ms must be positive" ++
  messageIf (config.consumer.channelBufferSize == 0)
    "consumer.channel_buffer_size must be positive" ++
  messageIf (config.producer.channelBufferSize == 0)
    "producer.channel_buffer_size must be positive"

/-- Messages about the set of clusters. -/
def AppConfig.clusterFaults (config : AppConfig) : List String :=
  if config.proxies.entries.isEmpty then ["at least one proxy must be configured"]
  else
    messageIf config.defaultProxy?.isNone
      ("default cluster " ++ Text.quoted config.defaultCluster ++ " has no proxy configuration")

/-- Messages of all violated conditions. -/
def AppConfig.faults (config : AppConfig) : List String :=
  config.clusterFaults ++
    (KeyOrder.sort config.proxies.entries).flatMap fun (cluster, proxy) =>
      proxy.faults.map fun fault => cluster ++ ": " ++ fault

/-- A configuration is valid when no condition is violated. -/
def AppConfig.isValid (config : AppConfig) : Bool := config.faults.isEmpty

/-- The preset configuration is valid. -/
theorem AppConfig.isValid_preset : ({} : AppConfig).isValid = true := by decide

end ClusterGateway
