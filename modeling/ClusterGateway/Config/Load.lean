import ClusterGateway.Config.Validation
import ClusterGateway.Settings.Decode
import ClusterGateway.Settings.Environment
import ClusterGateway.Settings.Files
import ClusterGateway.Settings.Layer

/-!
# Loading the configuration

The configuration is decoded from four layers of settings: presets, a file that all
environments share, the file of one environment, and the environment variables. What they
do not set keeps its preset value, and only a valid configuration is loaded.
-/

namespace ClusterGateway

open Setting

/-- Settings of the section. -/
def KafkaConfig.settings : List (SettingField KafkaConfig) :=
  [field "seed_peers" (toList toText) fun value config => { config with seedPeers := value },
    field "version" toText fun value config => { config with version := value }]

/-- Settings of the section. -/
def ClientConfig.settings : List (SettingField ClientConfig) :=
  [field "client_id" toText fun value config => { config with clientId := .given value },
    field "dial_timeout_ms" toWord fun value config => { config with dialTimeout := value },
    field "read_timeout_ms" toWord fun value config => { config with readTimeout := value },
    field "write_timeout_ms" toWord fun value config => { config with writeTimeout := value },
    field "metadata_refresh_ms" toWord fun value config =>
      { config with metadataRefresh := value }]

/-- Settings of the section. -/
def ProducerConfig.settings : List (SettingField ProducerConfig) :=
  [field "channel_buffer_size" toWord fun value config =>
      { config with channelBufferSize := value },
    field "flush_frequency_ms" toWord fun value config => { config with flushFrequency := value },
    field "shutdown_timeout_ms" toWord fun value config =>
      { config with shutdownTimeout := value }]

/-- Settings of the section. -/
def ConsumerConfig.settings : List (SettingField ConsumerConfig) :=
  [field "long_polling_timeout_ms" toWord fun value config =>
      { config with longPollingTimeout := value },
    field "channel_buffer_size" toWord fun value config =>
      { config with channelBufferSize := value },
    field "ack_timeout_ms" toWord fun value config => { config with ackTimeout := value },
    field "offsets_commit_interval_ms" toWord fun value config =>
      { config with offsetsCommitInterval := value },
    field "retry_backoff_ms" toWord fun value config => { config with retryBackoff := value }]

/-- Sections of the settings of a gateway. -/
def GatewayConfig.settings : List (SettingField GatewayConfig) :=
  [field "kafka" (toRecord {} KafkaConfig.settings) fun value config =>
      { config with kafka := value },
    field "client" (toRecord {} ClientConfig.settings) fun value config =>
      { config with client := value },
    field "producer" (toRecord {} ProducerConfig.settings) fun value config =>
      { config with producer := value },
    field "consumer" (toRecord {} ConsumerConfig.settings) fun value config =>
      { config with consumer := value }]

/-- Settings of the log. -/
def LoggingConfig.settings : List (SettingField LoggingConfig) :=
  [field "level" toText fun value config => { config with level := value },
    field "json" toFlag fun value config => { config with json := value }]

/-- Settings of the whole configuration. -/
def AppConfig.settings : List (SettingField AppConfig) :=
  [field "proxies" (toMap (toRecord {} GatewayConfig.settings)) fun value config =>
      { config with proxies := value },
    field "default_cluster" toText fun value config => { config with defaultCluster := value },
    field "logging" (toRecord {} LoggingConfig.settings) fun value config =>
      { config with logging := value }]

/-- The configuration that settings spell. -/
def AppConfig.ofSetting (setting : Setting) : Except SettingsFault AppConfig :=
  toRecord {} AppConfig.settings setting

/-- The lowest layer. -/
def AppConfig.presetSettings : List (String × Setting) :=
  [("default_cluster", unwritten (.text defaultClusterName)),
    ("logging.level", unwritten (.text "info")), ("logging.json", unwritten (.flag false))]

/-- The variable that names the file of the environment. -/
def environmentVariable : String := "BROKER_PROXY_ENV"

/-- The file of the environment where no variable names one. -/
def presetEnvironment : String := "development"

/-- The path of a file of settings in a directory. -/
def settingsPath (directory name : String) : String :=
  if name.toList.head? == some '/' then name else directory ++ "/" ++ name

/-- The four layers, the lowest first. -/
def AppConfig.layers (files : FileTree) (directory : String) (environment : Environment) :
    Except SettingsFault (List (List (String × Setting))) := do
  let own := (environment.lookup environmentVariable).getD presetEnvironment
  let shared ← files.settings (settingsPath directory "default.toml")
  let own ← files.settings (settingsPath directory own)
  .ok [AppConfig.presetSettings, shared, own, environment.settings]

/-- The configuration of a directory and of the environment variables. -/
def AppConfig.load (files : FileTree) (directory : String) (environment : Environment) :
    Except Error AppConfig :=
  match (AppConfig.layers files directory environment).bind fun layers =>
      AppConfig.ofSetting (ofLayers layers) with
  | .error fault => .error (.settings fault)
  | .ok config =>
    if config.faults.isEmpty then .ok config else .error (.invalidConfiguration config.faults)

/-- A configuration that was loaded is valid. -/
theorem AppConfig.isValid_of_load {files : FileTree} {directory : String}
    {environment : Environment} {config : AppConfig}
    (loaded : AppConfig.load files directory environment = .ok config) :
    config.isValid = true := by
  unfold AppConfig.load at loaded
  split at loaded
  · simp at loaded
  · split at loaded
    · rename_i valid
      cases loaded
      exact valid
    · simp at loaded

end ClusterGateway
