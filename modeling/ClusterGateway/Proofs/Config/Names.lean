import ClusterGateway.Config.Load
import ClusterGateway.Proofs.Settings.Layers
import ClusterGateway.Proofs.Text.Lowercase

/-!
# The settings by name

Every setting of the configuration has a name, the path of keys that leads to it in a tree of
settings, a kind of value, the value that a configuration has for it and the one it has when
nothing sets it. No path leads through another one, so a tree of settings of the right kinds
has its values exactly at the paths of settings.
-/

namespace ClusterGateway

/-- A value of a setting. -/
inductive SettingValue where
  | text (value : String)
  | flag (value : Bool)
  | word (value : UInt64)
  | texts (values : List String)
  /-- A name that is drawn anew. -/
  | generated
deriving Repr, DecidableEq

/-- What values a setting has. -/
inductive ValueKind where
  | text
  | flag
  | word
  | texts
deriving Repr, DecidableEq

namespace Setting

/-- The text that is written as one. -/
def text? : Setting → Option String
  | .scalar _ (.text value) => some value
  | _ => none

/-- The truth value that is written as one. -/
def flag? : Setting → Option Bool
  | .scalar _ (.flag value) => some value
  | _ => none

/-- The word of 64 bits that is written as a whole number. -/
def word? : Setting → Option UInt64
  | .scalar _ (.whole value) =>
    if 0 ≤ value ∧ value < Int.ofNat (twoTo 64) then some (UInt64.ofNat value.toNat) else none
  | _ => none

/-- The texts that are written as a list of texts. -/
def texts? : Setting → Option (List String)
  | .list _ elements => elements.mapM text?
  | _ => none

end Setting

/-- The value of a kind that is written as one. -/
def ValueKind.read? : ValueKind → Setting → Option SettingValue
  | text, setting => setting.text?.map .text
  | flag, setting => setting.flag?.map .flag
  | word, setting => setting.word?.map .word
  | texts, setting => setting.texts?.map .texts

/-- Settings of a section. -/
inductive KafkaSetting where
  | seedPeers
  | version
deriving Repr, DecidableEq

namespace KafkaSetting

/-- Key in the section. -/
def key : KafkaSetting → String
  | seedPeers => "seed_peers"
  | version => "version"

/-- Kind of the values. -/
def kind : KafkaSetting → ValueKind
  | seedPeers => .texts
  | version => .text

end KafkaSetting

/-- The value of a setting. -/
def KafkaConfig.value (config : KafkaConfig) : KafkaSetting → SettingValue
  | .seedPeers => .texts config.seedPeers
  | .version => .text config.version

/-- Settings of a section. -/
inductive ClientSetting where
  | clientId
  | dialTimeout
  | readTimeout
  | writeTimeout
  | metadataRefresh
deriving Repr, DecidableEq

namespace ClientSetting

/-- Key in the section. -/
def key : ClientSetting → String
  | clientId => "client_id"
  | dialTimeout => "dial_timeout_ms"
  | readTimeout => "read_timeout_ms"
  | writeTimeout => "write_timeout_ms"
  | metadataRefresh => "metadata_refresh_ms"

/-- Kind of the values. -/
def kind : ClientSetting → ValueKind
  | clientId => .text
  | _ => .word

end ClientSetting

/-- The name of a client as the value of a setting. -/
def ClientId.value : ClientId → SettingValue
  | generated => .generated
  | given name => .text name

/-- The value of a setting. -/
def ClientConfig.value (config : ClientConfig) : ClientSetting → SettingValue
  | .clientId => config.clientId.value
  | .dialTimeout => .word config.dialTimeout
  | .readTimeout => .word config.readTimeout
  | .writeTimeout => .word config.writeTimeout
  | .metadataRefresh => .word config.metadataRefresh

/-- Settings of a section. -/
inductive ProducerSetting where
  | channelBufferSize
  | flushFrequency
  | shutdownTimeout
deriving Repr, DecidableEq

/-- Key in the section. -/
def ProducerSetting.key : ProducerSetting → String
  | channelBufferSize => "channel_buffer_size"
  | flushFrequency => "flush_frequency_ms"
  | shutdownTimeout => "shutdown_timeout_ms"

/-- The value of a setting. -/
def ProducerConfig.value (config : ProducerConfig) : ProducerSetting → SettingValue
  | .channelBufferSize => .word config.channelBufferSize
  | .flushFrequency => .word config.flushFrequency
  | .shutdownTimeout => .word config.shutdownTimeout

/-- Settings of a section. -/
inductive ConsumerSetting where
  | longPollingTimeout
  | channelBufferSize
  | ackTimeout
  | offsetsCommitInterval
  | retryBackoff
deriving Repr, DecidableEq

/-- Key in the section. -/
def ConsumerSetting.key : ConsumerSetting → String
  | longPollingTimeout => "long_polling_timeout_ms"
  | channelBufferSize => "channel_buffer_size"
  | ackTimeout => "ack_timeout_ms"
  | offsetsCommitInterval => "offsets_commit_interval_ms"
  | retryBackoff => "retry_backoff_ms"

/-- The value of a setting. -/
def ConsumerConfig.value (config : ConsumerConfig) : ConsumerSetting → SettingValue
  | .longPollingTimeout => .word config.longPollingTimeout
  | .channelBufferSize => .word config.channelBufferSize
  | .ackTimeout => .word config.ackTimeout
  | .offsetsCommitInterval => .word config.offsetsCommitInterval
  | .retryBackoff => .word config.retryBackoff

/-- Settings of a cluster, by section. -/
inductive ClusterSetting where
  | kafka (setting : KafkaSetting)
  | client (setting : ClientSetting)
  | producer (setting : ProducerSetting)
  | consumer (setting : ConsumerSetting)
deriving Repr, DecidableEq

namespace ClusterSetting

/-- Key of the section. -/
def sectionKey : ClusterSetting → String
  | kafka _ => "kafka"
  | client _ => "client"
  | producer _ => "producer"
  | consumer _ => "consumer"

/-- Key in the section. -/
def key : ClusterSetting → String
  | kafka setting => setting.key
  | client setting => setting.key
  | producer setting => setting.key
  | consumer setting => setting.key

/-- Kind of the values. -/
def kind : ClusterSetting → ValueKind
  | kafka setting => setting.kind
  | client setting => setting.kind
  | producer _ => .word
  | consumer _ => .word

/-- Path from the table of the cluster. -/
def path (setting : ClusterSetting) : List String := [setting.sectionKey, setting.key]

/-- All settings of a cluster. -/
def all : List ClusterSetting :=
  [.kafka .seedPeers, .kafka .version, .client .clientId, .client .dialTimeout,
    .client .readTimeout, .client .writeTimeout, .client .metadataRefresh,
    .producer .channelBufferSize, .producer .flushFrequency, .producer .shutdownTimeout,
    .consumer .longPollingTimeout, .consumer .channelBufferSize, .consumer .ackTimeout,
    .consumer .offsetsCommitInterval, .consumer .retryBackoff]

/-- Different settings of a cluster have different paths. -/
theorem path_injective {setting other : ClusterSetting} (same : setting.path = other.path) :
    setting = other := by
  obtain ⟨sectionKey, key⟩ : setting.sectionKey = other.sectionKey ∧ setting.key = other.key := by
    simpa [path] using same
  cases setting <;> cases other <;> simp [ClusterSetting.sectionKey] at sectionKey
  all_goals
    rename_i setting other
    cases setting <;> cases other <;> first | rfl | exact absurd key (by decide)

end ClusterSetting

/-- The value of a setting. -/
def GatewayConfig.value (config : GatewayConfig) : ClusterSetting → SettingValue
  | .kafka setting => config.kafka.value setting
  | .client setting => config.client.value setting
  | .producer setting => config.producer.value setting
  | .consumer setting => config.consumer.value setting

/-- Settings of the configuration. -/
inductive SettingName where
  | defaultCluster
  | logLevel
  | logJson
  | cluster (name : String) (setting : ClusterSetting)
deriving Repr, DecidableEq

namespace SettingName

/-- Path from the root of the settings. -/
def path : SettingName → List String
  | defaultCluster => ["default_cluster"]
  | logLevel => ["logging", "level"]
  | logJson => ["logging", "json"]
  | cluster name setting => "proxies" :: name :: setting.path

/-- Kind of the values. -/
def kind : SettingName → ValueKind
  | defaultCluster => .text
  | logLevel => .text
  | logJson => .flag
  | cluster _ setting => setting.kind

/-- The value that the configuration has where nothing sets it. -/
def preset : SettingName → SettingValue
  | defaultCluster => .text ({} : AppConfig).defaultCluster
  | logLevel => .text ({} : LoggingConfig).level
  | logJson => .flag ({} : LoggingConfig).json
  | cluster _ setting => ({} : GatewayConfig).value setting

/-- Different settings have different paths. -/
theorem path_injective {name other : SettingName} (same : name.path = other.path) :
    name = other := by
  cases name with
  | cluster name setting =>
    cases other with
    | cluster other otherSetting =>
      obtain ⟨rfl, inner⟩ : name = other ∧ setting.path = otherSetting.path := by
        simpa [path] using same
      rw [ClusterSetting.path_injective inner]
    | _ => simp [path] at same
  | _ =>
    cases other <;> simp [path] at same
    rfl

end SettingName

/-- A setting of the configuration itself, or of a cluster whose name is its own lowercase form. -/
def SettingName.IsSmall : SettingName → Prop
  | .cluster name _ => Text.lowercase name = name
  | _ => True

/-- All keys on the path of such a setting are small. -/
theorem lowercase_of_mem_path (name : SettingName) (small : name.IsSmall) :
    ∀ key ∈ name.path, Text.lowercase key = key := by
  cases name with
  | cluster name setting =>
    have sectionKey : Text.lowercase setting.sectionKey = setting.sectionKey := by
      cases setting <;> rw [ClusterSetting.sectionKey] <;>
        exact Text.lowercase_of_plain (by decide)
    have key : Text.lowercase setting.key = setting.key := by
      cases setting <;> rename_i setting <;> cases setting <;>
        exact Text.lowercase_of_plain (by decide)
    simp only [SettingName.path, ClusterSetting.path, List.mem_cons, List.not_mem_nil, or_false]
    rintro _ (rfl | rfl | rfl | rfl)
    · exact Text.lowercase_of_plain (by decide)
    · exact small
    · exact sectionKey
    · exact key
  | _ =>
    simp only [SettingName.path, List.mem_cons, List.not_mem_nil, or_false]
    rintro _ (rfl | rfl) <;> exact Text.lowercase_of_plain (by decide)

/-- The value of a setting, but for those of clusters that are not configured. -/
def AppConfig.value? (config : AppConfig) : SettingName → Option SettingValue
  | .defaultCluster => some (.text config.defaultCluster)
  | .logLevel => some (.text config.logging.level)
  | .logJson => some (.flag config.logging.json)
  | .cluster name setting => (config.proxies.get? name).map fun gateway => gateway.value setting

/-- The path of a setting. -/
def IsSettingPath (path : List String) : Prop := ∃ name : SettingName, path = name.path

/-- No path of a setting leads through another one. -/
theorem prefixFree_isSettingPath : Setting.PrefixFree IsSettingPath := by
  rintro first second ⟨name, rfl⟩ ⟨other, rfl⟩ before
  cases name <;> cases other <;>
    simp_all [SettingName.path, ClusterSetting.path, List.cons_prefix_cons]

namespace Setting

variable {tree node : Setting} {path : List String}

/-- What a tree of settings has at a path: a value of the right kind, or a table on the way to a
setting. -/
def FitsAt (path : List String) (node : Setting) : Prop :=
  (∃ name : SettingName, path = name.path ∧ (name.kind.read? node).isSome = true) ∨
    (node.isTable = true ∧ ¬ IsSettingPath path ∧ ∃ name : SettingName, path <+: name.path)

/-- A tree of the settings' keys with values of the right kinds. -/
def Fits (tree : Setting) : Prop := ∀ path node, tree.at? path = some node → FitsAt path node

/-- What is read as a value is no table. -/
theorem isTable_of_read? {kind : ValueKind} (read : (kind.read? node).isSome = true) :
    node.isTable = false := by
  cases node with
  | table => cases kind <;> simp [ValueKind.read?, text?, flag?, word?, texts?] at read
  | _ => rfl

/-- A tree of settings has its values at the paths of settings. -/
theorem Fits.valuesAt (fits : tree.Fits) : tree.ValuesAt IsSettingPath := by
  intro path node leads
  obtain ⟨name, same, read⟩ | ⟨table, branch, -⟩ := fits path node leads
  · exact ⟨fun _ => isTable_of_read? read, fun _ => ⟨name, same⟩⟩
  · simp [table, branch]

/-- A tree of settings has a value of the right kind at the path of a setting. -/
theorem Fits.read (fits : tree.Fits) (name : SettingName)
    (leads : tree.at? name.path = some node) : (name.kind.read? node).isSome = true := by
  obtain ⟨other, same, read⟩ | ⟨-, branch, -⟩ := fits name.path node leads
  · rwa [SettingName.path_injective same]
  · exact absurd ⟨name, rfl⟩ branch

end Setting

end ClusterGateway
