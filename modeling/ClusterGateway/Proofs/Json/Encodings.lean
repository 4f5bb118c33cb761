import ClusterGateway.Proofs.Json.Shedding

/-!
# Encodings read back

Every record is read back from its encoding as it was. A configuration is also read from an
encoding that has lost some of its fields, at any depth, and has got others that nobody knows:
what is lost has the preset value of the section that it was lost from, and all else is as it
was. Main statement: `encodings_read_back`.
-/

namespace ClusterGateway

open Json

/-- The fields of the offsets of a partition do not meddle with each other. -/
theorem PartitionOffset.separate : Separate fields := by
  refine ⟨by decide, ?_⟩
  simp only [fields, requiredField, List.pairwise_cons, List.forall_mem_cons, List.not_mem_nil,
    IsEmpty.forall_iff, implies_true, List.Pairwise.nil, and_true]
  and_intros <;> exact RecordField.commutes_of_set fun _ _ _ => rfl

/-- The offsets of a partition are read back. -/
theorem PartitionOffset.ofJson_toJson (value : PartitionOffset) :
    ofJson value.toJson = .ok value := by
  rw [ofJson, toJson]
  refine Eq.trans (decodeRecord_of_reads {} separate ?_
    (.cons (.required rfl (decodeInt32_ofInt32 value.partition))
    (.cons (.required rfl (decodeInt64_ofInt64 value.start))
    (.cons (.required rfl (decodeInt64_ofInt64 value.finish))
    (.cons (.required rfl (decodeInt64_ofInt64 value.count))
    (.cons (.required rfl (decodeInt64_ofInt64 value.offset))
    (.cons (.required rfl (decodeInt64_ofInt64 value.lag))
    (.cons (.required rfl (decodeText_str value.metadata)) .nil)))))))) rfl
  simp

/-- The fields of the replicas of a partition do not meddle with each other. -/
theorem PartitionMetadata.separate : Separate fields := by
  refine ⟨by decide, ?_⟩
  simp only [fields, requiredField, List.pairwise_cons, List.forall_mem_cons, List.not_mem_nil,
    IsEmpty.forall_iff, implies_true, List.Pairwise.nil, and_true]
  and_intros <;> exact RecordField.commutes_of_set fun _ _ _ => rfl

/-- The replicas of a partition are read back. -/
theorem PartitionMetadata.ofJson_toJson (value : PartitionMetadata) :
    ofJson value.toJson = .ok value := by
  rw [ofJson, toJson]
  refine Eq.trans (decodeRecord_of_reads {} separate ?_
    (.cons (.required rfl (decodeInt32_ofInt32 value.id))
    (.cons (.required rfl (decodeInt32_ofInt32 value.leader))
    (.cons (.required rfl (decodeList_map decodeInt32_ofInt32 value.replicas))
    (.cons (.required rfl (decodeList_map decodeInt32_ofInt32 value.inSync)) .nil))))) rfl
  simp

/-- The fields of the configuration of a topic do not meddle with each other. -/
theorem TopicConfig.separate : Separate fields := by
  refine ⟨by decide, ?_⟩
  simp only [fields, requiredField, List.pairwise_cons, List.forall_mem_cons, List.not_mem_nil,
    IsEmpty.forall_iff, implies_true, List.Pairwise.nil, and_true]
  exact RecordField.commutes_of_set fun _ _ _ => rfl

/-- The configuration of a topic is read back. -/
theorem TopicConfig.ofJson_toJson (value : TopicConfig) : ofJson value.toJson = .ok value := by
  have settings : decodeMap decodeText (.obj (value.settings.mapValues Json.str).entries) =
      .ok value.settings :=
    decodeMap_ok (by simp [NameMap.mapValues, decodeText])
  rw [ofJson, toJson]
  refine Eq.trans (decodeRecord_of_reads {} separate ?_
    (.cons (.required rfl (decodeInt32_ofInt32 value.version))
    (.cons (.required rfl settings) .nil))) rfl
  simp

/-- The fields of a topic do not meddle with each other. -/
theorem TopicMetadata.separate : Separate (fields false) := by
  refine ⟨by decide, ?_⟩
  simp only [fields, requiredField, presetField, List.pairwise_cons, List.forall_mem_cons,
    List.not_mem_nil, IsEmpty.forall_iff, implies_true, List.Pairwise.nil, and_true]
  and_intros <;> exact RecordField.commutes_of_set fun _ _ _ => rfl

/-- A topic is read back, be its configuration and its partitions there or left out. -/
theorem TopicMetadata.ofJson_toJson (value : TopicMetadata) : ofJson value.toJson = .ok value := by
  obtain ⟨topic, config, partitions⟩ := value
  show decodeRecord {} (fields false) (.obj _) = _
  generalize whole : ("topic", Json.str topic) ::
    (TopicMetadata.mk topic config partitions).configMember ++
    (TopicMetadata.mk topic config partitions).partitionsMember = members
  have distinct : (members.map (·.1)).Nodup := by
    rw [← whole]
    cases config <;> cases partitions <;> simp [configMember, partitionsMember]
  have named : members.lookup "topic" = some (.str topic) := by
    rw [← whole]
    rfl
  have setting : members.lookup "config" = config.map TopicConfig.toJson := by
    rw [← whole]
    cases config <;> cases partitions <;> rfl
  have parts : members.lookup "partitions" = if partitions.isEmpty then none
      else some (.arr (partitions.map PartitionMetadata.toJson)) := by
    rw [← whole]
    cases config <;> cases partitions <;> rfl
  have replicas := decodeList_map PartitionMetadata.ofJson_toJson partitions
  cases config with
  | none =>
    refine Eq.trans (decodeRecord_of_reads {} separate distinct
      (.cons (.required named (decodeText_str topic))
      (.cons (.lost setting rfl)
      (.cons (.preset parts fun _ => replicas) .nil)))) ?_
    cases partitions <;> rfl
  | some config =>
    have read : decodeOption TopicConfig.ofJson config.toJson = .ok (some config) :=
      congrArg (Except.map some) config.ofJson_toJson
    refine Eq.trans (decodeRecord_of_reads {} separate distinct
      (.cons (.required named (decodeText_str topic))
      (.cons (.kept setting (congrArg (Except.map _) read))
      (.cons (.preset parts fun _ => replicas) .nil)))) ?_
    cases partitions <;> rfl

/-- What an encoding of the section is made of. -/
def KafkaConfig.shape : Shape := .record [("seed_peers", .leaf), ("version", .leaf)]

/-- The section with the preset values in the place of the fields that are removed. -/
def KafkaConfig.without (removed : List String → Bool) (config : KafkaConfig) : KafkaConfig where
  seedPeers := if removed ["seed_peers"] then ({} : KafkaConfig).seedPeers else config.seedPeers
  version := if removed ["version"] then ({} : KafkaConfig).version else config.version

/-- The fields of the section do not meddle with each other. -/
theorem KafkaConfig.separate : Separate fields := by
  refine ⟨by decide, ?_⟩
  simp only [fields, presetField, List.pairwise_cons, List.forall_mem_cons, List.not_mem_nil,
    IsEmpty.forall_iff, implies_true, List.Pairwise.nil, and_true]
  exact RecordField.commutes_of_set fun _ _ _ => rfl

/-- The section is read from what its encoding has become. -/
theorem KafkaConfig.decode_shed {config : KafkaConfig} {removed : List String → Bool} {json : Json}
    (sheds : Sheds shape removed config.toJson json) :
    decodeRecord {} fields json = .ok (config.without removed) := by
  obtain ⟨rest, rfl, distinct, leaves⟩ := sheds.exists_leaves
  refine Eq.trans (decodeRecord_of_reads {} separate distinct
    (.cons (Leaves.reads_leaf (leaves rfl rfl) (decodeList_map decodeText_str config.seedPeers))
    (.cons (Leaves.reads_leaf (leaves rfl rfl) (decodeText_str config.version)) .nil))) ?_
  rw [without]
  cases removed ["seed_peers"] <;> cases removed ["version"] <;> rfl

/-- What an encoding of the section is made of. -/
def ClientConfig.shape : Shape :=
  .record [("client_id", .leaf), ("dial_timeout_ms", .leaf), ("read_timeout_ms", .leaf),
    ("write_timeout_ms", .leaf), ("metadata_refresh_ms", .leaf)]

/-- The section with the preset values in the place of the fields that are removed. -/
def ClientConfig.without (removed : List String → Bool) (config : ClientConfig) : ClientConfig where
  clientId := if removed ["client_id"] then ({} : ClientConfig).clientId else config.clientId
  dialTimeout :=
    if removed ["dial_timeout_ms"] then ({} : ClientConfig).dialTimeout else config.dialTimeout
  readTimeout :=
    if removed ["read_timeout_ms"] then ({} : ClientConfig).readTimeout else config.readTimeout
  writeTimeout :=
    if removed ["write_timeout_ms"] then ({} : ClientConfig).writeTimeout else config.writeTimeout
  metadataRefresh :=
    if removed ["metadata_refresh_ms"] then ({} : ClientConfig).metadataRefresh
    else config.metadataRefresh

/-- The fields of the section do not meddle with each other. -/
theorem ClientConfig.separate : Separate fields := by
  refine ⟨by decide, ?_⟩
  simp only [fields, presetField, List.pairwise_cons, List.forall_mem_cons, List.not_mem_nil,
    IsEmpty.forall_iff, implies_true, List.Pairwise.nil, and_true]
  and_intros <;> exact RecordField.commutes_of_set fun _ _ _ => rfl

/-- A section whose name was given is read from what its encoding has become. -/
theorem ClientConfig.decode_shed {config : ClientConfig} {name : String}
    (named : config.clientId = .given name) {removed : List String → Bool} {json : Json}
    (sheds : Sheds shape removed config.toJson json) :
    decodeRecord {} fields json = .ok (config.without removed) := by
  obtain ⟨rest, rfl, distinct, leaves⟩ := sheds.exists_leaves
  refine Eq.trans (decodeRecord_of_reads {} separate distinct
    (.cons (Leaves.reads_leaf (leaves rfl rfl) (decodeText_str config.clientId.text))
    (.cons (Leaves.reads_leaf (leaves rfl rfl) (decodeUInt64_ofUInt64 config.dialTimeout))
    (.cons (Leaves.reads_leaf (leaves rfl rfl) (decodeUInt64_ofUInt64 config.readTimeout))
    (.cons (Leaves.reads_leaf (leaves rfl rfl) (decodeUInt64_ofUInt64 config.writeTimeout))
    (.cons (Leaves.reads_leaf (leaves rfl rfl) (decodeUInt64_ofUInt64 config.metadataRefresh))
      .nil)))))) ?_
  rw [without, named]
  cases removed ["client_id"] <;> cases removed ["dial_timeout_ms"] <;>
    cases removed ["read_timeout_ms"] <;> cases removed ["write_timeout_ms"] <;>
    cases removed ["metadata_refresh_ms"] <;> rfl

/-- What an encoding of the section is made of. -/
def ProducerConfig.shape : Shape :=
  .record [("channel_buffer_size", .leaf), ("flush_frequency_ms", .leaf),
    ("shutdown_timeout_ms", .leaf)]

/-- The section with the preset values in the place of the fields that are removed. -/
def ProducerConfig.without (removed : List String → Bool) (config : ProducerConfig) :
    ProducerConfig where
  channelBufferSize :=
    if removed ["channel_buffer_size"] then ({} : ProducerConfig).channelBufferSize
    else config.channelBufferSize
  flushFrequency :=
    if removed ["flush_frequency_ms"] then ({} : ProducerConfig).flushFrequency
    else config.flushFrequency
  shutdownTimeout :=
    if removed ["shutdown_timeout_ms"] then ({} : ProducerConfig).shutdownTimeout
    else config.shutdownTimeout

/-- The fields of the section do not meddle with each other. -/
theorem ProducerConfig.separate : Separate fields := by
  refine ⟨by decide, ?_⟩
  simp only [fields, presetField, List.pairwise_cons, List.forall_mem_cons, List.not_mem_nil,
    IsEmpty.forall_iff, implies_true, List.Pairwise.nil, and_true]
  and_intros <;> exact RecordField.commutes_of_set fun _ _ _ => rfl

/-- The section is read from what its encoding has become. -/
theorem ProducerConfig.decode_shed {config : ProducerConfig} {removed : List String → Bool}
    {json : Json} (sheds : Sheds shape removed config.toJson json) :
    decodeRecord {} fields json = .ok (config.without removed) := by
  obtain ⟨rest, rfl, distinct, leaves⟩ := sheds.exists_leaves
  refine Eq.trans (decodeRecord_of_reads {} separate distinct
    (.cons (Leaves.reads_leaf (leaves rfl rfl) (decodeUInt64_ofUInt64 config.channelBufferSize))
    (.cons (Leaves.reads_leaf (leaves rfl rfl) (decodeUInt64_ofUInt64 config.flushFrequency))
    (.cons (Leaves.reads_leaf (leaves rfl rfl) (decodeUInt64_ofUInt64 config.shutdownTimeout))
      .nil)))) ?_
  rw [without]
  cases removed ["channel_buffer_size"] <;> cases removed ["flush_frequency_ms"] <;>
    cases removed ["shutdown_timeout_ms"] <;> rfl

/-- What an encoding of the section is made of. -/
def ConsumerConfig.shape : Shape :=
  .record [("long_polling_timeout_ms", .leaf), ("channel_buffer_size", .leaf),
    ("ack_timeout_ms", .leaf), ("offsets_commit_interval_ms", .leaf), ("retry_backoff_ms", .leaf)]

/-- The section with the preset values in the place of the fields that are removed. -/
def ConsumerConfig.without (removed : List String → Bool) (config : ConsumerConfig) :
    ConsumerConfig where
  longPollingTimeout :=
    if removed ["long_polling_timeout_ms"] then ({} : ConsumerConfig).longPollingTimeout
    else config.longPollingTimeout
  channelBufferSize :=
    if removed ["channel_buffer_size"] then ({} : ConsumerConfig).channelBufferSize
    else config.channelBufferSize
  ackTimeout :=
    if removed ["ack_timeout_ms"] then ({} : ConsumerConfig).ackTimeout else config.ackTimeout
  offsetsCommitInterval :=
    if removed ["offsets_commit_interval_ms"] then ({} : ConsumerConfig).offsetsCommitInterval
    else config.offsetsCommitInterval
  retryBackoff :=
    if removed ["retry_backoff_ms"] then ({} : ConsumerConfig).retryBackoff else config.retryBackoff

/-- The fields of the section do not meddle with each other. -/
theorem ConsumerConfig.separate : Separate fields := by
  refine ⟨by decide, ?_⟩
  simp only [fields, presetField, List.pairwise_cons, List.forall_mem_cons, List.not_mem_nil,
    IsEmpty.forall_iff, implies_true, List.Pairwise.nil, and_true]
  and_intros <;> exact RecordField.commutes_of_set fun _ _ _ => rfl

/-- The section is read from what its encoding has become. -/
theorem ConsumerConfig.decode_shed {config : ConsumerConfig} {removed : List String → Bool}
    {json : Json} (sheds : Sheds shape removed config.toJson json) :
    decodeRecord {} fields json = .ok (config.without removed) := by
  obtain ⟨rest, rfl, distinct, leaves⟩ := sheds.exists_leaves
  refine Eq.trans (decodeRecord_of_reads {} separate distinct
    (.cons (Leaves.reads_leaf (leaves rfl rfl) (decodeUInt64_ofUInt64 config.longPollingTimeout))
    (.cons (Leaves.reads_leaf (leaves rfl rfl) (decodeUInt64_ofUInt64 config.channelBufferSize))
    (.cons (Leaves.reads_leaf (leaves rfl rfl) (decodeUInt64_ofUInt64 config.ackTimeout))
    (.cons (Leaves.reads_leaf (leaves rfl rfl) (decodeUInt64_ofUInt64 config.offsetsCommitInterval))
    (.cons (Leaves.reads_leaf (leaves rfl rfl) (decodeUInt64_ofUInt64 config.retryBackoff))
      .nil)))))) ?_
  rw [without]
  cases removed ["long_polling_timeout_ms"] <;> cases removed ["channel_buffer_size"] <;>
    cases removed ["ack_timeout_ms"] <;> cases removed ["offsets_commit_interval_ms"] <;>
    cases removed ["retry_backoff_ms"] <;> rfl

/-- What an encoding of the options of the log is made of. -/
def LoggingConfig.shape : Shape :=
  .record [("level", .leaf), ("json", .leaf)]

/-- The options of the log with the preset values in the place of the fields that are removed. -/
def LoggingConfig.without (removed : List String → Bool) (config : LoggingConfig) :
    LoggingConfig where
  level := if removed ["level"] then ({} : LoggingConfig).level else config.level
  json := if removed ["json"] then ({} : LoggingConfig).json else config.json

/-- The fields of the options of the log do not meddle with each other. -/
theorem LoggingConfig.separate : Separate fields := by
  refine ⟨by decide, ?_⟩
  simp only [fields, presetField, List.pairwise_cons, List.forall_mem_cons, List.not_mem_nil,
    IsEmpty.forall_iff, implies_true, List.Pairwise.nil, and_true]
  exact RecordField.commutes_of_set fun _ _ _ => rfl

/-- The options of the log are read from what their encoding has become. -/
theorem LoggingConfig.decode_shed {config : LoggingConfig} {removed : List String → Bool}
    {json : Json} (sheds : Sheds shape removed config.toJson json) :
    decodeRecord {} fields json = .ok (config.without removed) := by
  obtain ⟨rest, rfl, distinct, leaves⟩ := sheds.exists_leaves
  refine Eq.trans (decodeRecord_of_reads {} separate distinct
    (.cons (Leaves.reads_leaf (leaves rfl rfl) (decodeText_str config.level))
    (.cons (Leaves.reads_leaf (leaves rfl rfl) (decodeBool_bool config.json)) .nil))) ?_
  rw [without]
  cases removed ["level"] <;> cases removed ["json"] <;> rfl

/-- The name of the client was given. A name that is generated is a text like any other once it
has been drawn. -/
def GatewayConfig.Named (config : GatewayConfig) : Prop :=
  ∃ name, config.client.clientId = .given name

/-- What an encoding of the configuration of a gateway is made of. -/
def GatewayConfig.shape : Shape :=
  .record [("kafka", KafkaConfig.shape), ("client", ClientConfig.shape),
    ("producer", ProducerConfig.shape), ("consumer", ConsumerConfig.shape)]

/-- The configuration of a gateway with the preset values in the place of the fields that are
removed. -/
def GatewayConfig.without (removed : List String → Bool) (config : GatewayConfig) :
    GatewayConfig where
  kafka := if removed ["kafka"] then ({} : GatewayConfig).kafka
    else config.kafka.without fun path => removed ("kafka" :: path)
  client := if removed ["client"] then ({} : GatewayConfig).client
    else config.client.without fun path => removed ("client" :: path)
  producer := if removed ["producer"] then ({} : GatewayConfig).producer
    else config.producer.without fun path => removed ("producer" :: path)
  consumer := if removed ["consumer"] then ({} : GatewayConfig).consumer
    else config.consumer.without fun path => removed ("consumer" :: path)

/-- The sections of the configuration of a gateway do not meddle with each other. -/
theorem GatewayConfig.separate : Separate fields := by
  refine ⟨by decide, ?_⟩
  simp only [fields, presetField, List.pairwise_cons, List.forall_mem_cons, List.not_mem_nil,
    IsEmpty.forall_iff, implies_true, List.Pairwise.nil, and_true]
  and_intros <;> exact RecordField.commutes_of_set fun _ _ _ => rfl

/-- The configuration of a gateway is read from what its encoding has become. -/
theorem GatewayConfig.ofJson_shed {config : GatewayConfig} (named : config.Named)
    {removed : List String → Bool} {json : Json}
    (sheds : Sheds shape removed config.toJson json) :
    ofJson json = .ok (config.without removed) := by
  obtain ⟨name, named⟩ := named
  obtain ⟨rest, rfl, distinct, leaves⟩ := sheds.exists_leaves
  rw [ofJson]
  refine Eq.trans (decodeRecord_of_reads {} separate distinct
    (.cons (Leaves.reads (leaves rfl rfl) fun _ => KafkaConfig.decode_shed)
    (.cons (Leaves.reads (leaves rfl rfl) fun _ => ClientConfig.decode_shed named)
    (.cons (Leaves.reads (leaves rfl rfl) fun _ => ProducerConfig.decode_shed)
    (.cons (Leaves.reads (leaves rfl rfl) fun _ => ConsumerConfig.decode_shed) .nil))))) ?_
  rw [without]
  cases removed ["kafka"] <;> cases removed ["client"] <;> cases removed ["producer"] <;>
    cases removed ["consumer"] <;> rfl

/-- The map with every value changed in a way that its name tells. -/
def NameMap.mapNamed {α β : Type} (change : String → α → β) (map : NameMap α) : NameMap β :=
  ⟨map.entries.map fun entry => (entry.1, change entry.1 entry.2), by
    simpa [Function.comp_def] using map.distinct⟩

/-- The names of all clients were given. -/
def AppConfig.Named (config : AppConfig) : Prop :=
  ∀ entry ∈ config.proxies.entries, entry.2.Named

/-- What an encoding of the whole configuration is made of. -/
def AppConfig.shape : Shape :=
  .record [("proxies", .map GatewayConfig.shape), ("default_cluster", .leaf),
    ("logging", LoggingConfig.shape)]

/-- The whole configuration with the preset values in the place of the fields that are removed. -/
def AppConfig.without (removed : List String → Bool) (config : AppConfig) : AppConfig where
  proxies := if removed ["proxies"] then ({} : AppConfig).proxies
    else config.proxies.mapNamed fun name gateway =>
      gateway.without fun path => removed ("proxies" :: name :: path)
  defaultCluster :=
    if removed ["default_cluster"] then ({} : AppConfig).defaultCluster else config.defaultCluster
  logging := if removed ["logging"] then ({} : AppConfig).logging
    else config.logging.without fun path => removed ("logging" :: path)

/-- The fields of the whole configuration do not meddle with each other. -/
theorem AppConfig.separate : Separate fields := by
  refine ⟨by decide, ?_⟩
  simp only [fields, presetField, List.pairwise_cons, List.forall_mem_cons, List.not_mem_nil,
    IsEmpty.forall_iff, implies_true, List.Pairwise.nil, and_true]
  and_intros <;> exact RecordField.commutes_of_set fun _ _ _ => rfl

/-- The configurations of the clusters are read from what their encoding has become. -/
theorem GatewayConfig.decodeMap_shed {proxies : NameMap GatewayConfig}
    (named : ∀ entry ∈ proxies.entries, entry.2.Named) {removed : List String → Bool} {json : Json}
    (sheds : Sheds (.map shape) removed (.obj (proxies.mapValues toJson).entries) json) :
    decodeMap ofJson json = .ok (proxies.mapNamed fun name gateway =>
      gateway.without fun path => removed (name :: path)) := by
  cases sheds with
  | map kept inner =>
    refine decodeMap_ok ?_
    simp only [NameMap.mapValues, NameMap.mapNamed, List.map_map, Function.comp_def]
    refine List.map_congr_left fun entry there => ?_
    have sheds := inner (entry.1, entry.2.toJson) (List.mem_map_of_mem there)
    exact congrArg (Prod.mk entry.1) (ofJson_shed (named entry there) sheds)

/-- The whole configuration is read from what its encoding has become. -/
theorem AppConfig.ofJson_shed {config : AppConfig} (named : config.Named)
    {removed : List String → Bool} {json : Json}
    (sheds : Sheds shape removed config.toJson json) :
    ofJson json = .ok (config.without removed) := by
  obtain ⟨rest, rfl, distinct, leaves⟩ := sheds.exists_leaves
  rw [ofJson]
  refine Eq.trans (decodeRecord_of_reads {} separate distinct
    (.cons (Leaves.reads (leaves rfl rfl) fun _ => GatewayConfig.decodeMap_shed named)
    (.cons (Leaves.reads_leaf (leaves rfl rfl) (decodeText_str config.defaultCluster))
    (.cons (Leaves.reads (leaves rfl rfl) fun _ => LoggingConfig.decode_shed) .nil)))) ?_
  rw [without]
  cases removed ["proxies"] <;> cases removed ["default_cluster"] <;>
    cases removed ["logging"] <;> rfl

/-- The encoding of the options of the log is one of their shape. -/
theorem LoggingConfig.sheds_toJson (config : LoggingConfig) :
    Sheds shape (fun _ => false) config.toJson config.toJson :=
  .whole_leaves (by simp) (by simp)

/-- The encoding of the configuration of a gateway is one of its shape. -/
theorem GatewayConfig.sheds_toJson (config : GatewayConfig) :
    Sheds shape (fun _ => false) config.toJson config.toJson := by
  refine .whole (by simp) ?_
  refine ⟨?kafka, ?client, ?producer, ?consumer⟩ <;> rintro json ⟨⟩ <;>
    exact .whole_leaves (by simp) (by simp)

/-- The whole encoding of the configuration is one of its shape. -/
theorem AppConfig.sheds_toJson (config : AppConfig) :
    Sheds shape (fun _ => false) config.toJson config.toJson := by
  refine .whole (by simp) ?_
  refine ⟨?proxies, fun _ _ => .leaf, ?logging⟩
  case proxies =>
    rintro json ⟨⟩
    refine .whole_map (config.proxies.mapValues GatewayConfig.toJson).distinct ?_
    rintro ⟨name, json⟩ there
    obtain ⟨⟨name, gateway⟩, -, ⟨⟩⟩ := List.mem_map.mp there
    exact gateway.sheds_toJson
  case logging =>
    rintro json ⟨⟩
    exact config.logging.sheds_toJson

/-- Where nothing is removed the whole configuration is as it was. -/
theorem AppConfig.without_nothing (config : AppConfig) :
    config.without (fun _ => false) = config := by
  have proxies : config.proxies.mapNamed
      (fun _ gateway => gateway.without fun _ => false) = config.proxies := by
    obtain ⟨⟨entries, distinct⟩, _, _⟩ := config
    exact (NameMap.mk.injEq ..).mpr entries.map_id
  obtain ⟨_, _, _⟩ := config
  exact congrArg (AppConfig.mk · _ _) proxies

/-- Every record is read back from its encoding, a topic also where it has no configuration or no
partitions and the encoding leaves them out. A configuration in which the names of the clients
were given is read as well from an encoding that has lost fields and got others: with the preset
values in the place of the fields that are lost, and else as it was. -/
theorem encodings_read_back :
    (∀ value : PartitionOffset, PartitionOffset.ofJson value.toJson = .ok value) ∧
    (∀ value : PartitionMetadata, PartitionMetadata.ofJson value.toJson = .ok value) ∧
    (∀ value : TopicConfig, TopicConfig.ofJson value.toJson = .ok value) ∧
    (∀ value : TopicMetadata, TopicMetadata.ofJson value.toJson = .ok value) ∧
    (∀ topic, TopicMetadata.toJson ⟨topic, none, []⟩ = .obj [("topic", .str topic)]) ∧
    (∀ value : LoggingConfig, LoggingConfig.ofJson value.toJson = .ok value) ∧
    (∀ config : GatewayConfig, config.Named →
      GatewayConfig.ofJson config.toJson = .ok config ∧
      ∀ removed json, Sheds GatewayConfig.shape removed config.toJson json →
        GatewayConfig.ofJson json = .ok (config.without removed)) ∧
    (∀ config : AppConfig, config.Named →
      AppConfig.ofJson config.toJson = .ok config ∧
      ∀ removed json, Sheds AppConfig.shape removed config.toJson json →
        AppConfig.ofJson json = .ok (config.without removed)) := by
  refine ⟨PartitionOffset.ofJson_toJson, PartitionMetadata.ofJson_toJson,
    TopicConfig.ofJson_toJson, TopicMetadata.ofJson_toJson, fun _ => rfl, ?log, ?gateway, ?whole⟩
  case log =>
    intro value
    exact LoggingConfig.decode_shed value.sheds_toJson
  case gateway =>
    intro config named
    refine ⟨?_, fun removed json => GatewayConfig.ofJson_shed named⟩
    exact GatewayConfig.ofJson_shed named config.sheds_toJson
  case whole =>
    intro config named
    refine ⟨?_, fun removed json => AppConfig.ofJson_shed named⟩
    rw [AppConfig.ofJson_shed named config.sheds_toJson, config.without_nothing]

/-- A configuration of one cluster. -/
def writtenConfig : AppConfig where
  proxies := .singleton "west"
    { kafka := { seedPeers := ["one:9092", "two:9092"] },
      client := { clientId := .given "reader", dialTimeout := 7 },
      consumer := { ackTimeout := 9 } }
  defaultCluster := "west"
  logging := { level := "debug", json := true }

/-- Paths of fields that its encoding has lost. -/
def lostPaths : List (List String) :=
  [["default_cluster"], ["logging", "json"], ["proxies", "west", "consumer"],
    ["proxies", "west", "producer"], ["proxies", "west", "kafka", "version"],
    ["proxies", "west", "client", "client_id"], ["proxies", "west", "client", "read_timeout_ms"]]

/-- What the encoding of the configuration of its gateway has become. -/
def wornGateway : Json :=
  .obj [("client", .obj [("dial_timeout_ms", .int 7), ("colour", .str "red"),
      ("write_timeout_ms", .int 30000), ("metadata_refresh_ms", .int 600000)]),
    ("consumers", .bool true),
    ("kafka", .obj [("seed_peers", .arr [.str "one:9092", .str "two:9092"])])]

/-- What the encoding has become, with members that nobody knows. -/
def wornJson : Json :=
  .obj [("note", .null), ("logging", .obj [("level", .str "debug")]),
    ("proxies", .obj [("west", wornGateway)])]

/-- The encoding of the gateway has lost the fields at the paths, and no others. -/
theorem sheds_wornGateway {entry : String × Json}
    (there : entry ∈ (writtenConfig.proxies.mapValues GatewayConfig.toJson).entries) :
    Sheds GatewayConfig.shape (fun path => lostPaths.contains ("proxies" :: entry.1 :: path))
      entry.2 wornGateway := by
  obtain rfl := List.mem_singleton.mp there
  refine .of_leaves (by simp) (by simp) ?_
  refine ⟨?kafka, ?client, fun _ _ => .lost rfl rfl, fun _ _ => .lost rfl rfl⟩
  case kafka =>
    rintro _ ⟨⟩
    refine .kept rfl rfl (.of_leaves (by simp) (by simp) ⟨?_, fun _ _ => .lost rfl rfl⟩)
    rintro _ ⟨⟩
    exact .kept rfl rfl .leaf
  case client =>
    rintro _ ⟨⟩
    refine .kept rfl rfl (.of_leaves (by simp) (by simp) ?_)
    refine ⟨fun _ _ => .lost rfl rfl, ?_, fun _ _ => .lost rfl rfl, ?_, ?_⟩ <;>
      (rintro _ ⟨⟩; exact .kept rfl rfl .leaf)

/-- The encoding has lost the fields at the paths, and no others. -/
theorem sheds_wornJson :
    Sheds AppConfig.shape (lostPaths.contains ·) writtenConfig.toJson wornJson := by
  refine .of_leaves (by simp) (by simp) ⟨?proxies, fun _ _ => .lost rfl rfl, ?logging⟩
  case proxies =>
    rintro _ ⟨⟩
    exact .kept rfl rfl (.map (fun _ => wornGateway) fun _ => sheds_wornGateway)
  case logging =>
    rintro _ ⟨⟩
    refine .kept rfl rfl (.of_leaves (by simp) (by simp) ⟨?_, fun _ _ => .lost rfl rfl⟩)
    rintro _ ⟨⟩
    exact .kept rfl rfl .leaf

/-- What the worn encoding is read as. -/
theorem encodings_read_back_worn :
    writtenConfig.Named ∧
    Sheds AppConfig.shape (lostPaths.contains ·) writtenConfig.toJson wornJson ∧
    AppConfig.ofJson wornJson = .ok
      { proxies := .singleton "west"
          { kafka := { seedPeers := ["one:9092", "two:9092"] }, client := { dialTimeout := 7 } },
        logging := { level := "debug" } } := by
  have named : writtenConfig.Named := by
    intro entry there
    obtain rfl := List.mem_singleton.mp there
    exact ⟨"reader", rfl⟩
  have ⟨_, _, _, _, _, _, _, whole⟩ := encodings_read_back
  refine ⟨named, sheds_wornJson, ?_⟩
  exact (whole writtenConfig named).2 _ _ sheds_wornJson

end ClusterGateway
