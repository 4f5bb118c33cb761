import ClusterGateway.Proofs.Config.Names

/-!
# What settings decode to

The configuration that a tree of settings decodes to has at each setting what the tree holds at
the path of the setting, read as the field needs it, and the preset value where the tree has
nothing there.
-/

namespace ClusterGateway

open Setting

/-- A setting as a value of a kind, read as a field of that kind reads it. -/
def ValueKind.decode : ValueKind → Setting → Except SettingsFault SettingValue
  | text, setting => setting.toText.map .text
  | flag, setting => setting.toFlag.map .flag
  | word, setting => setting.toWord.map .word
  | texts, setting => (toList toText setting).map .texts

/-- What a field has read: nothing where its key is not set. -/
def Told {β : Type} (read : Setting → Except SettingsFault β) (found : Option Setting)
    (value : Option β) : Prop :=
  match found with
  | none => value = none
  | some setting => ∃ told, read setting = .ok told ∧ value = some told

/-- What a setting has been decoded to: its preset value where it is not set. -/
def Decoded (kind : ValueKind) (found : Option Setting) (preset value : SettingValue) : Prop :=
  match found with
  | none => value = preset
  | some setting => kind.decode setting = .ok value

section Fields

variable {α β : Type} {entries : List (String × Setting)} {record result : α}

/-- Once its fields are read, a record is complete. -/
theorem readFields_done_iff :
    readFields entries ([] : List (SettingField α)) record = .ok result ↔ record = result := by
  rw [readFields, Except.ok.injEq]

/-- A record is read field by field. -/
theorem readFields_field_iff (name : String) (read : Setting → Except SettingsFault β)
    (set : β → α → α) (fields : List (SettingField α)) :
    readFields entries (field name read set :: fields) record = .ok result ↔
      ∃ value : Option β, Told read (entries.lookup name) value ∧
        readFields entries fields (value.elim record fun told => set told record) = .ok result := by
  rw [readFields]
  cases found : entries.lookup (field name read set).name with
  | none =>
    have found : entries.lookup name = none := found
    simp [found, Told]
  | some setting =>
    have found : entries.lookup name = some setting := found
    cases outcome : read setting with
    | error fault => simp [found, Told, outcome, field, Except.map]
    | ok told => simp [found, Told, outcome, field, Except.map]

/-- A record is read if every field that is set can be read. -/
theorem exists_readFields (fields : List (SettingField α))
    (readable : ∀ field ∈ fields, ∀ setting, entries.lookup field.name = some setting →
      ∃ change, field.read setting = .ok change) (record : α) :
    ∃ result, readFields entries fields record = .ok result := by
  induction fields generalizing record with
  | nil => exact ⟨record, rfl⟩
  | cons field fields ih =>
    have rest := ih fun other there => readable other (List.mem_cons_of_mem _ there)
    rw [readFields]
    cases found : entries.lookup field.name with
    | none => exact rest record
    | some setting =>
      obtain ⟨change, outcome⟩ := readable field List.mem_cons_self setting found
      simp only [outcome]
      exact rest (change record)

/-- A field that has read its setting as a kind needs it has decoded it. -/
theorem Told.decoded {kind : ValueKind} {read : Setting → Except SettingsFault β}
    {found : Option Setting} {value : Option β} {preset result : SettingValue}
    {wrap : β → SettingValue} (told : Told read found value)
    (same : ∀ setting, kind.decode setting = (read setting).map wrap)
    (whole : result = value.elim preset wrap) : Decoded kind found preset result := by
  subst whole
  cases found with
  | none =>
    obtain rfl : value = none := told
    rfl
  | some setting =>
    obtain ⟨_, outcome, rfl⟩ := told
    show kind.decode setting = _
    rw [same, outcome]
    rfl

end Fields

section Sections

variable {entries : List (String × Setting)}

/-- What a section has been decoded to. -/
theorem KafkaConfig.decoded {config : KafkaConfig}
    (read : readFields entries KafkaConfig.settings {} = .ok config) (setting : KafkaSetting) :
    Decoded setting.kind (entries.lookup setting.key) (({} : KafkaConfig).value setting)
      (config.value setting) := by
  simp only [KafkaConfig.settings, readFields_field_iff, readFields_done_iff] at read
  obtain ⟨peers, toldPeers, version, toldVersion, whole⟩ := read
  obtain rfl : config = ⟨peers.getD ["localhost:9092"], version.getD "0.10.2.1"⟩ := by
    rw [← whole]
    cases peers <;> cases version <;> rfl
  cases setting with
  | seedPeers => exact toldPeers.decoded (fun _ => rfl) (by cases peers <;> rfl)
  | version => exact toldVersion.decoded (fun _ => rfl) (by cases version <;> rfl)

/-- What a section has been decoded to. -/
theorem ClientConfig.decoded {config : ClientConfig}
    (read : readFields entries ClientConfig.settings {} = .ok config) (setting : ClientSetting) :
    Decoded setting.kind (entries.lookup setting.key) (({} : ClientConfig).value setting)
      (config.value setting) := by
  simp only [ClientConfig.settings, readFields_field_iff, readFields_done_iff] at read
  obtain ⟨name, toldName, dial, toldDial, incoming, toldRead, outgoing, toldWrite, refresh,
    toldRefresh, whole⟩ := read
  obtain rfl : config = ⟨name.elim .generated .given, dial.getD 30000,
      incoming.getD 30000, outgoing.getD 30000, refresh.getD 600000⟩ := by
    rw [← whole]
    cases name <;> cases dial <;> cases incoming <;> cases outgoing <;> cases refresh <;> rfl
  cases setting with
  | clientId => exact toldName.decoded (fun _ => rfl) (by cases name <;> rfl)
  | dialTimeout => exact toldDial.decoded (fun _ => rfl) (by cases dial <;> rfl)
  | readTimeout => exact toldRead.decoded (fun _ => rfl) (by cases incoming <;> rfl)
  | writeTimeout => exact toldWrite.decoded (fun _ => rfl) (by cases outgoing <;> rfl)
  | metadataRefresh => exact toldRefresh.decoded (fun _ => rfl) (by cases refresh <;> rfl)

/-- What a section has been decoded to. -/
theorem ProducerConfig.decoded {config : ProducerConfig}
    (read : readFields entries ProducerConfig.settings {} = .ok config)
    (setting : ProducerSetting) :
    Decoded .word (entries.lookup setting.key) (({} : ProducerConfig).value setting)
      (config.value setting) := by
  simp only [ProducerConfig.settings, readFields_field_iff, readFields_done_iff] at read
  obtain ⟨buffer, toldBuffer, flush, toldFlush, shutdown, toldShutdown, whole⟩ := read
  obtain rfl : config =
      ⟨buffer.getD 4096, flush.getD 500, shutdown.getD 30000⟩ := by
    rw [← whole]
    cases buffer <;> cases flush <;> cases shutdown <;> rfl
  cases setting with
  | channelBufferSize => exact toldBuffer.decoded (fun _ => rfl) (by cases buffer <;> rfl)
  | flushFrequency => exact toldFlush.decoded (fun _ => rfl) (by cases flush <;> rfl)
  | shutdownTimeout => exact toldShutdown.decoded (fun _ => rfl) (by cases shutdown <;> rfl)

/-- What a section has been decoded to. -/
theorem ConsumerConfig.decoded {config : ConsumerConfig}
    (read : readFields entries ConsumerConfig.settings {} = .ok config)
    (setting : ConsumerSetting) :
    Decoded .word (entries.lookup setting.key) (({} : ConsumerConfig).value setting)
      (config.value setting) := by
  simp only [ConsumerConfig.settings, readFields_field_iff, readFields_done_iff] at read
  obtain ⟨polling, toldPolling, buffer, toldBuffer, ack, toldAck, commit, toldCommit, backoff,
    toldBackoff, whole⟩ := read
  obtain rfl : config = ⟨polling.getD 3000, buffer.getD 64,
      ack.getD 300000, commit.getD 500, backoff.getD 500⟩ := by
    rw [← whole]
    cases polling <;> cases buffer <;> cases ack <;> cases commit <;> cases backoff <;> rfl
  cases setting with
  | longPollingTimeout => exact toldPolling.decoded (fun _ => rfl) (by cases polling <;> rfl)
  | channelBufferSize => exact toldBuffer.decoded (fun _ => rfl) (by cases buffer <;> rfl)
  | ackTimeout => exact toldAck.decoded (fun _ => rfl) (by cases ack <;> rfl)
  | offsetsCommitInterval => exact toldCommit.decoded (fun _ => rfl) (by cases commit <;> rfl)
  | retryBackoff => exact toldBackoff.decoded (fun _ => rfl) (by cases backoff <;> rfl)

/-- What the section of the log has been decoded to. -/
theorem LoggingConfig.decoded {config : LoggingConfig}
    (read : readFields entries LoggingConfig.settings {} = .ok config) :
    Decoded .text (entries.lookup "level") SettingName.logLevel.preset (.text config.level) ∧
      Decoded .flag (entries.lookup "json") SettingName.logJson.preset (.flag config.json) := by
  simp only [LoggingConfig.settings, readFields_field_iff, readFields_done_iff] at read
  obtain ⟨level, toldLevel, json, toldJson, whole⟩ := read
  obtain rfl : config = ⟨level.getD "info", json.getD false⟩ := by
    rw [← whole]
    cases level <;> cases json <;> rfl
  constructor
  · exact toldLevel.decoded (fun _ => rfl) (by cases level <;> rfl)
  · exact toldJson.decoded (fun _ => rfl) (by cases json <;> rfl)

/-- What a setting in a section has been decoded to, if the section is a table. -/
theorem Told.inSection {γ : Type} {preset : γ} {fields : List (SettingField γ)}
    {found : Option Setting} {value : Option γ} {kind : ValueKind} {key : String}
    (valueOf : γ → SettingValue) (told : Told (toRecord preset fields) found value)
    (tabled : ∀ inner, found = some inner → inner.isTable = true)
    (decoded : ∀ entries record, readFields entries fields preset = .ok record →
      Decoded kind (entries.lookup key) (valueOf preset) (valueOf record)) :
    Decoded kind (found.bind fun inner => inner.child? key) (valueOf preset)
      (valueOf (value.getD preset)) := by
  cases found with
  | none =>
    obtain rfl : value = none := told
    rfl
  | some inner =>
    obtain ⟨record, read, rfl⟩ := told
    cases inner with
    | table origin entries => exact decoded entries record read
    | _ => simp [isTable] at tabled

/-- What a setting of a cluster has been decoded to, if its section is a table. -/
theorem GatewayConfig.decoded {config : GatewayConfig}
    (read : readFields entries GatewayConfig.settings {} = .ok config) (setting : ClusterSetting)
    (tabled : ∀ inner, entries.lookup setting.sectionKey = some inner → inner.isTable = true) :
    Decoded setting.kind
      ((entries.lookup setting.sectionKey).bind fun inner => inner.child? setting.key)
      (({} : GatewayConfig).value setting) (config.value setting) := by
  simp only [GatewayConfig.settings, readFields_field_iff, readFields_done_iff] at read
  obtain ⟨kafka, toldKafka, client, toldClient, producer, toldProducer, consumer, toldConsumer,
    whole⟩ := read
  obtain rfl : config = ⟨kafka.getD {}, client.getD {}, producer.getD {}, consumer.getD {}⟩ := by
    rw [← whole]
    cases kafka <;> cases client <;> cases producer <;> cases consumer <;> rfl
  cases setting with
  | kafka setting =>
    exact toldKafka.inSection (fun config => config.value setting) tabled
      fun _ _ read => KafkaConfig.decoded read setting
  | client setting =>
    exact toldClient.inSection (fun config => config.value setting) tabled
      fun _ _ read => ClientConfig.decoded read setting
  | producer setting =>
    exact toldProducer.inSection (fun config => config.value setting) tabled
      fun _ _ read => ProducerConfig.decoded read setting
  | consumer setting =>
    exact toldConsumer.inSection (fun config => config.value setting) tabled
      fun _ _ read => ConsumerConfig.decoded read setting

end Sections

section Clusters

variable {α : Type} {read : Setting → Except SettingsFault α}

/-- The entries of a table are read one by one, each under its key. -/
theorem told_readEntries {entries : List (String × Setting)} {result : List (String × α)}
    (outcome : readEntries read entries = .ok result) :
    result.map (·.1) = entries.map (·.1) ∧
      ∀ key, Told read (entries.lookup key) (result.lookup key) := by
  induction entries generalizing result with
  | nil =>
    obtain rfl : [] = result := Except.ok.inj outcome
    exact ⟨rfl, fun key => rfl⟩
  | cons entry rest ih =>
    obtain ⟨first, setting⟩ := entry
    rw [readEntries] at outcome
    cases head : read setting with
    | error fault => simp [head] at outcome
    | ok value =>
      cases tail : readEntries read rest with
      | error fault => simp [head, tail, Except.map] at outcome
      | ok values =>
        obtain rfl : (first, value) :: values = result := by
          simpa [head, tail, Except.map] using outcome
        obtain ⟨keys, told⟩ := ih tail
        refine ⟨by simp [keys], fun key => ?_⟩
        by_cases same : key = first
        · subst same
          rw [List.lookup_cons_self, List.lookup_cons_self]
          exact ⟨value, head, rfl⟩
        · have apart : (key == first) = false := by simpa using same
          rw [List.lookup_cons, List.lookup_cons, apart]
          exact told key

/-- The entries of a table can be read if each of them can be. -/
theorem exists_readEntries {entries : List (String × Setting)}
    (readable : ∀ entry ∈ entries, ∃ value, read entry.2 = .ok value) :
    ∃ result, readEntries read entries = .ok result := by
  induction entries with
  | nil => exact ⟨[], rfl⟩
  | cons entry rest ih =>
    obtain ⟨value, head⟩ := readable entry List.mem_cons_self
    obtain ⟨values, tail⟩ := ih fun other there => readable other (List.mem_cons_of_mem _ there)
    exact ⟨(entry.1, value) :: values, by simp [readEntries, head, tail, Except.map]⟩

/-- A table of like values without a key that comes twice has the value of each of its entries. -/
theorem told_toMap {setting : Setting} {map : NameMap α} (distinct : setting.keys.Nodup)
    (outcome : toMap read setting = .ok map) :
    map.names = setting.keys ∧ ∀ key, Told read (setting.child? key) (map.get? key) := by
  cases setting with
  | table origin entries =>
    rw [toMap] at outcome
    cases found : readEntries read entries with
    | error fault => simp [found, Except.map] at outcome
    | ok result =>
      obtain rfl : NameMap.ofList result = map := by simpa [found, Except.map] using outcome
      obtain ⟨keys, told⟩ := told_readEntries found
      have distinct : (result.map (·.1)).Nodup := keys ▸ distinct
      have whole : (NameMap.ofList result).entries = result :=
        NameMap.entries_foldl_insert result NameMap.empty distinct
      refine ⟨?_, fun key => ?_⟩
      · rw [NameMap.names, whole]
        exact keys
      · rw [NameMap.get?, whole]
        exact told key
  | _ => simp [toMap] at outcome

end Clusters

/-- Tables stand all the way to the end of a path. -/
def Setting.TabledTo (setting : Setting) : List String → Prop
  | [] => True
  | key :: path =>
    setting.isTable = true ∧ ∀ inner, setting.child? key = some inner → inner.TabledTo path

/-- The clusters of a configuration are those of its settings, or the preset one where the settings
have no table of clusters. -/
def clusterNames (tree : Setting) : List String :=
  (tree.child? "proxies").elim [defaultClusterName] keys

/-- The parts of a configuration, as the table of its settings tells them. -/
theorem AppConfig.told {tree : Setting} {config : AppConfig}
    (decodes : AppConfig.ofSetting tree = .ok config) (table : tree.isTable = true) :
    ∃ proxies cluster logging,
      Told (toMap (toRecord {} GatewayConfig.settings)) (tree.child? "proxies") proxies ∧
      Told toText (tree.child? "default_cluster") cluster ∧
      Told (toRecord {} LoggingConfig.settings) (tree.child? "logging") logging ∧
      config = ⟨proxies.getD (.singleton defaultClusterName {}),
        cluster.getD defaultClusterName, logging.getD {}⟩ := by
  cases tree with
  | table origin entries =>
    have read : readFields entries AppConfig.settings {} = .ok config := decodes
    simp only [AppConfig.settings, readFields_field_iff, readFields_done_iff] at read
    obtain ⟨proxies, toldProxies, cluster, toldCluster, logging, toldLogging, whole⟩ := read
    refine ⟨proxies, cluster, logging, toldProxies, toldCluster, toldLogging, ?_⟩
    rw [← whole]
    cases proxies <;> cases cluster <;> cases logging <;> rfl
  | _ => simp [isTable] at table

/-- The clusters of a configuration are those of its table of clusters, each with the gateway that
its own table tells. -/
theorem told_clusters {tree : Setting} (distinct : tree.Distinct)
    {proxies : Option (NameMap GatewayConfig)}
    (told : Told (toMap (toRecord {} GatewayConfig.settings)) (tree.child? "proxies") proxies) :
    (proxies.getD (.singleton defaultClusterName {})).names = clusterNames tree ∧
      ∀ name gateway, (proxies.getD (.singleton defaultClusterName {})).get? name = some gateway →
        ∃ own, Told (toRecord {} GatewayConfig.settings)
          ((tree.child? "proxies").bind fun clusters => clusters.child? name) own ∧
          gateway = own.getD {} := by
  rw [clusterNames]
  cases found : tree.child? "proxies" with
  | none =>
    rw [found] at told
    obtain rfl : proxies = none := told
    refine ⟨rfl, fun name gateway there => ⟨none, rfl, ?_⟩⟩
    by_cases same : name = defaultClusterName
    · subst same
      simpa [NameMap.singleton, NameMap.get?_insert_self] using there.symm
    · have absent : (NameMap.singleton defaultClusterName ({} : GatewayConfig)).get? name = none :=
        NameMap.get?_insert_of_ne NameMap.empty ({} : GatewayConfig) same
      simp [absent] at there
  | some clusters =>
    rw [found] at told
    obtain ⟨map, outcome, rfl⟩ := told
    obtain ⟨names, inner⟩ := told_toMap (Everywhere.child distinct found).root outcome
    refine ⟨names, fun name gateway there => ⟨some gateway, ?_, rfl⟩⟩
    have inner := inner name
    rwa [show map.get? name = some gateway from there] at inner

/-- What the settings of a cluster have been decoded to, if its table and its sections are tables. -/
theorem Told.inCluster {found : Option Setting} {own : Option GatewayConfig}
    (told : Told (toRecord {} GatewayConfig.settings) found own) (setting : ClusterSetting)
    (tabled : ∀ table, found = some table → table.TabledTo setting.path) :
    Decoded setting.kind (found.bind fun table => table.at? setting.path)
      (({} : GatewayConfig).value setting) ((own.getD {}).value setting) := by
  cases found with
  | none =>
    obtain rfl : own = none := told
    rfl
  | some table =>
    obtain ⟨gateway, read, rfl⟩ := told
    obtain ⟨root, sections⟩ := tabled table rfl
    cases table with
    | table origin entries =>
      have decoded := GatewayConfig.decoded read setting fun inner there =>
        (sections inner there).1
      rwa [ClusterSetting.path, Option.bind_some, at?_pair]
    | _ => simp [isTable] at root

/-- What a tree of settings has been decoded to. -/
theorem AppConfig.decoded {tree : Setting} {config : AppConfig}
    (decodes : AppConfig.ofSetting tree = .ok config) (table : tree.isTable = true)
    (distinct : tree.Distinct) :
    config.proxies.names = clusterNames tree ∧
      ∀ name value, tree.TabledTo name.path → config.value? name = some value →
        Decoded name.kind (tree.at? name.path) name.preset value := by
  obtain ⟨proxies, cluster, logging, toldProxies, toldCluster, toldLogging, rfl⟩ :=
    AppConfig.told decodes table
  obtain ⟨names, clusters⟩ := told_clusters distinct toldProxies
  refine ⟨names, fun name value tabled there => ?_⟩
  cases name with
  | defaultCluster =>
    obtain rfl := Option.some.inj there
    rw [SettingName.path, at?_single]
    exact toldCluster.decoded (fun _ => rfl) (by cases cluster <;> rfl)
  | logLevel =>
    obtain rfl := Option.some.inj there
    rw [SettingName.path, at?_pair]
    exact toldLogging.inSection (fun config => .text config.level)
      (fun inner found => (tabled.2 inner found).1) fun _ _ read => (LoggingConfig.decoded read).1
  | logJson =>
    obtain rfl := Option.some.inj there
    rw [SettingName.path, at?_pair]
    exact toldLogging.inSection (fun config => .flag config.json)
      (fun inner found => (tabled.2 inner found).1) fun _ _ read => (LoggingConfig.decoded read).2
  | cluster name setting =>
    obtain ⟨gateway, configured, rfl⟩ := Option.map_eq_some_iff.mp there
    obtain ⟨own, told, rfl⟩ := clusters name gateway configured
    have whole : tree.at? (SettingName.cluster name setting).path =
        ((tree.child? "proxies").bind fun clusters => clusters.child? name).bind
          fun table => table.at? setting.path := by
      rw [← at?_pair, ← at?_append]
      rfl
    rw [whole]
    refine Told.inCluster told setting fun table found => ?_
    obtain ⟨above, leads, within⟩ := Option.bind_eq_some_iff.mp found
    exact (tabled.2 above leads).2 table within

/-- What has been loaded was decoded from the layers. -/
theorem AppConfig.exists_layers {files : FileTree} {directory : String} {environment : Environment}
    {config : AppConfig} (loaded : AppConfig.load files directory environment = .ok config) :
    ∃ layers, AppConfig.layers files directory environment = .ok layers ∧
      AppConfig.ofSetting (ofLayers layers) = .ok config := by
  rw [AppConfig.load] at loaded
  split at loaded
  · simp at loaded
  · rename_i decoded found
    split at loaded
    · obtain rfl := Except.ok.inj loaded
      cases whole : AppConfig.layers files directory environment with
      | error fault => simp [whole, Except.bind] at found
      | ok layers => exact ⟨layers, rfl, by simpa [whole, Except.bind] using found⟩
    · simp at loaded

end ClusterGateway
