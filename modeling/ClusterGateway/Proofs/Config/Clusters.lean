import ClusterGateway.Proofs.Config.Layering

/-!
# Names of clusters

Laying a layer over another one makes its keys lowercase, the names of clusters among them,
while the name of the default cluster is a value and stays as it is. So a file with valid
sections keeps its clusters, each with its own settings, exactly when their names are lowercase.
Main statement: `load_keeps_clusters_iff`.
-/

namespace ClusterGateway

open Setting

/-- A gateway has the settings of a section: each as it is written there, or else its preset. -/
def GatewayConfig.Reads (gateway : GatewayConfig) (table : Setting) : Prop :=
  ∀ setting : ClusterSetting, gateway.value setting =
    ((table.at? setting.path).bind setting.kind.read?).getD (({} : GatewayConfig).value setting)

/-- Different names of clients have different values. -/
theorem ClientId.value_injective {left right : ClientId} (same : left.value = right.value) :
    left = right := by
  cases left <;> cases right <;> simp_all [ClientId.value]

/-- A gateway is what its values are. -/
theorem GatewayConfig.eq_of_values {left right : GatewayConfig}
    (same : ∀ setting, left.value setting = right.value setting) : left = right := by
  obtain ⟨⟨peers, version⟩, ⟨name, dial, incoming, outgoing, refresh⟩, ⟨buffer, flush, shutdown⟩,
    ⟨polling, channel, ack, commit, backoff⟩⟩ := left
  obtain ⟨⟨_, _⟩, ⟨_, _, _, _, _⟩, ⟨_, _, _⟩, ⟨_, _, _, _, _⟩⟩ := right
  obtain rfl := SettingValue.texts.inj (same (.kafka .seedPeers))
  obtain rfl := SettingValue.text.inj (same (.kafka .version))
  obtain rfl := ClientId.value_injective (same (.client .clientId))
  obtain rfl := SettingValue.word.inj (same (.client .dialTimeout))
  obtain rfl := SettingValue.word.inj (same (.client .readTimeout))
  obtain rfl := SettingValue.word.inj (same (.client .writeTimeout))
  obtain rfl := SettingValue.word.inj (same (.client .metadataRefresh))
  obtain rfl := SettingValue.word.inj (same (.producer .channelBufferSize))
  obtain rfl := SettingValue.word.inj (same (.producer .flushFrequency))
  obtain rfl := SettingValue.word.inj (same (.producer .shutdownTimeout))
  obtain rfl := SettingValue.word.inj (same (.consumer .longPollingTimeout))
  obtain rfl := SettingValue.word.inj (same (.consumer .channelBufferSize))
  obtain rfl := SettingValue.word.inj (same (.consumer .ackTimeout))
  obtain rfl := SettingValue.word.inj (same (.consumer .offsetsCommitInterval))
  obtain rfl := SettingValue.word.inj (same (.consumer .retryBackoff))
  rfl

/-- One gateway has the settings of a section. -/
theorem GatewayConfig.Reads.unique {left right : GatewayConfig} {table : Setting}
    (first : left.Reads table) (second : right.Reads table) : left = right :=
  GatewayConfig.eq_of_values fun setting => (first setting).trans (second setting).symm

/-- A tree of settings declares clusters with valid sections, and one of them as the default one. -/
structure Setting.Declares (tree : Setting) (default : String) : Prop where
  fits : tree.Fits
  chosen : (tree.at? SettingName.defaultCluster.path).bind text? = some default
  declared : (tree.at? ["proxies", default]).isSome = true
  valid : ∀ cluster table, tree.at? ["proxies", cluster] = some table →
    ∀ gateway : GatewayConfig, gateway.Reads table → gateway.faults = []

/-- A configuration has exactly the clusters that a tree of settings declares, each with the
settings of its own section, and the chosen one as the default one. -/
structure AppConfig.Keeps (config : AppConfig) (tree : Setting) (default : String) : Prop where
  names : ∀ cluster, cluster ∈ config.proxies.names ↔
    (tree.at? ["proxies", cluster]).isSome = true
  gateways : ∀ cluster table, tree.at? ["proxies", cluster] = some table →
    ∃ gateway, config.proxies.get? cluster = some gateway ∧ gateway.Reads table
  chosen : ∀ table, tree.at? ["proxies", default] = some table →
    ∃ gateway, config.defaultProxy? = some gateway ∧ gateway.Reads table

variable {tree all : Setting} {default : String}

/-- All names of configured clusters are lowercase. -/
theorem lowercase_of_mem_names {files : FileTree} {directory : String} {environment : Environment}
    {config : AppConfig} (loaded : AppConfig.load files directory environment = .ok config)
    {cluster : String} (there : cluster ∈ config.proxies.names) :
    Text.lowercase cluster = cluster := by
  obtain ⟨layers, -, decodes⟩ := AppConfig.exists_layers loaded
  have regular := regular_ofLayers layers
  obtain ⟨names, -⟩ := AppConfig.decoded decodes (isTable_ofLayers layers) regular.distinct
  rw [names, clusterNames] at there
  cases found : (ofLayers layers).child? "proxies" with
  | none =>
    rw [found] at there
    rw [List.mem_singleton.mp there]
    exact Text.lowercase_of_plain (by decide)
  | some clusters =>
    rw [found] at there
    exact (Everywhere.root (Everywhere.child regular found)).2 cluster there

/-- The gateway that is read from a section has its settings. -/
theorem Setting.Fits.gateway_reads (fits : tree.Fits) {cluster : String} {table : Setting}
    (leads : tree.at? ["proxies", cluster] = some table) {gateway : GatewayConfig}
    (read : toRecord {} GatewayConfig.settings table = .ok gateway) : gateway.Reads table := by
  intro setting
  have within (path : List String) :
      tree.at? (["proxies", cluster] ++ path) = table.at? path := by
    rw [at?_append, leads, Option.bind_some]
  have told : Told (toRecord {} GatewayConfig.settings) (some table) (some gateway) :=
    ⟨gateway, read, rfl⟩
  have decoded := told.inCluster setting fun inner same => by
    obtain rfl := Option.some.inj same
    have tabled := fits.tabledTo (.cluster cluster setting)
    obtain ⟨above, found, there⟩ := Option.bind_eq_some_iff.mp ((at?_pair ..).symm.trans leads)
    exact (tabled.2 above found).2 table there
  exact decoded.read fun node there => fits.read (.cluster cluster setting)
    ((within setting.path).trans there)

/-- A configuration with the values of a tree of settings has its gateways. -/
theorem AppConfig.Reads.gateway {config : AppConfig} (reads : config.Reads all) {cluster : String}
    {gateway : GatewayConfig} (there : config.proxies.get? cluster = some gateway)
    (same : ∀ setting : ClusterSetting, all.at? (SettingName.cluster cluster setting).path =
      tree.at? (SettingName.cluster cluster setting).path) {table : Setting}
    (leads : tree.at? ["proxies", cluster] = some table) : gateway.Reads table := by
  intro setting
  have value := reads.value (.cluster cluster setting) (gateway.value setting) (by
    rw [AppConfig.value?, there]
    rfl)
  have whole : tree.at? (SettingName.cluster cluster setting).path = table.at? setting.path := by
    have split : (SettingName.cluster cluster setting).path =
        ["proxies", cluster] ++ setting.path := rfl
    rw [split, at?_append, leads, Option.bind_some]
  rwa [same, whole] at value

/-- A configuration that keeps the valid clusters of a tree of settings is valid. -/
theorem faults_of_keeps {config : AppConfig} (declares : tree.Declares default)
    (keeps : config.Keeps tree default) : config.faults = [] := by
  have each : ∀ cluster gateway, (cluster, gateway) ∈ config.proxies.entries →
      gateway.faults = [] := by
    intro cluster gateway there
    have configured : config.proxies.get? cluster = some gateway :=
      lookup_of_mem config.proxies.distinct there
    have named := (keeps.names cluster).mp (List.mem_map_of_mem there)
    obtain ⟨table, leads⟩ := Option.isSome_iff_exists.mp named
    obtain ⟨found, same, reads⟩ := keeps.gateways cluster table leads
    obtain rfl : gateway = found := Option.some.inj (configured.symm.trans same)
    exact declares.valid cluster table leads gateway reads
  obtain ⟨table, leads⟩ := Option.isSome_iff_exists.mp declares.declared
  obtain ⟨gateway, found, -⟩ := keeps.chosen table leads
  have some_cluster : config.proxies.entries ≠ [] := by
    intro none_there
    simp [AppConfig.defaultProxy?, NameMap.get?, none_there] at found
  have set : config.clusterFaults = [] := by
    simp [AppConfig.clusterFaults, some_cluster, found, messageIf]
  rw [AppConfig.faults, set, List.nil_append, List.flatMap_eq_nil_iff]
  rintro ⟨cluster, gateway⟩ there
  have member := (KeyOrder.sort_perm config.proxies.entries).mem_iff.mp there
  simp [each cluster gateway member]

/-- In a tree of settings whose clusters have lowercase names, all keys are lowercase. -/
theorem Setting.Fits.small (fits : tree.Fits)
    (lowercase : ∀ cluster, (tree.at? ["proxies", cluster]).isSome = true →
      Text.lowercase cluster = cluster) : tree.Small := by
  intro path node leads key present
  have onward : (tree.at? (path ++ [key])).isSome = true := by
    rw [at?_append, leads, Option.bind_some, at?_single]
    exact isSome_child?_iff.mpr present
  obtain ⟨inner, there⟩ := Option.isSome_iff_exists.mp onward
  obtain ⟨name, before⟩ := fits.exists_before there
  cases name with
  | cluster cluster setting =>
    cases path with
    | nil =>
      obtain rfl : key = "proxies" := by simpa [SettingName.path] using before
      exact Text.lowercase_of_plain (by decide)
    | cons first path =>
      -- the path has come to the table of the cluster, so the name of the cluster is small
      obtain ⟨rfl, within⟩ : first = "proxies" ∧ path ++ [key] <+: cluster :: setting.path := by
        simpa [SettingName.path, List.cons_prefix_cons] using before
      obtain ⟨rest, same⟩ : ∃ rest, path ++ [key] = cluster :: rest := by
        obtain ⟨beyond, whole⟩ := within
        cases path with
        | nil => exact ⟨[], by simpa using (List.cons.inj whole).1⟩
        | cons second path => exact ⟨path ++ [key], by simp [(List.cons.inj whole).1]⟩
      have declared : (tree.at? ["proxies", cluster]).isSome = true := by
        have split : "proxies" :: path ++ [key] = ["proxies", cluster] ++ rest := by
          simp [same]
        rw [split, at?_append] at onward
        exact Option.isSome_of_isSome_bind onward
      have small : (SettingName.cluster cluster setting).IsSmall := lowercase cluster declared
      exact lowercase_of_mem_path _ small key (before.subset (by simp))
  | defaultCluster => exact lowercase_of_mem_path .defaultCluster trivial key (before.subset (by simp))
  | logLevel => exact lowercase_of_mem_path .logLevel trivial key (before.subset (by simp))
  | logJson => exact lowercase_of_mem_path .logJson trivial key (before.subset (by simp))

/-- Variables without the mark of the program make no settings. -/
theorem settings_of_unmarked {environment : Environment}
    (unmarked : ∀ entry ∈ environment, Environment.pathOf? entry.1 = none) :
    environment.settings = [] := by
  have nothing : environment.filterMap Environment.setting? = [] :=
    List.filterMap_eq_nil_iff.mpr fun entry there => by
      simp [Environment.setting?, unmarked entry there]
  rw [Environment.settings_eq_foldl, nothing]
  rfl

/-- A table without entries fits any settings. -/
theorem fits_emptyTable : emptyTable.Fits := by
  intro path node leads
  by_cases nonempty : path = []
  · subst nonempty
    obtain rfl := Option.some.inj leads
    have before : [] <+: SettingName.defaultCluster.path := List.nil_prefix
    exact .inr ⟨rfl, not_isSettingPath before (by decide), .defaultCluster, before⟩
  · simp [at?_emptyTable nonempty] at leads

/-- The trees of the presets and of a file, which is there again where the environment names it
too. -/
def fileTrees (shared own : List (String × Setting)) : List Setting :=
  presetTrees ++ [.table none shared, .table none own]

section SingleFile

variable {shared own : List (String × Setting)}

/-- What holds of the presets and of a file holds of all trees. -/
theorem forall_fileTrees {P : Setting → Prop} (preset : ∀ tree ∈ presetTrees, P tree)
    (file : P (.table none shared)) (nothing : P emptyTable) (alone : own = [] ∨ own = shared) :
    ∀ tree ∈ fileTrees shared own, P tree := by
  intro tree there
  rw [fileTrees, List.mem_append, List.mem_cons, List.mem_singleton] at there
  obtain there | rfl | rfl := there
  · exact preset tree there
  · exact file
  · obtain rfl | rfl := alone
    · exact nothing
    · exact file

/-- The layers of a file that is the only one are a stack of trees. -/
theorem stacked_fileTrees (alone : own = [] ∨ own = shared)
    (fits : (Setting.table none shared).Fits)
    (fair : Fair IsSettingPath (Setting.table none shared)) :
    Stacked IsSettingPath emptyTable (fileTrees shared own)
      (ofLayers [AppConfig.presetSettings, shared, own, []]) := by
  have ownFits : (Setting.table none own).Fits := by
    obtain rfl | rfl := alone
    · exact fits_emptyTable
    · exact fits
  have whole : ofLayers [AppConfig.presetSettings, shared, own, []] =
      (fileTrees shared own).foldl layOver emptyTable := by
    rw [fileTrees, List.foldl_append, ← layer_presetSettings, ofLayers]
    simp only [List.foldl_cons, List.foldl_nil, fits.layer_eq, ownFits.layer_eq, layer_nil]
  have nothing : Fair IsSettingPath emptyTable :=
    ⟨valuesAt_emptyTable, regular_emptyTable.distinct, fun path node leads =>
      (regular_emptyTable path node leads).2⟩
  rw [whole]
  exact stacked_foldl valuesAt_emptyTable
    (forall_fileTrees (fun tree there => (isLayer_presetTrees tree there).fair) fair nothing alone)

variable (alone : own = [] ∨ own = shared)
  (stacked : Stacked IsSettingPath emptyTable (fileTrees shared own) all)

include alone stacked

/-- All layers have at a setting what the file has there, or else the presets. -/
theorem at?_fileTrees (name : SettingName) : all.at? name.path =
    ((Setting.table none shared).at? name.path).or (topmost? name.path presetTrees) := by
  have nonempty : name.path ≠ [] := List.ne_nil_of_length_pos (length_path name).1
  have file : topmost? name.path [.table none shared, .table none own] =
      (Setting.table none shared).at? name.path := by
    obtain rfl | rfl := alone
    · have nothing : (Setting.table none []).at? name.path = none := at?_emptyTable nonempty
      simp [topmost?, nothing]
    · simp [topmost?]
  rw [stacked.value name.path ⟨name, rfl⟩, at?_emptyTable nonempty, Option.or_none, fileTrees,
    topmost?_append, file]

/-- All layers have the clusters of the file. -/
theorem isSome_at?_fileTrees (cluster : String) :
    (all.at? ["proxies", cluster]).isSome = true ↔
      ((Setting.table none shared).at? ["proxies", cluster]).isSome = true := by
  constructor
  · intro there
    obtain ⟨tree, member, somewhere⟩ := stacked.exists_tree (by simp) there
    revert somewhere
    refine forall_fileTrees (P := fun tree => (tree.at? ["proxies", cluster]).isSome = true → _)
      (fun tree member somewhere => ?_) id (fun somewhere => ?_) alone tree member
    · -- the presets have no clusters
      simp only [presetTrees, List.mem_cons, List.not_mem_nil, or_false] at member
      rcases member with rfl | rfl | rfl
      all_goals
        rw [at?_nest rfl, if_neg (by simp [SettingName.path, List.cons_prefix_cons])] at somewhere
        simp at somewhere
    · simp [at?_emptyTable] at somewhere
  · intro there
    exact (stacked.somewhere _).mpr (.inl ⟨_, by simp [fileTrees], there⟩)

/-- What is decoded from the layers of a file has its clusters. -/
theorem keeps_of_reads {config : AppConfig} (reads : config.Reads all)
    (declares : (Setting.table none shared).Declares default) :
    config.Keeps (.table none shared) default := by
  have there := isSome_at?_fileTrees alone stacked
  have names (cluster : String) : cluster ∈ config.proxies.names ↔
      ((Setting.table none shared).at? ["proxies", cluster]).isSome = true := by
    have declared := (there default).mpr declares.declared
    rw [at?_pair] at declared
    obtain ⟨clusters, found⟩ := Option.isSome_iff_exists.mp (Option.isSome_of_isSome_bind declared)
    rw [reads.clusters, clusterNames, found, ← there, at?_pair, found]
    exact isSome_child?_iff.symm
  have gateways (cluster : String) (table : Setting)
      (leads : (Setting.table none shared).at? ["proxies", cluster] = some table) :
      ∃ gateway, config.proxies.get? cluster = some gateway ∧ gateway.Reads table := by
    have configured : (config.proxies.get? cluster).isSome = true :=
      (isSome_lookup_iff cluster _).mpr ((names cluster).mpr (by simp [leads]))
    obtain ⟨gateway, found⟩ := Option.isSome_iff_exists.mp configured
    refine ⟨gateway, found, reads.gateway found (fun setting => ?_) leads⟩
    rw [at?_fileTrees alone stacked, topmost?_presetTrees_cluster, Option.or_none]
  refine ⟨names, gateways, fun table leads => ?_⟩
  have chosen : config.defaultCluster = default := by
    have value := reads.value .defaultCluster _ rfl
    obtain ⟨node, found, text⟩ := Option.bind_eq_some_iff.mp declares.chosen
    rw [at?_fileTrees alone stacked, found, Option.some_or, Option.bind_some] at value
    have read : SettingName.defaultCluster.kind.read? node = some (.text default) := by
      simp [SettingName.kind, ValueKind.read?, text]
    rw [read] at value
    exact SettingValue.text.inj value
  rw [AppConfig.defaultProxy?, chosen]
  exact gateways default table leads

end SingleFile

/-- A file whose sections are valid and which chooses one of them as the default one keeps its
clusters, as long as it is the only one and no variable sets anything, exactly when the names of its
clusters are lowercase. -/
theorem load_keeps_clusters_iff {files : FileTree} {directory : String} {environment : Environment}
    {shared own : List (String × Setting)} {default : String}
    (readShared : files.settings (settingsPath directory "default.toml") = .ok shared)
    (readOwn : files.settings (settingsPath directory
      ((environment.lookup environmentVariable).getD presetEnvironment)) = .ok own)
    (alone : own = [] ∨ own = shared)
    (unmarked : ∀ entry ∈ environment, Environment.pathOf? entry.1 = none)
    (declares : (Setting.table none shared).Declares default) :
    (∃ config, AppConfig.load files directory environment = .ok config ∧
      config.Keeps (.table none shared) default) ↔
    ∀ cluster, ((Setting.table none shared).at? ["proxies", cluster]).isSome = true →
      Text.lowercase cluster = cluster := by
  constructor
  · rintro ⟨config, loaded, keeps⟩ cluster declared
    exact lowercase_of_mem_names loaded ((keeps.names cluster).mpr declared)
  · intro lowercase
    have fair : Fair IsSettingPath (Setting.table none shared) :=
      ⟨declares.fits.valuesAt, FileTree.distinct_settings readShared, declares.fits.small lowercase⟩
    have stacked := stacked_fileTrees alone declares.fits fair
    have fits := stacked.fits (forall_fileTrees
      (fun tree there => (isLayer_presetTrees tree there).fits) declares.fits fits_emptyTable alone)
    obtain ⟨config, decodes, reads⟩ :=
      fits.decodes (regular_ofLayers _).distinct (isTable_ofLayers _)
    have keeps := keeps_of_reads alone stacked reads declares
    refine ⟨config, ?_, keeps⟩
    have decoded : ((AppConfig.layers files directory environment).bind fun layers =>
        AppConfig.ofSetting (ofLayers layers)) = .ok config := by
      rw [← decodes, ← settings_of_unmarked unmarked]
      simp only [AppConfig.layers, readShared, readOwn]
      rfl
    rw [AppConfig.load, decoded]
    simp [faults_of_keeps declares keeps]

/-- What a tree of settings with valid sections can have at a path. -/
def validAt? (path : List String) (node : Setting) : Bool :=
  fitsAt? path node &&
    match path with
    | ["proxies", _] => (toRecord {} GatewayConfig.settings node).toOption.any fun gateway =>
        gateway.faults.isEmpty
    | _ => true

/-- The check of a tree of settings with valid sections is sound. -/
theorem declares_of_check (checked : tree.checkAll validAt? [] = true)
    (chosen : (tree.at? SettingName.defaultCluster.path).bind text? = some default)
    (declared : (tree.at? ["proxies", default]).isSome = true) : tree.Declares default := by
  have each {path : List String} {node : Setting} (leads : tree.at? path = some node) :
      validAt? path node = true := check_of_checkAll checked leads
  simp only [validAt?, Bool.and_eq_true] at each
  have fits : tree.Fits := fun path node leads => fitsAt_of_check (each leads).1
  refine ⟨fits, chosen, declared, fun cluster table leads gateway reads => ?_⟩
  have valid := (each leads).2
  cases read : toRecord {} GatewayConfig.settings table with
  | error fault => simp [read, Except.toOption] at valid
  | ok found =>
    rw [reads.unique (fits.gateway_reads leads read)]
    simpa [read, Except.toOption] using valid

/-- A file that declares one cluster, with all presets, and chooses it as the default one. -/
def oneCluster (name : String) : FileTree :=
  .ofTexts [("config/default.toml",
    some ("default_cluster = \"" ++ name ++ "\"\n[proxies." ++ name ++ "]\n"))]

/-- Settings that declare a cluster and choose it as the default one. -/
def declares? (name : String) (entries : List (String × Setting)) : Bool :=
  let tree := Setting.table none entries
  tree.checkAll validAt? [] &&
    (tree.at? SettingName.defaultCluster.path).bind text? == some name &&
    (tree.at? ["proxies", name]).isSome

/-- Settings that pass the test declare a cluster. -/
theorem declares_of_declares? {name : String} {entries : List (String × Setting)}
    (passed : declares? name entries = true) : (Setting.table none entries).Declares name := by
  simp only [declares?, Bool.and_eq_true, beq_iff_eq] at passed
  exact declares_of_check passed.1.1 passed.1.2 passed.2

/-- A file that declares two clusters, each with a setting of its own, and chooses the second. -/
def twoClusters : FileTree := .ofTexts [("config/default.toml", some
  "default_cluster = \"west\"\n[proxies.east.kafka]\nversion = \"1\"\n[proxies.west.consumer]\nlong_polling_timeout_ms = 5\n")]

/-- All keys of settings are lowercase. -/
def smallAt? (path : List String) (_ : Setting) : Bool :=
  path.all fun key => Text.lowercase key == key

/-- Two clusters with lowercase names are kept, each with its own settings. -/
theorem load_keeps_clusters_iff_twoClusters : ∃ shared config,
    twoClusters.settings "config/default.toml" = .ok shared ∧
    AppConfig.load twoClusters "config" [] = .ok config ∧
    config.Keeps (.table none shared) "west" ∧
    [SettingName.cluster "east" (.kafka .version),
        .cluster "east" (.consumer .longPollingTimeout), .cluster "west" (.kafka .version),
        .cluster "west" (.consumer .longPollingTimeout)].map config.value? =
      [some (.text "1"), some (.word 3000), some (.text "0.10.2.1"), some (.word 5)] := by
  have tested : (twoClusters.settings "config/default.toml").toOption.any (fun entries =>
      declares? "west" entries && (Setting.table none entries).checkAll smallAt? []) = true := by
    decide +kernel
  have missing : (twoClusters.settings "config/development").toOption.any
      List.isEmpty = true := by decide +kernel
  obtain ⟨shared, readShared, passed⟩ := exists_settings tested
  obtain ⟨declaring, small⟩ := Bool.and_eq_true_iff.mp passed
  obtain ⟨own, readOwn, empty⟩ := exists_settings missing
  have sharedPath : settingsPath "config" "default.toml" = "config/default.toml" := by decide
  have ownPath : settingsPath "config" ((([] : Environment).lookup environmentVariable).getD
      presetEnvironment) = "config/development" := by decide
  have lowercase (cluster : String)
      (declared : ((Setting.table none shared).at? ["proxies", cluster]).isSome = true) :
      Text.lowercase cluster = cluster := by
    obtain ⟨table, leads⟩ := Option.isSome_iff_exists.mp declared
    have each := check_of_checkAll small leads
    simp only [smallAt?, List.all_eq_true, beq_iff_eq] at each
    exact each cluster (by simp)
  have kept : (∃ config, AppConfig.load twoClusters "config" [] = .ok config ∧
      config.Keeps (.table none shared) "west") ↔
        ∀ cluster, ((Setting.table none shared).at? ["proxies", cluster]).isSome = true →
          Text.lowercase cluster = cluster :=
    load_keeps_clusters_iff (sharedPath ▸ readShared) (ownPath ▸ readOwn)
      (.inl (List.isEmpty_iff.mp empty)) nofun (declares_of_declares? declaring)
  obtain ⟨config, loaded, keeps⟩ := kept.mpr lowercase
  have values : (AppConfig.load twoClusters "config" []).toOption.map (fun config =>
      [SettingName.cluster "east" (.kafka .version),
        .cluster "east" (.consumer .longPollingTimeout), .cluster "west" (.kafka .version),
        .cluster "west" (.consumer .longPollingTimeout)].map config.value?) =
      some [some (.text "1"), some (.word 3000), some (.text "0.10.2.1"), some (.word 5)] := by
    decide +kernel
  rw [loaded] at values
  exact ⟨shared, config, readShared, loaded, keeps, Option.some.inj values⟩

/-- A cluster whose name has a capital letter is lost: what is valid by itself is not loaded. -/
theorem load_loses_capitals : ∃ shared,
    (oneCluster "East").settings "config/default.toml" = .ok shared ∧
    (Setting.table none shared).Declares "East" ∧
    AppConfig.load (oneCluster "East") "config" [] =
      .error (.invalidConfiguration ["default cluster \"East\" has no proxy configuration"]) := by
  have tested : ((oneCluster "East").settings "config/default.toml").toOption.any
      (declares? "East") = true := by decide +kernel
  obtain ⟨shared, readShared, passed⟩ := exists_settings tested
  exact ⟨shared, readShared, declares_of_declares? passed, by decide +kernel⟩

end ClusterGateway
