import ClusterGateway.Proofs.Config.Fitting
import ClusterGateway.Proofs.Config.Spelling
import ClusterGateway.Proofs.Settings.Documents

/-!
# The last layer that sets a value decides

The configuration is decoded from presets, a file that all environments share, the file of one
environment and the variables. Where each layer holds settings with values of their kinds, the
decoded configuration has at every setting the value of the last layer that sets it, and the
preset value where none does; its clusters are those that some layer sets a value of, or the
preset one alone. Main statement: `load_layered`.
-/

namespace ClusterGateway

open Setting

variable {tree base : Setting} {path : List String}

namespace Setting

/-- Whatever paths lead to in a tree of settings, a path to a value leads through it. -/
def LeadsToValues (tree : Setting) : Prop :=
  ∀ path, path ≠ [] → (tree.at? path).isSome = true →
    ∃ name : SettingName, path <+: name.path ∧ (tree.at? name.path).isSome = true

/-- A tree of settings that can be laid over others, without tables that lead to no value. -/
structure IsLayer (tree : Setting) : Prop where
  fair : Fair IsSettingPath tree
  fits : tree.Fits
  leads : tree.LeadsToValues

/-- The tree of a single value of the kind of its setting. -/
theorem isLayer_nest {name : SettingName} {value : Setting}
    (read : (name.kind.read? value).isSome = true)
    (small : ∀ key ∈ name.path, Text.lowercase key = key) : IsLayer (nest value name.path) := by
  have single := isTable_of_read? read
  refine ⟨fair_nest prefixFree_isSettingPath single ⟨name, rfl⟩ small, ?_, ?_⟩
  · intro path node leads
    rw [at?_nest single] at leads
    split at leads
    · rename_i before
      obtain rfl := Option.some.inj leads
      by_cases here : IsSettingPath path
      · obtain rfl := prefixFree_isSettingPath path name.path here ⟨name, rfl⟩ before
        exact .inl ⟨name, rfl, by simpa [nest] using read⟩
      · refine .inr ⟨?_, here, name, before⟩
        rw [isTable_nest single, Bool.not_eq_true', List.isEmpty_eq_false_iff, Ne,
          List.drop_eq_nil_iff, Nat.not_le]
        refine Nat.lt_of_le_of_ne before.length_le fun same => here ⟨name, ?_⟩
        exact before.eq_of_length same
    · simp at leads
  · intro path _ there
    rw [at?_nest single] at there
    split at there
    · rename_i before
      exact ⟨name, before, by simp [at?_nest single]⟩
    · simp at there

/-- A path of a setting is not empty, and four keys long at most. -/
theorem length_path (name : SettingName) : 0 < name.path.length ∧ name.path.length ≤ 4 := by
  cases name <;> simp [SettingName.path, ClusterSetting.path]

/-- In a tree of settings without empty tables, but for the root, all paths lead to values. -/
theorem Fits.leadsToValues (fits : tree.Fits)
    (full : ∀ path node, path ≠ [] → tree.at? path = some node → node.isTable = true →
      node.keys ≠ []) : tree.LeadsToValues := by
  intro path nonempty there
  -- the induction is on what is left of four keys
  obtain ⟨left, rank⟩ : ∃ left, left = 4 - path.length := ⟨_, rfl⟩
  induction left using Nat.strongRecOn generalizing path with
  | ind left ih =>
    obtain ⟨node, leads⟩ := Option.isSome_iff_exists.mp there
    obtain ⟨name, rfl, -⟩ | ⟨table, branch, name, before⟩ := fits path node leads
    · exact ⟨name, List.prefix_rfl, there⟩
    · have short : path.length < 4 := by
        have within := before.length_le
        have bound := (length_path name).2
        refine Nat.lt_of_le_of_ne (by omega) fun same => branch ⟨name, ?_⟩
        exact before.eq_of_length (by omega)
      obtain ⟨key, present⟩ := List.exists_mem_of_ne_nil _ (full path node nonempty leads table)
      have onward : (tree.at? (path ++ [key])).isSome = true := by
        rw [at?_append, leads, Option.bind_some, at?_single]
        exact isSome_child?_iff.mpr present
      obtain ⟨other, beyond, value⟩ := ih (4 - (path.length + 1)) (by omega) (path ++ [key])
        (by simp) onward (by simp)
      exact ⟨other, (List.prefix_append path [key]).trans beyond, value⟩

variable {trees : List Setting} {all : Setting}

/-- The table without entries has no values. -/
theorem valuesAt_emptyTable : emptyTable.ValuesAt IsSettingPath := by
  intro path node leads
  by_cases nonempty : path = []
  · subst nonempty
    obtain rfl := Option.some.inj leads
    constructor
    · rintro ⟨name, same⟩
      simpa [← same] using (length_path name).1
    · intro single
      simp [isTable, emptyTable] at single
  · simp [at?_emptyTable nonempty] at leads

/-- Where something is in a stack of trees, something is in one of them. -/
theorem Stacked.exists_tree (stacked : Stacked IsSettingPath emptyTable trees all)
    (nonempty : path ≠ []) (there : (all.at? path).isSome = true) :
    ∃ tree ∈ trees, (tree.at? path).isSome = true := by
  obtain found | below := (stacked.somewhere path).mp there
  · exact found
  · simp [at?_emptyTable nonempty] at below

/-- A stack of trees of settings is a tree of settings. -/
theorem Stacked.fits (stacked : Stacked IsSettingPath emptyTable trees all)
    (fits : ∀ tree ∈ trees, tree.Fits) : all.Fits := by
  intro path node leads
  have values := stacked.values path node leads
  by_cases here : IsSettingPath path
  · obtain ⟨name, rfl⟩ := here
    have nonempty : name.path ≠ [] := List.ne_nil_of_length_pos (length_path name).1
    rw [stacked.value name.path ⟨name, rfl⟩, at?_emptyTable nonempty, Option.or_none] at leads
    obtain ⟨tree, there, leads⟩ := exists_of_topmost? leads
    exact .inl ⟨name, rfl, (fits tree there).read name leads⟩
  · refine .inr ⟨by simpa [here] using values, here, ?_⟩
    by_cases nonempty : path = []
    · exact ⟨.defaultCluster, nonempty ▸ List.nil_prefix⟩
    · obtain ⟨tree, there, somewhere⟩ := stacked.exists_tree nonempty (by simp [leads])
      obtain ⟨inner, leads⟩ := Option.isSome_iff_exists.mp somewhere
      exact (fits tree there).exists_before leads

/-- In a stack of trees whose paths lead to values, all paths do. -/
theorem Stacked.leads (stacked : Stacked IsSettingPath emptyTable trees all)
    (layers : ∀ tree ∈ trees, tree.IsLayer) : all.LeadsToValues := by
  intro path nonempty there
  obtain ⟨tree, member, somewhere⟩ := stacked.exists_tree nonempty there
  obtain ⟨name, before, value⟩ := (layers tree member).leads path nonempty somewhere
  exact ⟨name, before, (stacked.somewhere name.path).mpr (.inl ⟨tree, member, value⟩)⟩

/-- What a file of settings holds: a tree of the settings' keys with values of their kinds, without
empty tables below its root, and with lowercase names of clusters. -/
structure IsPlain (tree : Setting) : Prop where
  fits : tree.Fits
  full : ∀ path node, path ≠ [] → tree.at? path = some node → node.isTable = true → node.keys ≠ []
  small : ∀ name : SettingName, (tree.at? name.path).isSome = true → name.IsSmall

/-- What such a tree can have at a path. -/
def plainAt? (path : List String) (node : Setting) : Bool :=
  fitsAt? path node && (path.isEmpty || !node.isTable || !node.keys.isEmpty) &&
    match path with
    | ["proxies", cluster] => Text.lowercase cluster == cluster
    | _ => true

/-- The check of such a tree is sound. -/
theorem isPlain_of_check (checked : tree.checkAll plainAt? [] = true) : tree.IsPlain := by
  have each {path : List String} {node : Setting} (leads : tree.at? path = some node) :
      plainAt? path node = true := check_of_checkAll checked leads
  simp only [plainAt?, Bool.and_eq_true] at each
  refine ⟨fun path node leads => fitsAt_of_check (each leads).1.1, ?_, fun name there => ?_⟩
  · intro path node nonempty leads table
    simpa [nonempty, table] using (each leads).1.2
  · cases name with
    | cluster cluster setting =>
      have whole : (SettingName.cluster cluster setting).path =
          ["proxies", cluster] ++ setting.path := rfl
      rw [whole, at?_append] at there
      obtain ⟨table, leads⟩ := Option.isSome_iff_exists.mp (Option.isSome_of_isSome_bind there)
      have small : Text.lowercase cluster = cluster := by simpa using (each leads).2
      exact small
    | _ => trivial

/-- Such a tree can be laid over others if no key comes twice in it. -/
theorem IsPlain.isLayer (plain : tree.IsPlain) (distinct : tree.Distinct) : tree.IsLayer := by
  have leads := plain.fits.leadsToValues plain.full
  refine ⟨⟨plain.fits.valuesAt, distinct, fun path node there key present => ?_⟩, plain.fits, leads⟩
  -- the key stands on the path of a value in the tree
  have onward : (tree.at? (path ++ [key])).isSome = true := by
    rw [at?_append, there, Option.bind_some, at?_single]
    exact isSome_child?_iff.mpr present
  obtain ⟨name, before, value⟩ := leads (path ++ [key]) (by simp) onward
  exact lowercase_of_mem_path name (plain.small name value) key (before.subset (by simp))

/-- A file of settings is a tree that is laid over what is below it. -/
theorem Fits.layer_eq {entries : List (String × Setting)}
    (fits : (Setting.table none entries).Fits) (base : Setting) :
    base.layer entries = layOver base (.table none entries) := by
  refine layer_eq_layOver (fun key there => ?_) base none
  have present : ((Setting.table none entries).at? [key]).isSome = true := by
    rw [at?_single]
    exact isSome_child?_iff.mpr there
  obtain ⟨node, leads⟩ := Option.isSome_iff_exists.mp present
  obtain ⟨name, before⟩ := fits.exists_before leads
  cases name with
  | defaultCluster =>
    obtain rfl : key = "default_cluster" := by simpa [SettingName.path] using before
    decide
  | cluster =>
    obtain rfl : key = "proxies" := by simpa [SettingName.path] using before
    decide
  | _ =>
    obtain rfl : key = "logging" := by simpa [SettingName.path] using before
    decide

end Setting

/-- What the environment holds: every variable with the mark of the program names a setting, and
its text is taken for a value of the kind of the setting; no two name the same one. -/
structure Environment.IsPlain (environment : Environment) : Prop where
  named : ∀ entry ∈ environment, (pathOf? entry.1).isSome = true →
    ∃ name : SettingName, name.IsSmall ∧ denotes entry.1 name.path = true ∧
      (name.kind.read? (written entry.2)).isSome = true
  once : environment.Pairwise fun first second =>
    ∀ name : SettingName, denotes first.1 name.path = true → denotes second.1 name.path = false

namespace Environment

variable {environment : Environment}

/-- Such variables name settings without ambiguity. -/
theorem IsPlain.unambiguous (plain : environment.IsPlain) :
    Unambiguous IsSettingPath environment where
  named entry there marked := by
    obtain ⟨name, small, denoted, -⟩ := plain.named entry there marked
    exact ⟨name.path, ⟨name, rfl⟩, lowercase_of_mem_path name small, denoted⟩
  once := plain.once.imp fun apart path ⟨name, same⟩ => same ▸ apart name

/-- The trees of such variables can be laid over others. -/
theorem IsPlain.isLayer (plain : environment.IsPlain) : ∀ tree ∈ environment.trees, tree.IsLayer := by
  intro tree there
  obtain ⟨entry, member, path, -, -, denoted, rfl⟩ := plain.unambiguous.tree_forms there
  obtain ⟨key, spelled, -⟩ := denotes_iff.mp denoted
  obtain ⟨name, small, named, read⟩ := plain.named entry member (by simp [spelled])
  obtain rfl := path_unique denoted named
  exact isLayer_nest read (lowercase_of_mem_path name small)

end Environment

/-- The trees of the presets. -/
def presetTrees : List Setting :=
  [nest (unwritten (.text defaultClusterName)) SettingName.defaultCluster.path,
    nest (unwritten (.text "info")) SettingName.logLevel.path,
    nest (unwritten (.flag false)) SettingName.logJson.path]

/-- The presets are trees of single values. -/
theorem layer_presetSettings (base : Setting) :
    base.layer AppConfig.presetSettings = presetTrees.foldl layOver base := by
  refine layer_eq_foldl (fun entry there => ?_) base
  simp only [AppConfig.presetSettings, List.mem_cons, List.not_mem_nil, or_false] at there
  rcases there with rfl | rfl | rfl
  · exact ⟨SettingName.defaultCluster.path, by decide⟩
  · exact ⟨SettingName.logLevel.path, by decide⟩
  · exact ⟨SettingName.logJson.path, by decide⟩

/-- The trees of the presets can be laid over others. -/
theorem isLayer_presetTrees : ∀ tree ∈ presetTrees, tree.IsLayer := by
  simp only [presetTrees, List.mem_cons, List.not_mem_nil, or_false]
  rintro _ (rfl | rfl | rfl) <;> exact isLayer_nest rfl (lowercase_of_mem_path _ trivial)

/-- The tree of a preset leads to its value only. -/
theorem at?_preset (own name : SettingName) (value : Scalar) :
    (nest (unwritten value) own.path).at? name.path =
      if name = own then some (unwritten value) else none := by
  rw [at?_nest_of_leaf prefixFree_isSettingPath rfl ⟨own, rfl⟩ ⟨name, rfl⟩]
  exact if_congr ⟨SettingName.path_injective, fun same => same ▸ rfl⟩ rfl rfl

/-- The presets have at each setting its preset value, or nothing. -/
theorem topmost?_presetTrees (name : SettingName) :
    ((topmost? name.path presetTrees).bind name.kind.read?).getD name.preset = name.preset := by
  simp only [presetTrees, topmost?, at?_preset]
  cases name <;> rfl

/-- The presets have nothing at the settings of clusters. -/
theorem topmost?_presetTrees_cluster (cluster : String) (setting : ClusterSetting) :
    topmost? (SettingName.cluster cluster setting).path presetTrees = none := by
  simp only [presetTrees, topmost?, at?_preset]
  rfl

/-- What the last layer that sets a setting gives it: the environment, the file of the environment,
or the file that all environments share. -/
def given? (environment : Environment) (own shared : Setting) (name : SettingName) :
    Option SettingValue :=
  ((environment.told? name.path).or ((own.at? name.path).or (shared.at? name.path))).bind
    name.kind.read?

/-- A configuration that has at every setting the given value, or the preset one where none is
given, and the clusters that a value is given for, or the preset one where there are none. -/
structure AppConfig.Follows (config : AppConfig) (given : SettingName → Option SettingValue) :
    Prop where
  value : ∀ name value, config.value? name = some value → value = (given name).getD name.preset
  clusters : ∀ cluster, cluster ∈ config.proxies.names ↔
    (∃ setting, (given (.cluster cluster setting)).isSome = true) ∨
      (cluster = defaultClusterName ∧ ∀ other setting, given (.cluster other setting) = none)

section Layers

variable {environment : Environment} {own shared : Setting} {all : Setting}

/-- The trees of all layers, the lowest first. -/
def layerTrees (environment : Environment) (own shared : Setting) : List Setting :=
  presetTrees ++ ([shared, own] ++ environment.trees)

/-- All layers hold trees of settings. -/
theorem isLayer_layerTrees (plain : environment.IsPlain) (ownLayer : own.IsLayer)
    (sharedLayer : shared.IsLayer) : ∀ tree ∈ layerTrees environment own shared, tree.IsLayer := by
  intro tree there
  rw [layerTrees, List.mem_append, List.mem_append] at there
  obtain preset | file | named := there
  · exact isLayer_presetTrees tree preset
  · obtain rfl | later := List.mem_cons.mp file
    · exact sharedLayer
    · rwa [List.mem_singleton.mp later]
  · exact plain.isLayer tree named

/-- What all layers together have at a setting is what the last of them gives it, or what the
presets have there. -/
theorem at?_layers (plain : environment.IsPlain)
    (stacked : Stacked IsSettingPath emptyTable (layerTrees environment own shared) all)
    (name : SettingName) :
    all.at? name.path =
      ((environment.told? name.path).or ((own.at? name.path).or (shared.at? name.path))).or
        (topmost? name.path presetTrees) := by
  have nonempty : name.path ≠ [] := List.ne_nil_of_length_pos (length_path name).1
  have told := plain.unambiguous.topmost?_trees prefixFree_isSettingPath ⟨name, rfl⟩
  rw [stacked.value name.path ⟨name, rfl⟩, at?_emptyTable nonempty, Option.or_none, layerTrees,
    topmost?_append, topmost?_append, told]
  simp [topmost?]

/-- What is read from all layers together. -/
theorem read_layers (plain : environment.IsPlain)
    (stacked : Stacked IsSettingPath emptyTable (layerTrees environment own shared) all)
    (name : SettingName) :
    ((all.at? name.path).bind name.kind.read?).getD name.preset =
      (given? environment own shared name).getD name.preset := by
  rw [at?_layers plain stacked, given?]
  cases (environment.told? name.path).or ((own.at? name.path).or (shared.at? name.path)) with
  | none => exact topmost?_presetTrees name
  | some node => rfl

/-- All layers together have something at a setting of a cluster exactly where one of them gives
it a value. -/
theorem isSome_at?_cluster (plain : environment.IsPlain) (fits : all.Fits)
    (stacked : Stacked IsSettingPath emptyTable (layerTrees environment own shared) all)
    (cluster : String) (setting : ClusterSetting) :
    (all.at? (SettingName.cluster cluster setting).path).isSome = true ↔
      (given? environment own shared (.cluster cluster setting)).isSome = true := by
  have whole := at?_layers plain stacked (.cluster cluster setting)
  rw [topmost?_presetTrees_cluster, Option.or_none] at whole
  rw [given?, ← whole]
  cases leads : all.at? (SettingName.cluster cluster setting).path with
  | none => simp
  | some node => simpa using fits.read (.cluster cluster setting) leads

/-- The clusters of a tree of settings whose paths lead to values are those that it has a value of,
or the preset one where it has none of any. -/
theorem mem_clusterNames_iff (leads : all.LeadsToValues) (cluster : String) :
    cluster ∈ clusterNames all ↔
      (∃ setting, (all.at? (SettingName.cluster cluster setting).path).isSome = true) ∨
        (cluster = defaultClusterName ∧
          ∀ other setting, all.at? (SettingName.cluster other setting).path = none) := by
  rw [clusterNames]
  cases found : all.child? "proxies" with
  | none =>
    have nothing (other : String) (setting : ClusterSetting) :
        all.at? (SettingName.cluster other setting).path = none := by
      rw [SettingName.path, at?, found]
      rfl
    simp [nothing]
  | some clusters =>
    have named {other : String} :
        (all.at? ["proxies", other]).isSome = true ↔ other ∈ clusters.keys := by
      rw [at?_pair, found, Option.bind_some]
      exact isSome_child?_iff
    constructor
    · intro there
      obtain ⟨name, before, value⟩ := leads ["proxies", cluster] (by simp) (named.mpr there)
      cases name with
      | cluster other setting =>
        obtain rfl : cluster = other := by
          simpa [SettingName.path, List.cons_prefix_cons] using before
        exact .inl ⟨setting, value⟩
      | _ => simp [SettingName.path, List.cons_prefix_cons] at before
    · rintro (⟨setting, value⟩ | ⟨-, nothing⟩)
      · refine named.mp ?_
        have whole : (SettingName.cluster cluster setting).path =
            ["proxies", cluster] ++ setting.path := rfl
        rw [whole, at?_append] at value
        exact Option.isSome_of_isSome_bind value
      · -- a table of clusters leads to a value of some cluster
        have present : (all.at? ["proxies"]).isSome = true := by
          rw [at?_single, found]
          rfl
        obtain ⟨name, before, value⟩ := leads ["proxies"] (by simp) present
        cases name with
        | cluster other setting => simp [nothing] at value
        | _ => simp [SettingName.path, List.cons_prefix_cons] at before

end Layers

/-- Where the two files and the variables hold settings with values of their kinds, the
configuration that is decoded has at every setting what the last of the three gives it, or else the
preset value, and the clusters that one of them gives a value to, or else the preset one. It is
loaded if it is valid. The variable of a setting is spelled with the mark of the program and the
keys of the setting, in any letter case. -/
theorem load_layered {files : FileTree} {directory : String} {environment : Environment}
    {shared own : List (String × Setting)}
    (readShared : files.settings (settingsPath directory "default.toml") = .ok shared)
    (readOwn : files.settings (settingsPath directory
      ((environment.lookup environmentVariable).getD presetEnvironment)) = .ok own)
    (sharedPlain : (Setting.table none shared).IsPlain)
    (ownPlain : (Setting.table none own).IsPlain) (plain : environment.IsPlain) :
    (∃ config : AppConfig,
      config.Follows (given? environment (.table none own) (.table none shared)) ∧
      AppConfig.load files directory environment =
        if config.faults.isEmpty then .ok config
        else .error (.invalidConfiguration config.faults)) ∧
    ∀ (name : String) (setting : SettingName), setting.IsPlain →
      Text.lowercase name = "broker_proxy__" ++ "__".intercalate setting.path →
        Environment.denotes name setting.path = true := by
  refine ⟨?_, fun name setting named spelled => denotes_setting named spelled⟩
  have layers := isLayer_layerTrees plain (ownPlain.isLayer (FileTree.distinct_settings readOwn))
    (sharedPlain.isLayer (FileTree.distinct_settings readShared))
  -- the four layers are one stack of trees
  have whole : ofLayers [AppConfig.presetSettings, shared, own, environment.settings] =
      (layerTrees environment (.table none own) (.table none shared)).foldl layOver emptyTable := by
    rw [layerTrees, List.foldl_append, List.foldl_append, ← layer_presetSettings,
      ← plain.unambiguous.layer_settings, ofLayers]
    simp only [List.foldl_cons, List.foldl_nil, sharedPlain.fits.layer_eq, ownPlain.fits.layer_eq]
  have stacked := stacked_foldl valuesAt_emptyTable fun tree there => (layers tree there).fair
  have fits := stacked.fits fun tree there => (layers tree there).fits
  have regular := regular_ofLayers [AppConfig.presetSettings, shared, own, environment.settings]
  rw [whole] at regular
  have root := isTable_ofLayers [AppConfig.presetSettings, shared, own, environment.settings]
  rw [whole] at root
  obtain ⟨config, decodes, reads⟩ := fits.decodes regular.distinct root
  refine ⟨config, ⟨fun name value there => ?_, fun cluster => ?_⟩, ?_⟩
  · rw [← read_layers plain stacked]
    exact reads.value name value there
  · have unset (other : String) (setting : ClusterSetting) := by
      simpa using not_congr (isSome_at?_cluster plain fits stacked other setting)
    rw [reads.clusters, mem_clusterNames_iff (stacked.leads layers)]
    simp only [isSome_at?_cluster plain fits stacked, unset]
  · have decoded : ((AppConfig.layers files directory environment).bind fun layers =>
        AppConfig.ofSetting (ofLayers layers)) = .ok config := by
      rw [← decodes, ← whole]
      simp only [AppConfig.layers, readShared, readOwn]
      rfl
    rw [AppConfig.load, decoded]

/-- The settings of a file that pass a test. -/
theorem exists_settings {files : FileTree} {path : String}
    {test : List (String × Setting) → Bool}
    (tested : (files.settings path).toOption.any test = true) :
    ∃ entries, files.settings path = .ok entries ∧ test entries = true := by
  cases read : files.settings path with
  | error fault => simp [read, Except.toOption] at tested
  | ok entries => exact ⟨entries, rfl, by simpa [read, Except.toOption] using tested⟩

/-- A file that all environments share and the file of one of them. -/
def layeredFiles : FileTree := .ofTexts
  [("config/default.toml", some
      "[proxies.east.kafka]\nversion = \"1\"\nseed_peers = [\"a:1\", \"b:2\"]"),
    ("config/staging.json", some
      "\x7b\"proxies\": \x7b\"east\": \x7b\"kafka\": \x7b\"seed_peers\": [\"c:3\"]\x7d\x7d\x7d\x7d")]

/-- The variable that names the environment, and one that sets a value. -/
def layeredEnvironment : Environment :=
  [("BROKER_PROXY_ENV", "staging"), ("BROKER_PROXY__DEFAULT_CLUSTER", "east")]

/-- The value of a later layer replaces the one of an earlier layer, a list as a whole. -/
theorem load_layered_staging : ∃ shared own config,
    layeredFiles.settings "config/default.toml" = .ok shared ∧
    layeredFiles.settings "config/staging" = .ok own ∧
    config.Follows (given? layeredEnvironment (.table none own) (.table none shared)) ∧
    (AppConfig.load layeredFiles "config" layeredEnvironment =
      if config.faults.isEmpty then .ok config
      else .error (.invalidConfiguration config.faults)) ∧
    Environment.denotes "BROKER_PROXY__PROXIES__EAST__KAFKA__VERSION"
      ["proxies", "east", "kafka", "version"] = true := by
  have sharedTested : (layeredFiles.settings "config/default.toml").toOption.any (fun entries =>
      (Setting.table none entries).checkAll plainAt? []) = true := by decide +kernel
  have ownTested : (layeredFiles.settings "config/staging").toOption.any (fun entries =>
      (Setting.table none entries).checkAll plainAt? []) = true := by decide +kernel
  obtain ⟨shared, readShared, sharedPlain⟩ := exists_settings sharedTested
  obtain ⟨own, readOwn, ownPlain⟩ := exists_settings ownTested
  have unmarked : Environment.pathOf? "BROKER_PROXY_ENV" = none := by decide +kernel
  have plain : layeredEnvironment.IsPlain := by
    constructor
    · simp only [layeredEnvironment, List.mem_cons, List.not_mem_nil, or_false]
      rintro entry (rfl | rfl) marked
      · simp [unmarked] at marked
      · exact ⟨.defaultCluster, trivial, denotes_setting trivial (by decide +kernel),
          by decide +kernel⟩
    · refine List.pairwise_pair.mpr fun name denoted => ?_
      simp [Environment.denotes, unmarked] at denoted
  have sharedPath : settingsPath "config" "default.toml" = "config/default.toml" := by decide
  have ownPath : settingsPath "config" ((layeredEnvironment.lookup environmentVariable).getD
      presetEnvironment) = "config/staging" := by decide
  obtain ⟨⟨config, follows, loaded⟩, spelled⟩ :=
    load_layered (sharedPath ▸ readShared) (ownPath ▸ readOwn) (isPlain_of_check sharedPlain)
      (isPlain_of_check ownPlain) plain
  have east : (SettingName.cluster "east" (.kafka .version)).IsPlain :=
    (by decide : IsPlainKey "east")
  have denoted := spelled "BROKER_PROXY__PROXIES__EAST__KAFKA__VERSION" _ east (by decide +kernel)
  exact ⟨shared, own, config, readShared, readOwn, follows, loaded, denoted⟩

example : ((AppConfig.load layeredFiles "config" layeredEnvironment).toOption.map fun config =>
    [SettingName.defaultCluster, .cluster "east" (.kafka .seedPeers),
      .cluster "east" (.kafka .version), .cluster "east" (.producer .flushFrequency)].map
        config.value?) =
      some [some (.text "east"), some (.texts ["c:3"]), some (.text "1"), some (.word 500)] := by
  decide +kernel

/-- A file with a whole number beyond signed words of 64 bits. -/
def largeText : String :=
  "\x7b\"proxies\":\x7b\"default\":\x7b\"client\":\x7b\"dial_timeout_ms\":9223372036854775809\x7d\x7d\x7d\x7d"

/-- A timeout that is written as a word of 64 bits is loaded as another one where it is not below
`2^63`: such a number is kept as the nearest fraction. -/
theorem load_rounds_large :
    (Json.parse? largeText).map Json.compress = some largeText ∧
    (AppConfig.load (.ofTexts [("config/development.json", some largeText)]) "config" []).toOption.bind
      (fun config => config.value? (.cluster "default" (.client .dialTimeout))) =
        some (.word 9223372036854775808) := by
  constructor <;> decide +kernel

end ClusterGateway
