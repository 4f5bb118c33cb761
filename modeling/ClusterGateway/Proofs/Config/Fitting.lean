import ClusterGateway.Proofs.Config.Decoding

/-!
# Settings of the right kinds

A tree of the settings' keys with values of the right kinds decodes to a configuration that has
each of these values as it is written, and the preset value wherever the tree has none. Main
statement: `Setting.Fits.decodes`.
-/

namespace ClusterGateway

open Setting

variable {tree node : Setting}

/-- Texts that are written as a list of texts are read as they are. -/
theorem readElements_of_texts {elements : List Setting} {texts : List String}
    (written : elements.mapM text? = some texts) (index : Nat) :
    readElements toText index elements = .ok texts := by
  induction elements generalizing texts index with
  | nil =>
    obtain rfl : [] = texts := by simpa using written
    rfl
  | cons element rest ih =>
    simp only [List.mapM_cons, Option.bind_eq_bind, Option.pure_def, Option.bind_eq_some_iff,
      Option.some.injEq] at written
    obtain ⟨text, head, others, tail, rfl⟩ := written
    have read : element.toText = .ok text := by
      cases element with
      | scalar origin value => cases value <;> simp_all [text?, toText]
      | _ => simp [text?] at head
    rw [readElements, read]
    simp only [ih tail, Except.map]

/-- A value that is written as one of its kind is read as it is written. -/
theorem decode_of_read? {kind : ValueKind} {value : SettingValue}
    (written : kind.read? node = some value) : kind.decode node = .ok value := by
  cases kind with
  | text =>
    obtain ⟨text, found, rfl⟩ := Option.map_eq_some_iff.mp written
    cases node with
    | scalar origin scalar =>
      cases scalar <;> simp_all [text?, ValueKind.decode, toText, Except.map]
    | _ => simp [text?] at found
  | flag =>
    obtain ⟨flag, found, rfl⟩ := Option.map_eq_some_iff.mp written
    cases node with
    | scalar origin scalar =>
      cases scalar <;> simp_all [flag?, ValueKind.decode, toFlag, Except.map]
    | _ => simp [flag?] at found
  | word =>
    obtain ⟨word, found, rfl⟩ := Option.map_eq_some_iff.mp written
    cases node with
    | scalar origin scalar =>
      cases scalar with
      | whole value =>
        rw [word?, Option.ite_none_right_eq_some, Option.some.injEq] at found
        obtain ⟨⟨natural, -⟩, rfl⟩ := found
        simp [ValueKind.decode, toWord, natural, Except.map]
      | _ => simp [word?] at found
    | _ => simp [word?] at found
  | texts =>
    obtain ⟨texts, found, rfl⟩ := Option.map_eq_some_iff.mp written
    cases node with
    | list origin elements =>
      simp [ValueKind.decode, toList, readElements_of_texts found 0, Except.map]
    | _ => simp [texts?] at found

/-- A field can be read from a value of its kind. -/
theorem field_readable {α β : Type} {kind : ValueKind} {name : String}
    {read : Setting → Except SettingsFault β} {set : β → α → α} {wrap : β → SettingValue}
    (same : ∀ setting, kind.decode setting = (read setting).map wrap)
    (fits : (kind.read? node).isSome = true) :
    ∃ change, (field name read set).read node = .ok change := by
  obtain ⟨value, written⟩ := Option.isSome_iff_exists.mp fits
  have decoded := decode_of_read? written
  rw [same] at decoded
  cases outcome : read node with
  | error fault => simp [outcome, Except.map] at decoded
  | ok told => exact ⟨set told, by simp [field, outcome, Except.map]⟩

section Sections

variable {entries : List (String × Setting)}

/-- A section can be read if its settings have values of their kinds. -/
theorem KafkaConfig.exists_read (fits : ∀ (setting : KafkaSetting) node,
      entries.lookup setting.key = some node → (setting.kind.read? node).isSome = true) :
    ∃ config, readFields entries KafkaConfig.settings {} = .ok config := by
  refine exists_readFields _ (fun field there node found => ?_) _
  simp only [KafkaConfig.settings, List.mem_cons, List.not_mem_nil, or_false] at there
  rcases there with rfl | rfl
  · exact field_readable (fun _ => rfl) (fits .seedPeers node found)
  · exact field_readable (fun _ => rfl) (fits .version node found)

/-- A section can be read if its settings have values of their kinds. -/
theorem ClientConfig.exists_read (fits : ∀ (setting : ClientSetting) node,
      entries.lookup setting.key = some node → (setting.kind.read? node).isSome = true) :
    ∃ config, readFields entries ClientConfig.settings {} = .ok config := by
  refine exists_readFields _ (fun field there node found => ?_) _
  simp only [ClientConfig.settings, List.mem_cons, List.not_mem_nil, or_false] at there
  rcases there with rfl | rfl | rfl | rfl | rfl
  · exact field_readable (fun _ => rfl) (fits .clientId node found)
  · exact field_readable (fun _ => rfl) (fits .dialTimeout node found)
  · exact field_readable (fun _ => rfl) (fits .readTimeout node found)
  · exact field_readable (fun _ => rfl) (fits .writeTimeout node found)
  · exact field_readable (fun _ => rfl) (fits .metadataRefresh node found)

/-- A section can be read if its settings have values of their kinds. -/
theorem ProducerConfig.exists_read (fits : ∀ (setting : ProducerSetting) node,
      entries.lookup setting.key = some node → (ValueKind.word.read? node).isSome = true) :
    ∃ config, readFields entries ProducerConfig.settings {} = .ok config := by
  refine exists_readFields _ (fun field there node found => ?_) _
  simp only [ProducerConfig.settings, List.mem_cons, List.not_mem_nil, or_false] at there
  rcases there with rfl | rfl | rfl
  · exact field_readable (fun _ => rfl) (fits .channelBufferSize node found)
  · exact field_readable (fun _ => rfl) (fits .flushFrequency node found)
  · exact field_readable (fun _ => rfl) (fits .shutdownTimeout node found)

/-- A section can be read if its settings have values of their kinds. -/
theorem ConsumerConfig.exists_read (fits : ∀ (setting : ConsumerSetting) node,
      entries.lookup setting.key = some node → (ValueKind.word.read? node).isSome = true) :
    ∃ config, readFields entries ConsumerConfig.settings {} = .ok config := by
  refine exists_readFields _ (fun field there node found => ?_) _
  simp only [ConsumerConfig.settings, List.mem_cons, List.not_mem_nil, or_false] at there
  rcases there with rfl | rfl | rfl | rfl | rfl
  · exact field_readable (fun _ => rfl) (fits .longPollingTimeout node found)
  · exact field_readable (fun _ => rfl) (fits .channelBufferSize node found)
  · exact field_readable (fun _ => rfl) (fits .ackTimeout node found)
  · exact field_readable (fun _ => rfl) (fits .offsetsCommitInterval node found)
  · exact field_readable (fun _ => rfl) (fits .retryBackoff node found)

/-- The section of the log can be read if its settings have values of their kinds. -/
theorem LoggingConfig.exists_read
    (level : ∀ node, entries.lookup "level" = some node → (ValueKind.text.read? node).isSome = true)
    (json : ∀ node, entries.lookup "json" = some node → (ValueKind.flag.read? node).isSome = true) :
    ∃ config, readFields entries LoggingConfig.settings {} = .ok config := by
  refine exists_readFields _ (fun field there node found => ?_) _
  simp only [LoggingConfig.settings, List.mem_cons, List.not_mem_nil, or_false] at there
  rcases there with rfl | rfl
  · exact field_readable (fun _ => rfl) (level node found)
  · exact field_readable (fun _ => rfl) (json node found)

end Sections

/-- A section can be read from a table if its fields can be read. -/
theorem section_readable {α γ : Type} {name : String} {preset : γ} {fields : List (SettingField γ)}
    {set : γ → α → α} (table : node.isTable = true)
    (readable : ∃ record, readFields node.entries fields preset = .ok record) :
    ∃ change, (field name (toRecord preset fields) set).read node = .ok change := by
  obtain ⟨record, read⟩ := readable
  cases node with
  | table origin entries =>
    have read : toRecord preset fields (.table origin entries) = .ok record := read
    exact ⟨set record, by simp [field, read, Except.map]⟩
  | _ => simp [isTable] at table

namespace Setting

variable {path : List String}

/-- A tree of settings has tables at all paths that are none of settings. -/
theorem Fits.table (fits : tree.Fits) (leads : tree.at? path = some node)
    (branch : ¬ IsSettingPath path) : node.isTable = true := by
  obtain ⟨name, same, -⟩ | ⟨table, -⟩ := fits path node leads
  · exact absurd ⟨name, same⟩ branch
  · exact table

/-- Every path in a tree of settings is on the way to a setting. -/
theorem Fits.exists_before (fits : tree.Fits) (leads : tree.at? path = some node) :
    ∃ name : SettingName, path <+: name.path := by
  obtain ⟨name, same, -⟩ | ⟨-, -, before⟩ := fits path node leads
  · exact ⟨name, same ▸ List.prefix_rfl⟩
  · exact before

/-- A path that stops short of the end of the path of a setting is none. -/
theorem not_isSettingPath {name : SettingName} (before : path <+: name.path)
    (short : path.length < name.path.length) : ¬ IsSettingPath path := by
  intro here
  have same := prefixFree_isSettingPath path name.path here ⟨name, rfl⟩ before
  rw [same] at short
  exact Nat.lt_irrefl _ short

/-- In a tree of settings, tables stand all the way to the end of the path of a setting. -/
theorem Fits.tabledTo (fits : tree.Fits) (name : SettingName) : tree.TabledTo name.path := by
  -- the induction is on what is left of the path, from where its first part leads
  have onward (rest first : List String) (whole : first ++ rest = name.path) (inner : Setting)
      (leads : tree.at? first = some inner) : inner.TabledTo rest := by
    induction rest generalizing first inner with
    | nil => trivial
    | cons key rest ih =>
      have before : first <+: name.path := ⟨key :: rest, whole⟩
      have short : first.length < name.path.length := by simp [← whole]
      refine ⟨fits.table leads (not_isSettingPath before short), fun next there => ?_⟩
      refine ih (first ++ [key]) (by simpa using whole) next ?_
      rw [at?_append, leads]
      simpa [at?_single] using there
  exact onward name.path [] rfl tree rfl

variable {cluster : String} {table : Setting}

/-- What a tree of settings has in a section of a cluster. -/
theorem at?_section (leads : tree.at? ["proxies", cluster] = some table)
    {sectionKey : String} {inner : Setting} (found : table.child? sectionKey = some inner)
    (key : String) :
    tree.at? ["proxies", cluster, sectionKey] = some inner ∧
      tree.at? ["proxies", cluster, sectionKey, key] = inner.child? key := by
  have onward (path : List String) :
      tree.at? (["proxies", cluster] ++ sectionKey :: path) = inner.at? path := by
    rw [at?_append, leads, Option.bind_some, at?, found, Option.bind_some]
  exact ⟨onward [], (onward [key]).trans (at?_single inner key)⟩

/-- The table of a cluster can be read from a tree of settings. -/
theorem Fits.exists_gateway (fits : tree.Fits)
    (leads : tree.at? ["proxies", cluster] = some table) :
    ∃ gateway, toRecord {} GatewayConfig.settings table = .ok gateway := by
  -- what there is at a setting of a section is a value of its kind
  have written (setting : ClusterSetting) (inner node : Setting)
      (found : table.child? setting.sectionKey = some inner)
      (there : inner.child? setting.key = some node) :
      (setting.kind.read? node).isSome = true := by
    refine fits.read (.cluster cluster setting) ?_
    exact (at?_section leads found setting.key).2.trans there
  have tabled (setting : ClusterSetting) (inner : Setting)
      (found : table.child? setting.sectionKey = some inner) : inner.isTable = true := by
    have before : ["proxies", cluster, setting.sectionKey] <+:
        (SettingName.cluster cluster setting).path := ⟨[setting.key], rfl⟩
    exact fits.table (at?_section leads found setting.key).1
      (not_isSettingPath before (by simp [SettingName.path, ClusterSetting.path]))
  have before : ["proxies", cluster] <+:
      (SettingName.cluster cluster (.kafka .version)).path := ⟨["kafka", "version"], rfl⟩
  have root : table.isTable = true := fits.table leads
    (not_isSettingPath before (by simp [SettingName.path, ClusterSetting.path]))
  cases table with
  | table origin entries =>
    refine exists_readFields _ (fun field there inner found => ?_) _
    simp only [GatewayConfig.settings, List.mem_cons, List.not_mem_nil, or_false] at there
    rcases there with rfl | rfl | rfl | rfl
    · exact section_readable (tabled (.kafka .version) inner found)
        (KafkaConfig.exists_read fun setting node => written (.kafka setting) inner node found)
    · exact section_readable (tabled (.client .clientId) inner found)
        (ClientConfig.exists_read fun setting node => written (.client setting) inner node found)
    · exact section_readable (tabled (.producer .flushFrequency) inner found)
        (ProducerConfig.exists_read fun setting node => written (.producer setting) inner node found)
    · exact section_readable (tabled (.consumer .ackTimeout) inner found)
        (ConsumerConfig.exists_read fun setting node => written (.consumer setting) inner node found)
  | _ => simp [isTable] at root

/-- The table of all clusters can be read from a tree of settings. -/
theorem Fits.exists_gateways (fits : tree.Fits) (distinct : tree.Distinct) {clusters : Setting}
    (found : tree.child? "proxies" = some clusters) :
    ∃ map, toMap (toRecord {} GatewayConfig.settings) clusters = .ok map := by
  have before : ["proxies"] <+: (SettingName.cluster "" (.kafka .version)).path :=
    ⟨["", "kafka", "version"], rfl⟩
  have root : clusters.isTable = true := by
    have leads : tree.at? ["proxies"] = some clusters := (at?_single tree "proxies").trans found
    exact fits.table leads (not_isSettingPath before (by decide))
  have unique : clusters.keys.Nodup := (Everywhere.child distinct found).root
  cases clusters with
  | table origin entries =>
    have readable : ∀ entry ∈ entries, ∃ gateway,
        toRecord {} GatewayConfig.settings entry.2 = .ok gateway := by
      intro entry there
      have leads : tree.at? ["proxies", entry.1] = some entry.2 := by
        rw [at?_pair, found, Option.bind_some]
        exact lookup_of_mem unique there
      exact fits.exists_gateway leads
    obtain ⟨result, read⟩ := exists_readEntries readable
    exact ⟨NameMap.ofList result, by simp [toMap, read, Except.map]⟩
  | _ => simp [isTable] at root

/-- A tree of settings decodes to a configuration. -/
theorem Fits.exists_config (fits : tree.Fits) (distinct : tree.Distinct)
    (root : tree.isTable = true) : ∃ config, AppConfig.ofSetting tree = .ok config := by
  cases tree with
  | table origin entries =>
    refine exists_readFields _ (fun field there inner found => ?_) _
    simp only [AppConfig.settings, List.mem_cons, List.not_mem_nil, or_false] at there
    rcases there with rfl | rfl | rfl
    · obtain ⟨map, read⟩ := fits.exists_gateways distinct found
      exact ⟨_, by simp [field, read, Except.map]; rfl⟩
    · have written := fits.read .defaultCluster ((at?_single _ _).trans found)
      exact field_readable (fun _ => rfl) written
    · have before : ["logging"] <+: SettingName.logLevel.path := ⟨["level"], rfl⟩
      have leads : (Setting.table origin entries).at? ["logging"] = some inner :=
        (at?_single _ _).trans found
      have inside (key : String) :
          (Setting.table origin entries).at? ["logging", key] = inner.child? key := by
        rw [at?_pair, show (Setting.table origin entries).child? "logging" = some inner from found,
          Option.bind_some]
      refine section_readable (fits.table leads (not_isSettingPath before (by decide)))
        (LoggingConfig.exists_read (fun node there => ?_) fun node there => ?_)
      · exact fits.read .logLevel ((inside "level").trans there)
      · exact fits.read .logJson ((inside "json").trans there)
  | _ => simp [isTable] at root

end Setting

namespace Setting

mutual

/-- Checks all that paths lead to in a tree, each with its path, which goes on from `above`. -/
def checkAll (check : List String → Setting → Bool) (above : List String) : Setting → Bool
  | .table origin entries =>
    check above (.table origin entries) && checkEntries check above entries
  | value => check above value

/-- Checks all that paths lead to below the entries of a table. -/
def checkEntries (check : List String → Setting → Bool) (above : List String) :
    List (String × Setting) → Bool
  | [] => true
  | (key, value) :: rest =>
    checkAll check (above ++ [key]) value && checkEntries check above rest

end

/-- What has been checked in all of a tree holds of all that paths lead to. -/
theorem check_of_checkAll {check : List String → Setting → Bool} {above : List String}
    (checked : tree.checkAll check above = true) {path : List String}
    (leads : tree.at? path = some node) : check (above ++ path) node = true := by
  induction path generalizing tree above with
  | nil =>
    obtain rfl := Option.some.inj leads
    rw [List.append_nil]
    cases tree with
    | table origin entries =>
      rw [checkAll, Bool.and_eq_true] at checked
      exact checked.1
    | _ => simpa [checkAll] using checked
  | cons key path ih =>
    obtain ⟨inner, there, onward⟩ := Option.bind_eq_some_iff.mp leads
    cases tree with
    | table origin entries =>
      rw [checkAll, Bool.and_eq_true] at checked
      have entry (entries : List (String × Setting))
          (checked : checkEntries check above entries = true)
          (there : entries.lookup key = some inner) :
          inner.checkAll check (above ++ [key]) = true := by
        induction entries with
        | nil => simp at there
        | cons first rest more =>
          obtain ⟨other, value⟩ := first
          rw [checkEntries, Bool.and_eq_true] at checked
          rw [List.lookup_cons] at there
          split at there
          · rename_i same
            obtain rfl : key = other := by simpa using same
            obtain rfl := Option.some.inj there
            exact checked.1
          · exact more checked.2 there
      simpa using ih (entry entries checked.2 there) onward
    | _ => simp [child?, Setting.entries] at there

/-- A setting whose path starts with the given one, if there is one. -/
def nameBeyond? : List String → Option SettingName
  | "proxies" :: cluster :: inner =>
    (ClusterSetting.all.find? fun setting => inner.isPrefixOf setting.path).map (.cluster cluster)
  | ["proxies"] => some (.cluster "" (.kafka .version))
  | path => [.defaultCluster, .logLevel, .logJson].find? fun name => path.isPrefixOf name.path

/-- What a tree of settings can have at a path. -/
def fitsAt? (path : List String) (node : Setting) : Bool :=
  (nameBeyond? path).any fun name =>
    if path = name.path then (name.kind.read? node).isSome
    else path.isPrefixOf name.path && node.isTable

/-- The check of a path is sound. -/
theorem fitsAt_of_check {path : List String} (checked : fitsAt? path node = true) :
    FitsAt path node := by
  rw [fitsAt?, Option.any_eq_true] at checked
  obtain ⟨name, -, fits⟩ := checked
  split at fits
  · rename_i same
    exact .inl ⟨name, same, fits⟩
  · rename_i differ
    rw [Bool.and_eq_true, List.isPrefixOf_iff_prefix] at fits
    obtain ⟨before, table⟩ := fits
    have short : path.length < name.path.length :=
      Nat.lt_of_le_of_ne before.length_le fun same => differ (before.eq_of_length same)
    exact .inr ⟨table, not_isSettingPath before short, name, before⟩

end Setting

/-- A configuration is what a tree of settings says: it has the clusters of the tree, and each
value as it is written, or the preset one where none is. -/
structure AppConfig.Reads (config : AppConfig) (tree : Setting) : Prop where
  clusters : config.proxies.names = clusterNames tree
  value : ∀ name value, config.value? name = some value →
    value = ((tree.at? name.path).bind name.kind.read?).getD name.preset

/-- A value that fits has been decoded to what is written, or to its preset. -/
theorem Decoded.read {kind : ValueKind} {found : Option Setting} {preset value : SettingValue}
    (decoded : Decoded kind found preset value)
    (fits : ∀ node, found = some node → (kind.read? node).isSome = true) :
    value = (found.bind kind.read?).getD preset := by
  cases found with
  | none => exact decoded
  | some node =>
    obtain ⟨written, read⟩ := Option.isSome_iff_exists.mp (fits node rfl)
    have same : Except.ok written = Except.ok value := (decode_of_read? read).symm.trans decoded
    rw [Option.bind_some, read]
    exact (Except.ok.inj same).symm

/-- A tree of settings decodes to a configuration with the values that are written in it. -/
theorem Setting.Fits.decodes (fits : tree.Fits) (distinct : tree.Distinct)
    (root : tree.isTable = true) :
    ∃ config, AppConfig.ofSetting tree = .ok config ∧ config.Reads tree := by
  obtain ⟨config, decodes⟩ := fits.exists_config distinct root
  obtain ⟨clusters, values⟩ := AppConfig.decoded decodes root distinct
  refine ⟨config, decodes, clusters, fun name value there => ?_⟩
  exact (values name value (fits.tabledTo name) there).read fun node => fits.read name

end ClusterGateway
