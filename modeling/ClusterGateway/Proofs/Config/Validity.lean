import ClusterGateway.Proofs.Registry.Construction

/-!
# What makes a configuration valid

A configuration is checked against six conditions on each of its gateways and one on the set of
their names. Each violated condition has one message of its own, a condition that holds has
none, and the messages come in the order of the conditions and of the names, however the map of
the gateways is walked through. Main statement: `validates`.
-/

namespace ClusterGateway

namespace Text

/-- The code points with the property White_Space, one by one. -/
def whiteSpacePoints : List Nat :=
  [0x9, 0xa, 0xb, 0xc, 0xd, 0x20, 0x85, 0xa0, 0x1680, 0x2000, 0x2001, 0x2002, 0x2003, 0x2004,
    0x2005, 0x2006, 0x2007, 0x2008, 0x2009, 0x200a, 0x2028, 0x2029, 0x202f, 0x205f, 0x3000]

/-- A text with nothing in it but white space. -/
def Blank (text : String) : Prop := ∀ character ∈ text.toList, character.toNat ∈ whiteSpacePoints

instance (text : String) : Decidable (Blank text) :=
  inferInstanceAs (Decidable (∀ character ∈ text.toList, character.toNat ∈ whiteSpacePoints))

/-- The ranges of white space hold its code points. -/
theorem inRanges_whiteSpace_iff (point : Nat) :
    inRanges whiteSpace point = true ↔ point ∈ whiteSpacePoints := by
  have points : whiteSpacePoints =
      whiteSpace.flatMap fun range => List.range' range.1 (range.2 + 1 - range.1) := by decide
  have each : ∀ point ∈ whiteSpacePoints, inRanges whiteSpace point = true := by decide
  refine ⟨fun member => ?_, each point⟩
  obtain ⟨range, inside, low, high⟩ := exists_range_of_inRanges member
  rw [points]
  exact List.mem_flatMap.mpr ⟨range, inside, List.mem_range'_1.mpr ⟨low, by omega⟩⟩

/-- A text is taken for blank exactly if there is nothing in it but white space. -/
theorem isBlank_iff (text : String) : isBlank text = true ↔ Blank text := by
  simp only [isBlank, List.all_eq_true, isBlankChar, inRanges_whiteSpace_iff, Blank]

end Text

/-- A client name is no blank text; a generated one never is. -/
def ClientId.Named : ClientId → Prop
  | .generated => True
  | .given name => ¬ Text.Blank name

instance (id : ClientId) : Decidable id.Named :=
  match id with
  | .generated => inferInstanceAs (Decidable True)
  | .given name => inferInstanceAs (Decidable (¬ Text.Blank name))

/-- A condition that the configuration of a gateway has to meet. -/
inductive GatewayCondition where
  | seedPeersGiven
  | seedPeersNamed
  | clientNamed
  | pollingTimed
  | consumerBuffered
  | producerBuffered
deriving Repr, DecidableEq

namespace GatewayCondition

/-- All conditions, in the order of their messages. -/
def all : List GatewayCondition :=
  [.seedPeersGiven, .seedPeersNamed, .clientNamed, .pollingTimed, .consumerBuffered,
    .producerBuffered]

/-- A configuration meets a condition. -/
def Holds (config : GatewayConfig) : GatewayCondition → Prop
  | .seedPeersGiven => config.kafka.seedPeers ≠ []
  | .seedPeersNamed => ∀ peer ∈ config.kafka.seedPeers, ¬ Text.Blank peer
  | .clientNamed => config.client.clientId.Named
  | .pollingTimed => 0 < config.consumer.longPollingTimeout
  | .consumerBuffered => 0 < config.consumer.channelBufferSize
  | .producerBuffered => 0 < config.producer.channelBufferSize

instance (config : GatewayConfig) : DecidablePred (Holds config) := fun condition => by
  cases condition <;> unfold Holds <;> infer_instance

/-- The message of a condition that is not met. -/
def message : GatewayCondition → String
  | .seedPeersGiven => "kafka.seed_peers must not be empty"
  | .seedPeersNamed => "kafka.seed_peers must not contain blank addresses"
  | .clientNamed => "client.client_id must not be empty"
  | .pollingTimed => "consumer.long_polling_timeout_ms must be positive"
  | .consumerBuffered => "consumer.channel_buffer_size must be positive"
  | .producerBuffered => "producer.channel_buffer_size must be positive"

/-- Every condition is listed once. -/
theorem count_all (condition : GatewayCondition) : all.count condition = 1 := by
  cases condition <;> decide

/-- Every condition is listed. -/
theorem mem_all (condition : GatewayCondition) : condition ∈ all :=
  List.count_pos_iff.mp (condition.count_all ▸ Nat.one_pos)

end GatewayCondition

namespace GatewayConfig

/-- The conditions that a configuration does not meet, in the order of their messages. -/
def violations (config : GatewayConfig) : List GatewayCondition :=
  GatewayCondition.all.filter fun condition => ¬ condition.Holds config

/-- Every condition that is not met is there once, and no other. -/
theorem count_violations (config : GatewayConfig) (condition : GatewayCondition) :
    config.violations.count condition = if condition.Holds config then 0 else 1 := by
  rw [violations]
  split
  · rename_i holds
    exact List.count_eq_zero.mpr fun there => by simpa [holds] using (List.mem_filter.mp there).2
  · rename_i unmet
    rw [List.count_filter (by simpa using unmet)]
    exact condition.count_all

/-- A message is there if its condition is not met. -/
theorem messageIf_eq (config : GatewayConfig) (condition : GatewayCondition) {violated : Bool}
    (unmet : violated = true ↔ ¬ condition.Holds config) :
    messageIf violated condition.message =
      ([condition].filter fun condition => ¬ condition.Holds config).map
        GatewayCondition.message := by
  by_cases holds : condition.Holds config
  · have fine : violated = false := by simpa [holds] using unmet
    simp [messageIf, fine, holds]
  · simp [messageIf, unmet.mpr holds, holds]

/-- The messages about a gateway are those of the conditions that it does not meet. -/
theorem faults_eq (config : GatewayConfig) :
    config.faults = config.violations.map GatewayCondition.message := by
  have zero (word : UInt64) : (word == 0) = true ↔ ¬ 0 < word := by
    rw [beq_iff_eq, UInt64.not_lt, UInt64.le_zero_iff]
  have unnamed : config.client.clientId.isBlank = true ↔ ¬ config.client.clientId.Named := by
    cases config.client.clientId with
    | generated => simp [ClientId.isBlank, ClientId.Named]
    | given name => rw [ClientId.isBlank, ClientId.Named, Text.isBlank_iff, not_not]
  have peers : config.kafka.seedPeers.any Text.isBlank = true ↔
      ¬ ∀ peer ∈ config.kafka.seedPeers, ¬ Text.Blank peer := by
    simp [List.any_eq_true, Text.isBlank_iff]
  have given : config.kafka.seedPeers.isEmpty = true ↔ ¬ config.kafka.seedPeers ≠ [] := by simp
  show messageIf _ (GatewayCondition.message .seedPeersGiven) ++
    messageIf _ (GatewayCondition.message .seedPeersNamed) ++
    messageIf _ (GatewayCondition.message .clientNamed) ++
    messageIf _ (GatewayCondition.message .pollingTimed) ++
    messageIf _ (GatewayCondition.message .consumerBuffered) ++
    messageIf _ (GatewayCondition.message .producerBuffered) = _
  rw [messageIf_eq config .seedPeersGiven given, messageIf_eq config .seedPeersNamed peers,
    messageIf_eq config .clientNamed unnamed, messageIf_eq config .pollingTimed (zero _),
    messageIf_eq config .consumerBuffered (zero _), messageIf_eq config .producerBuffered (zero _)]
  simp only [← List.map_append, ← List.filter_append]
  rfl

/-- There is no message about a gateway exactly if its configuration meets all conditions. -/
theorem faults_eq_nil_iff (config : GatewayConfig) :
    config.faults = [] ↔ ∀ condition, GatewayCondition.Holds config condition := by
  simp [faults_eq, violations, List.filter_eq_nil_iff, GatewayCondition.mem_all]

end GatewayConfig

namespace AppConfig

/-- A configuration that can be used: it has gateways, among them the default one, and each of
them meets all conditions. -/
structure Usable (config : AppConfig) : Prop where
  present : config.proxies.names ≠ []
  default : config.defaultCluster ∈ config.proxies.names
  sound : ∀ name gateway, config.proxies.get? name = some gateway →
    ∀ condition, GatewayCondition.Holds gateway condition

/-- What is said of the set of gateways: that there is none, or no default one, or nothing. -/
inductive TellsOfNames (config : AppConfig) : List String → Prop
  | missing (absent : config.proxies.names = []) :
    TellsOfNames config ["at least one proxy must be configured"]
  | noDefault (present : config.proxies.names ≠ [])
    (absent : config.defaultCluster ∉ config.proxies.names) :
    TellsOfNames config
      ["default cluster " ++ Text.quoted config.defaultCluster ++ " has no proxy configuration"]
  | nothing (there : config.defaultCluster ∈ config.proxies.names) : TellsOfNames config []

/-- What is said of a gateway: the message of each condition that it does not meet, after its
name. -/
def tellsOfGateway (cluster : String × GatewayConfig) : List String :=
  cluster.2.violations.map fun condition => cluster.1 ++ ": " ++ condition.message

variable {config other : AppConfig}

/-- The default gateway is there exactly if its name is. -/
theorem isNone_defaultProxy? (config : AppConfig) :
    config.defaultProxy?.isNone = true ↔ config.defaultCluster ∉ config.proxies.names := by
  rw [← Option.not_isSome, Bool.not_eq_true', ← Bool.not_eq_true, defaultProxy?, NameMap.get?,
    isSome_lookup_iff]
  rfl

/-- What is said of the set of gateways comes first. -/
theorem tellsOfNames_clusterFaults (config : AppConfig) :
    config.TellsOfNames config.clusterFaults := by
  have names : config.proxies.entries = [] ↔ config.proxies.names = [] := by
    rw [NameMap.names, List.map_eq_nil_iff]
  unfold clusterFaults
  split
  · rename_i empty
    exact .missing (names.mp (List.isEmpty_iff.mp empty))
  · rename_i some_
    rw [List.isEmpty_iff, names] at some_
    by_cases absent : config.defaultProxy?.isNone = true
    · rw [messageIf, if_pos absent]
      exact .noDefault some_ ((isNone_defaultProxy? config).mp absent)
    · rw [messageIf, if_neg absent]
      rw [isNone_defaultProxy?, not_not] at absent
      exact .nothing absent

/-- What is said of the set of gateways depends on nothing but their names. -/
theorem TellsOfNames.eq {first second : List String} (one : config.TellsOfNames first)
    (two : other.TellsOfNames second) (default : other.defaultCluster = config.defaultCluster)
    (names : other.proxies.names.Perm config.proxies.names) : second = first := by
  have there : other.defaultCluster ∈ other.proxies.names ↔
      config.defaultCluster ∈ config.proxies.names := by rw [default, names.mem_iff]
  have empty : other.proxies.names = [] ↔ config.proxies.names = [] :=
    ⟨fun none => (none ▸ names).nil_eq.symm, fun none => (none ▸ names).eq_nil⟩
  cases one <;> cases two <;> simp_all

/-- The messages of a configuration: about the set of gateways, and then about each of them. -/
theorem faults_eq (config : AppConfig) :
    config.faults = config.clusterFaults ++ config.clusters.flatMap tellsOfGateway := by
  have same (cluster : String × GatewayConfig) :
      (cluster.2.faults.map fun fault => cluster.1 ++ ": " ++ fault) = tellsOfGateway cluster := by
    rw [GatewayConfig.faults_eq, List.map_map]
    rfl
  rw [faults, funext same]
  rfl

/-- Nothing is said of a gateway exactly if it meets all conditions. -/
theorem tellsOfGateway_eq_nil_iff (cluster : String × GatewayConfig) : tellsOfGateway cluster = [] ↔
    ∀ condition, GatewayCondition.Holds cluster.2 condition := by
  rw [tellsOfGateway, List.map_eq_nil_iff, ← GatewayConfig.faults_eq_nil_iff,
    GatewayConfig.faults_eq, List.map_eq_nil_iff]

/-- A configuration is valid exactly if it can be used. -/
theorem isValid_iff_usable (config : AppConfig) : config.isValid = true ↔ config.Usable := by
  have members (cluster : String × GatewayConfig) : cluster ∈ config.clusters ↔
      config.proxies.get? cluster.1 = some cluster.2 := by
    rw [config.clusters_perm.mem_iff]
    refine ⟨fun there => lookup_of_mem config.proxies.distinct there, fun found => ?_⟩
    obtain ⟨early, late, entries, -⟩ := List.lookup_eq_some_iff.mp found
    rw [entries]
    exact List.mem_append_right _ List.mem_cons_self
  rw [isValid, List.isEmpty_iff, faults_eq, List.append_eq_nil_iff, List.flatMap_eq_nil_iff]
  have names := tellsOfNames_clusterFaults config
  constructor
  · rintro ⟨silent, each⟩
    rw [silent] at names
    cases names with
    | nothing there =>
      refine ⟨List.ne_nil_of_mem there, there, fun name gateway found => ?_⟩
      exact (tellsOfGateway_eq_nil_iff (name, gateway)).mp (each _ ((members _).mpr found))
  · intro usable
    refine ⟨names.eq (.nothing usable.default) rfl (.refl _) |>.symm, fun cluster there => ?_⟩
    exact (tellsOfGateway_eq_nil_iff cluster).mpr
      (usable.sound cluster.1 cluster.2 ((members cluster).mp there))

/-- The clusters are in the same order, whatever the order of the map. -/
theorem clusters_congr (same : other.proxies.entries.Perm config.proxies.entries) :
    other.clusters = config.clusters := by
  have perm : other.clusters.Perm config.clusters :=
    other.clusters_perm.trans (same.trans config.clusters_perm.symm)
  exact perm.eq_of_pairwise (fun first second _ _ less more => absurd (Std.lt_trans less more)
    (Std.lt_irrefl)) (List.pairwise_map.mp other.ascending_names)
      (List.pairwise_map.mp config.ascending_names)

/-- A configuration is valid exactly if it can be used. Otherwise its messages are the one about
the set of its gateways, if there is any, and then, gateway by gateway in ascending order of the
names, one for each condition that is not met. The order in which the map of the gateways is
walked through makes no difference. -/
theorem validates (config : AppConfig) :
    (config.isValid = true ↔ config.Usable) ∧
      (∃ (first : List String) (clusters : List (String × GatewayConfig)),
        config.TellsOfNames first ∧ clusters.Perm config.proxies.entries ∧
        clusters.Pairwise (fun earlier later => earlier.1 < later.1) ∧
          config.faults = first ++ clusters.flatMap tellsOfGateway ∧
            ∀ cluster ∈ clusters, ∀ condition : GatewayCondition,
              cluster.2.violations.count condition =
                if condition.Holds cluster.2 then 0 else 1) ∧
      ∀ other : AppConfig, other.defaultCluster = config.defaultCluster →
        other.proxies.entries.Perm config.proxies.entries → other.faults = config.faults := by
  refine ⟨isValid_iff_usable config, ⟨config.clusterFaults, config.clusters,
    tellsOfNames_clusterFaults config, config.clusters_perm,
    List.pairwise_map.mp config.ascending_names, faults_eq config,
    fun cluster _ => cluster.2.count_violations⟩, fun other default same => ?_⟩
  have renamed : other.proxies.names.Perm config.proxies.names := same.map Prod.fst
  have names := (tellsOfNames_clusterFaults config).eq (tellsOfNames_clusterFaults other) default
    renamed
  rw [faults_eq, faults_eq, names, clusters_congr same]

/-- Two gateways of which each violates something, and neither is the default one. -/
def flawed : AppConfig where
  proxies := .ofList
    [("west", { kafka := { seedPeers := [] }, consumer := { longPollingTimeout := 0 } }),
      ("east", { client := { clientId := .given "\u3000 " } })]
  defaultCluster := "north"

/-- The same gateways, walked through the other way round. -/
def flawedAround : AppConfig where
  proxies := .ofList
    [("east", { client := { clientId := .given "\u3000 " } }),
      ("west", { kafka := { seedPeers := [] }, consumer := { longPollingTimeout := 0 } })]
  defaultCluster := "north"

/-- The messages about two flawed gateways, in one order for both ways through the map. -/
theorem validates_flawed : ¬ flawed.Usable ∧ flawedAround.faults = flawed.faults ∧ flawed.faults =
    ["default cluster \"north\" has no proxy configuration",
      "east: client.client_id must not be empty", "west: kafka.seed_peers must not be empty",
      "west: consumer.long_polling_timeout_ms must be positive"] := by
  obtain ⟨valid, -, around⟩ := validates flawed
  have invalid : flawed.isValid = false := by decide +kernel
  refine ⟨fun usable => absurd (valid.mpr usable) (by simp [invalid]),
    around flawedAround rfl (.swap _ _ []), by decide +kernel⟩

end AppConfig

end ClusterGateway
