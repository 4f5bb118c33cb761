import ClusterGateway.Config.Load
import ClusterGateway.Proofs.Registry.Cleanup

/-!
# A registry serves the clusters of its configuration

An invalid configuration is refused with the messages of its violated conditions, before
anything is created. With a valid one only the creation of a component can fail; and a
registry that is returned finds the gateway of every configured cluster, and of the default
cluster where none is named, whatever has happened since. Main statement:
`resolves_clusters`.
-/

namespace ClusterGateway

/-- In a valid configuration the default cluster is configured. -/
theorem AppConfig.defaultCluster_mem {config : AppConfig} (valid : config.isValid = true) :
    config.defaultCluster ∈ config.proxies.names := by
  have none_wrong := (List.append_eq_nil_iff.mp (List.isEmpty_iff.mp valid)).1
  unfold AppConfig.clusterFaults at none_wrong
  split at none_wrong
  · simp at none_wrong
  · cases found : config.defaultProxy? with
    | none => simp [found, messageIf] at none_wrong
    | some own =>
      exact (isSome_lookup_iff config.defaultCluster config.proxies.entries).mp
        (Option.isSome_of_eq_some found)

namespace Registry

open World

variable {world last : World} {site : SiteId} {config : AppConfig}

/-- The number of a cluster is found under its name. -/
theorem lookup_numbered (start : Nat) {entries : List (String × GatewayConfig)}
    (distinct : (entries.map (·.1)).Nodup) {place : Nat} {name : String} {own : GatewayConfig}
    (there : entries[place]? = some (name, own)) :
    (numbered start entries).lookup name = some (start + place) := by
  refine lookup_of_mem (by rw [names_numbered]; exact distinct) ?_
  have inside : place < entries.length := (List.getElem?_eq_some_iff.mp there).1
  refine List.mem_of_getElem? (i := place) ?_
  simp [numbered, List.getElem?_zip_eq_some, there, List.getElem?_range' inside]

/-- What a registry finds, in the world of a later time. -/
structure Resolves (config : AppConfig) (registry : Registry) (last : World) : Prop where
  names : registry.names.Perm config.proxies.names ∧ registry.names.Pairwise (· < ·)
  known : ∀ name ∈ config.proxies.names, ∃ site place, registry.get? (some name) = .ok site ∧
    last.sites[site]? = some place ∧ place.gateway.answer .name = .text (some ("proxy/" ++ name)) ∧
      config.proxies.get? name = some place.gateway.config
  unknown : ∀ name, name ∉ config.proxies.names →
    registry.get? (some name) = .error (.unknownCluster name)
  preset : config.defaultCluster ∈ config.proxies.names ∧
    registry.get? none = registry.get? (some config.defaultCluster)

/-- The names of the clusters are the configured ones. -/
theorem mem_names_iff (config : AppConfig) (name : String) :
    name ∈ config.clusters.map (·.1) ↔ name ∈ config.proxies.names :=
  (config.clusters_perm.map (·.1)).mem_iff

/-- A registry of the clusters of a configuration, in which their gateways have been opened,
resolves them in every later world. -/
theorem resolves_of_opens {script : BrokerScript} (valid : config.isValid = true)
    (opens : Opens config.clusters { script := script } world) (reaches : world.Reaches last) :
    Resolves config ⟨numbered 0 config.clusters, config.defaultCluster⟩ last := by
  have names : (numbered 0 config.clusters).map (·.1) = config.clusters.map (·.1) :=
    names_numbered 0 config.clusters
  have idle : world.tasks = [] := opens.tasks
  have sound := sound_of_idle idle
  refine ⟨?_, fun name configured => ?_, fun name absent => ?_,
    config.defaultCluster_mem valid, rfl⟩
  · show ((numbered 0 config.clusters).map (·.1)).Perm _ ∧
      ((numbered 0 config.clusters).map (·.1)).Pairwise _
    rw [names]
    exact ⟨config.clusters_perm.map (·.1), config.ascending_names⟩
  · obtain ⟨⟨other, own⟩, member, rfl⟩ :=
      List.mem_map.mp ((mem_names_iff config name).mpr configured)
    obtain ⟨place, there⟩ := List.mem_iff_getElem?.mp member
    obtain ⟨found, here, task, kept, -⟩ := opens.exists_site there
    obtain ⟨later, still, path, same⟩ := sound.site_reaches reaches here
    refine ⟨place, later, ?_, still, ?_, ?_⟩
    · have looked := lookup_numbered 0 config.nodup_names there
      rw [Nat.zero_add] at looked
      simp only [get?, Option.getD_some, looked]
    · show Reply.text (some later.gateway.task.text) = _
      rw [path, task]
      rfl
    · rw [same, kept]
      exact lookup_of_mem config.proxies.distinct (config.clusters_perm.mem_iff.mp member)
  · have missing : (numbered 0 config.clusters).lookup name = none := by
      cases found : (numbered 0 config.clusters).lookup name with
      | none => rfl
      | some site =>
        have there := (isSome_lookup_iff name _).mp (Option.isSome_of_eq_some found)
        rw [names] at there
        exact absurd ((mem_names_iff config name).mp there) absent
    simp only [get?, Option.getD_some, missing]

/-- An invalid configuration is refused before anything happens. -/
theorem openFrom_of_invalid (world : World) (invalid : config.isValid = false) :
    openFrom world config = (world, .error (.invalidConfiguration config.faults)) := by
  unfold AppConfig.isValid at invalid
  simp [openFrom, invalid]

/-- With a valid configuration a registry is returned, or the creation of a component has
failed. -/
theorem openFrom_of_valid (script : BrokerScript) (valid : config.isValid = true) :
    (∃ component cause, (openFrom { script := script } config).2 =
      .error (.spawn component cause)) ∨
    ∃ after entries, Opens config.clusters { script := script } after ∧
      openFrom { script := script } config = (after.note none entries,
        .ok ⟨numbered 0 config.clusters, config.defaultCluster⟩) := by
  by_cases safe : ∀ fault, script.creationFault = some fault → config.clusters.length ≤ fault.after
  · exact .inr (openFrom_opens valid safe)
  · simp only [not_forall, Nat.not_le] at safe
    obtain ⟨fault, scripted, inside⟩ := safe
    obtain ⟨before, cluster, own, later, early, late, -, -, -, fails⟩ :=
      exists_failsAt valid scripted inside
    exact .inl ⟨_, _, fails.reported⟩

/-- A valid configuration always gives a usable registry, unless the creation of a component
fails: a registry is refused for its configuration exactly if that is invalid, with the
messages of the violated conditions and before anything is created; and a registry that is
returned resolves the configured clusters in every later world. A configuration that was
loaded is valid. -/
theorem resolves_clusters (script : BrokerScript) (config : AppConfig) :
    ((∃ messages, (openFrom { script := script } config).2 =
      .error (.invalidConfiguration messages)) ↔ config.isValid = false) ∧
    (config.isValid = false → openFrom { script := script } config =
      ({ script := script }, .error (.invalidConfiguration config.faults))) ∧
    (config.isValid = true → ∀ error, (openFrom { script := script } config).2 = .error error →
      ∃ component cause, error = .spawn component cause) ∧
    (∀ registry last, (openFrom { script := script } config).2 = .ok registry →
      (openFrom { script := script } config).1.Reaches last → Resolves config registry last) ∧
    ∀ files directory environment,
      AppConfig.load files directory environment = .ok config → config.isValid = true := by
  have refused (invalid : config.isValid = false) :=
    openFrom_of_invalid { script := script } invalid
  have spawned (valid : config.isValid = true) (error : Error)
      (fails : (openFrom { script := script } config).2 = .error error) :
      ∃ component cause, error = .spawn component cause := by
    obtain ⟨component, cause, same⟩ | ⟨after, entries, -, same⟩ := openFrom_of_valid script valid
    · exact ⟨component, cause, Except.error.inj (fails.symm.trans same)⟩
    · simp [same] at fails
  refine ⟨⟨fun ⟨messages, fails⟩ => ?_, fun invalid => ⟨_, by rw [refused invalid]⟩⟩, refused,
    spawned, fun registry last goes reaches => ?_, fun _ _ _ loaded =>
      AppConfig.isValid_of_load loaded⟩
  · by_contra valid
    obtain ⟨component, cause, same⟩ := spawned (by simpa using valid) _ fails
    simp at same
  · by_cases valid : config.isValid = true
    · obtain ⟨component, cause, same⟩ | ⟨after, entries, opens, same⟩ :=
        openFrom_of_valid script valid
      · simp [same] at goes
      · rw [same] at goes reaches
        obtain rfl := Except.ok.inj goes
        have noted : Opens config.clusters { script := script } (after.note none entries) :=
          ⟨opens.script, opens.tasks, opens.ready, opens.timers, opens.creations, opens.length,
            opens.old, opens.new⟩
        exact resolves_of_opens valid noted reaches
    · rw [refused (by simpa using valid)] at goes
      simp at goes

/-- A registry of three clusters, whatever happens to it: the names ascend, the default cluster is
the one that was configured, and no fourth cluster is found. -/
theorem resolves_clusters_three : ∃ registry,
    (openFrom { script := {} } threeClusters).2 = .ok registry ∧
    registry.names = ["east", "north", "west"] ∧
    ∀ last, (openFrom { script := {} } threeClusters).1.Reaches last →
      (∃ site place, registry.get? none = .ok site ∧ last.sites[site]? = some place ∧
        place.gateway.answer .name = .text (some "proxy/west")) ∧
      registry.get? (some "south") = .error (.unknownCluster "south") := by
  obtain ⟨registry, goes, names⟩ : ∃ registry,
      (openFrom { script := {} } threeClusters).2 = .ok registry ∧
        registry.names = ["east", "north", "west"] := ⟨_, rfl, rfl⟩
  refine ⟨registry, goes, names, fun last reaches => ?_⟩
  have resolves := (resolves_clusters {} threeClusters).2.2.2.1 registry last goes reaches
  obtain ⟨site, place, found, there, named, -⟩ := resolves.known "west" (by decide)
  exact ⟨⟨site, place, resolves.preset.2.trans found, there, named⟩,
    resolves.unknown "south" (by decide)⟩

end Registry

end ClusterGateway
