import ClusterGateway.Proofs.Shutdown.Histories

/-!
# What a registry creates

A registry opens the gateways of its clusters one after the other, each by creating its
components in their order, until a creation fails. So the attempts to create components are
those of the clusters before the failure, in order, then those of the cluster at which it
happens, and nothing after it; that is why a script needs no more than one failing creation.
Main statements: `openAll_ok`, `openAll_error`.
-/

namespace ClusterGateway

namespace AppConfig

/-- The clusters of a configuration in ascending order of their names. -/
def clusters (config : AppConfig) : List (String × GatewayConfig) :=
  KeyOrder.sort config.proxies.entries

variable {config : AppConfig}

/-- The clusters are those that are configured. -/
theorem clusters_perm (config : AppConfig) : config.clusters.Perm config.proxies.entries :=
  KeyOrder.sort_perm config.proxies.entries

/-- No two clusters have one name. -/
theorem nodup_names (config : AppConfig) : (config.clusters.map (·.1)).Nodup :=
  ((config.clusters_perm.map (·.1)).nodup_iff).mpr config.proxies.distinct

/-- The names of the clusters ascend. -/
theorem ascending_names (config : AppConfig) :
    (config.clusters.map (·.1)).Pairwise (· < ·) := by
  have ordered : (config.clusters.map (·.1)).Pairwise (· ≤ ·) :=
    List.pairwise_map.mpr (KeyOrder.ascending_sort config.proxies.entries)
  refine (ordered.and config.nodup_names).imp fun both => ?_
  exact Std.lt_of_le_of_ne both.1 both.2

/-- In a valid configuration the configuration of every gateway is valid. -/
theorem valid_clusters (valid : config.isValid = true) :
    ∀ entry ∈ config.clusters, entry.2.faults = [] := by
  have all := (List.append_eq_nil_iff.mp (List.isEmpty_iff.mp valid)).2
  intro entry member
  exact List.map_eq_nil_iff.mp (List.flatMap_eq_nil_iff.mp all entry member)

end AppConfig

namespace World

variable {world before between after : World} {site : SiteId} {found : Site}
  {component : Component}

/-- The attempt to create a component of a gateway. -/
def creationOf (path : TaskPath) (config : GatewayConfig) (failed : Bool) (component : Component) :
    Creation where
  component := component
  owner := path.text
  seedPeers := config.kafka.seedPeers
  failed := failed

/-- What attempts to create components of a gateway do: they are recorded, and the gateway is the
same but for its components and their states. -/
structure Builds (site : SiteId) (made : List Creation) (before after : World) : Prop where
  script : after.script = before.script
  ready : after.ready = before.ready
  timers : after.timers = before.timers
  creations : after.creations = before.creations ++ made
  here : ∀ found, before.sites[site]? = some found → ∃ later, after.sites[site]? = some later ∧
    later.gateway.task = found.gateway.task ∧ later.gateway.config = found.gateway.config ∧
      later.broker = found.broker

namespace Builds

/-- Nothing but the log changes. -/
theorem of_eq (script : after.script = before.script) (ready : after.ready = before.ready)
    (timers : after.timers = before.timers) (creations : after.creations = before.creations)
    (sites : after.sites = before.sites) : Builds site [] before after where
  script := script
  ready := ready
  timers := timers
  creations := by rw [creations, List.append_nil]
  here := fun found there => ⟨found, by rw [sites]; exact there, rfl, rfl, rfl⟩

/-- Some attempts after others. -/
theorem trans {first second : List Creation} (early : Builds site first before between)
    (late : Builds site second between after) : Builds site (first ++ second) before after where
  script := late.script.trans early.script
  ready := late.ready.trans early.ready
  timers := late.timers.trans early.timers
  creations := by rw [late.creations, early.creations, List.append_assoc]
  here := by
    intro found there
    obtain ⟨middle, between, task, config, broker⟩ := early.here found there
    obtain ⟨later, after, task', config', broker'⟩ := late.here middle between
    exact ⟨later, after, task'.trans task, config'.trans config, broker'.trans broker⟩

end Builds

/-- A gateway that changes keeps its path, its configuration and its cluster. -/
theorem builds_onGateway (world : World) (site : SiteId) {change : Gateway → Gateway}
    (keeps : ∀ gateway, (change gateway).task = gateway.task ∧
      (change gateway).config = gateway.config) :
    Builds site [] world (world.onGateway site change) where
  script := rfl
  ready := rfl
  timers := rfl
  creations := (List.append_nil _).symm
  here := by
    intro found there
    refine ⟨{ found with gateway := change found.gateway }, ?_, (keeps found.gateway).1,
      (keeps found.gateway).2, rfl⟩
    rw [onGateway, getElem?_onSite, there]
    exact if_pos rfl

/-- The state of a component is set. -/
theorem builds_setState (world : World) (site : SiteId) (actor : Option String)
    (component : Component) (state : ComponentState) :
    Builds site [] world (world.setState site actor component state) := by
  obtain ⟨-, same⟩ | ⟨entries, same⟩ := setState_cases world site actor component state
  · rw [same]
    exact .of_eq rfl rfl rfl rfl rfl
  · rw [same]
    have set : Builds site [] world (world.onGateway site (·.setState component state)) :=
      builds_onGateway world site fun gateway => ⟨rfl, rfl⟩
    exact set.trans (.of_eq rfl rfl rfl rfl rfl)

/-- A component is marked as failed. -/
theorem builds_markFailed (world : World) (site : SiteId) (component : Component)
    (error : Error) : Builds site [] world (world.markFailed site component error) := by
  unfold markFailed
  split
  · exact .of_eq rfl rfl rfl rfl rfl
  · rename_i found _
    have recorded : Builds site [] world (world.onGateway site fun gateway => { gateway with
        lifecycle := found.gateway.lifecycle.markFailed component.name error.message }) :=
      builds_onGateway world site fun gateway => ⟨rfl, rfl⟩
    exact recorded.trans (.of_eq rfl rfl rfl rfl rfl)

/-- An attempt to create a component is recorded, and goes as the script says. -/
theorem builds_create (there : world.sites[site]? = some found) (component : Component) :
    (world.create site component).2 = world.creationError? component ∧
      Builds site [creationOf found.gateway.task found.gateway.config
        (world.creationError? component).isSome component] world
        (world.create site component).1 := by
  have recorded (creation : Creation) : Builds site [creation] world
      { world with creations := world.creations ++ [creation] } :=
    ⟨rfl, rfl, rfl, rfl, fun found there => ⟨found, there, rfl, rfl, rfl⟩⟩
  unfold create
  rw [there]
  dsimp only
  cases world.creationError? component with
  | some error => exact ⟨rfl, recorded _⟩
  | none =>
    have kept (created : World) : Builds site [] created
        (created.onGateway site (·.keep component)) :=
      builds_onGateway created site fun gateway => ⟨rfl, rfl⟩
    exact ⟨rfl, (recorded _).trans (kept _)⟩

/-- The script decides by the attempts that were made. -/
theorem creationError?_congr (script : after.script = before.script)
    (creations : after.creations = before.creations) (component : Component) :
    after.creationError? component = before.creationError? component := by
  unfold creationError?
  rw [script, creations]

/-- An attempt to start a component is recorded, and goes as the script says. -/
theorem builds_startComponent (there : world.sites[site]? = some found) (component : Component) :
    (world.startComponent site component).2 =
        (world.creationError? component).map (.spawn (reportedName component)) ∧
      Builds site [creationOf found.gateway.task found.gateway.config
        (world.creationError? component).isSome component] world
        (world.startComponent site component).1 := by
  obtain ⟨announced, begins⟩ : ∃ announced, announced =
      if component = .offsets then world else world.setState site none component .starting :=
    ⟨_, rfl⟩
  have announces : Builds site [] world announced := by
    rw [begins]
    split
    · exact .of_eq rfl rfl rfl rfl rfl
    · exact builds_setState world site none component .starting
  have same : announced.creationError? component = world.creationError? component :=
    creationError?_congr announces.script (announces.creations.trans (List.append_nil _)) component
  obtain ⟨early, here, task, config, -⟩ := announces.here found there
  obtain ⟨goes, creates⟩ := builds_create here component
  rw [same] at goes creates
  rw [task, config] at creates
  have made := announces.trans creates
  unfold startComponent
  dsimp only
  rw [← begins]
  generalize announced.create site component = result at goes made ⊢
  generalize world.creationError? component = expected at goes made ⊢
  obtain ⟨created, error⟩ := result
  obtain rfl : error = expected := goes
  cases error with
  | none => exact ⟨rfl, made.trans (builds_setState created site none component .running)⟩
  | some error =>
    have failed := made.trans (builds_markFailed created site component error)
    refine ⟨rfl, ?_⟩
    dsimp only
    split
    · exact failed
    · split
      · exact failed
      · exact failed.trans (.of_eq rfl rfl rfl rfl rfl)

/-- How often the creation of a component was attempted. -/
def attemptsOf (world : World) (component : Component) : Nat :=
  world.creations.countP fun creation => creation.component == component

/-- The attempts of more creations. -/
theorem attemptsOf_append {made : List Creation}
    (creations : after.creations = before.creations ++ made) (component : Component) :
    after.attemptsOf component = before.attemptsOf component +
      made.countP fun creation => creation.component == component := by
  rw [attemptsOf, creations, List.countP_append]
  rfl

/-- A creation goes well if the script has no fault for it. -/
theorem creationError?_eq_none (safe : ∀ fault, world.script.creationFault = some fault →
    fault.after = world.attemptsOf component → fault.component ≠ component) :
    world.creationError? component = none := by
  unfold creationError?
  split
  · rfl
  · rename_i fault scripted
    exact if_neg fun hit => safe fault scripted hit.2 hit.1

/-- A creation fails if the script has a fault for it. -/
theorem creationError?_eq_some {fault : CreationFault}
    (scripted : world.script.creationFault = some fault)
    (turn : world.attemptsOf fault.component = fault.after) :
    world.creationError? fault.component = some fault.error := by
  unfold creationError?
  rw [scripted]
  exact if_pos ⟨rfl, turn.symm⟩

/-- Components are all created if the script has no fault for any of them. -/
theorem builds_startComponents (there : world.sites[site]? = some found)
    {components : List Component} (distinct : components.Nodup) {turn : Nat}
    (even : ∀ component ∈ components, world.attemptsOf component = turn)
    (safe : ∀ fault, world.script.creationFault = some fault → fault.after = turn →
      fault.component ∉ components) :
    (world.startComponents site components).2 = none ∧
      Builds site (components.map (creationOf found.gateway.task found.gateway.config false)) world
        (world.startComponents site components).1 := by
  induction components generalizing world found with
  | nil => exact ⟨rfl, .of_eq rfl rfl rfl rfl rfl⟩
  | cons component rest ih =>
    obtain ⟨new, distinct⟩ := List.nodup_cons.mp distinct
    have goes : world.creationError? component = none := by
      refine creationError?_eq_none fun fault scripted hit same => ?_
      rw [even component List.mem_cons_self] at hit
      exact safe fault scripted hit (by rw [same]; exact List.mem_cons_self)
    obtain ⟨outcome, builds⟩ := builds_startComponent there component
    rw [goes] at outcome builds
    unfold startComponents
    generalize world.startComponent site component = result at outcome builds ⊢
    obtain ⟨started, error⟩ := result
    obtain rfl : error = none := outcome
    obtain ⟨middle, here, task, config, -⟩ := builds.here _ there
    have later := @ih started middle here distinct
      (fun other member => ?_) fun fault scripted hit member =>
        safe fault (builds.script ▸ scripted) hit (List.mem_cons_of_mem _ member)
    · rw [task, config] at later
      exact ⟨later.1, builds.trans later.2⟩
    · -- the attempts for a component are counted apart from those for the others
      have differ : component ≠ other := fun same => new (same ▸ member)
      rw [attemptsOf_append builds.creations, even other (List.mem_cons_of_mem _ member)]
      simp [creationOf, differ]

/-- Components that follow others are started when those have been. -/
theorem startComponents_append (early late : List Component)
    (goes : (world.startComponents site early).2 = none) :
    world.startComponents site (early ++ late) =
      (world.startComponents site early).1.startComponents site late := by
  induction early generalizing world with
  | nil => rfl
  | cons component rest ih =>
    simp only [List.cons_append, startComponents] at goes ⊢
    split at goes
    · simp at goes
    · exact ih goes

/-- Components are created up to the one that the script has a fault for. -/
theorem builds_startComponents_error (there : world.sites[site]? = some found)
    {fault : CreationFault} (scripted : world.script.creationFault = some fault)
    {early late : List Component} (distinct : (early ++ fault.component :: late).Nodup)
    (even : ∀ component ∈ early ++ fault.component :: late,
      world.attemptsOf component = fault.after) :
    (world.startComponents site (early ++ fault.component :: late)).2 =
        some (.spawn (reportedName fault.component) fault.error) ∧
      Builds site (early.map (creationOf found.gateway.task found.gateway.config false) ++
        [creationOf found.gateway.task found.gateway.config true fault.component]) world
        (world.startComponents site (early ++ fault.component :: late)).1 := by
  obtain ⟨distinct, -, apart⟩ := List.nodup_append.mp distinct
  have absent : fault.component ∉ early := fun member =>
    apart _ member _ List.mem_cons_self rfl
  obtain ⟨goes, builds⟩ := builds_startComponents there distinct
    (fun component member => even component (List.mem_append_left _ member))
    fun other same _ => by
      obtain rfl := Option.some.inj (scripted.symm.trans same)
      exact absent
  rw [startComponents_append early _ goes]
  generalize world.startComponents site early = result at builds ⊢
  obtain ⟨started, outcome⟩ := result
  dsimp only at builds ⊢
  obtain ⟨middle, here, task, config, -⟩ := builds.here _ there
  have turn : started.attemptsOf fault.component = fault.after := by
    rw [attemptsOf_append builds.creations, even fault.component (by simp), List.countP_eq_zero.mpr]
    · rfl
    · intro creation member
      obtain ⟨other, before, rfl⟩ := List.mem_map.mp member
      simp only [creationOf, beq_iff_eq]
      rintro rfl
      exact absent before
  have fails := creationError?_eq_some (builds.script.symm ▸ scripted) turn
  obtain ⟨ends, builds'⟩ := builds_startComponent here fault.component
  rw [fails] at ends builds'
  rw [task, config] at builds'
  have all := builds.trans builds'
  unfold startComponents
  generalize started.startComponent site fault.component = result at ends all ⊢
  obtain ⟨last, error⟩ := result
  obtain rfl : error = some (.spawn (reportedName fault.component) fault.error) := ends
  exact ⟨rfl, all⟩

/-- What an attempt to open a gateway does: a new gateway is there, attempts to create its
components are recorded, and nothing else changes but the log. -/
structure Raises (path : TaskPath) (config : GatewayConfig) (made : List Creation)
    (before after : World) : Prop where
  script : after.script = before.script
  tasks : after.tasks = before.tasks
  ready : after.ready = before.ready
  timers : after.timers = before.timers
  creations : after.creations = before.creations ++ made
  length : after.sites.length = before.sites.length + 1
  old : ∀ site < before.sites.length, after.sites[site]? = before.sites[site]?
  new : ∃ found, after.sites[before.sites.length]? = some found ∧ found.gateway.task = path ∧
    found.gateway.config = config ∧ found.broker = {}

/-- The world with a gateway that has no component yet. -/
def withNew (world : World) (path : TaskPath) (config : GatewayConfig) : World :=
  { world with sites := world.sites ++ [⟨Gateway.new path config, {}⟩] }

/-- Attempts to start the components of a new gateway. -/
theorem raises_startComponents {path : TaskPath} {config : GatewayConfig} {made : List Creation}
    (components : List Component)
    (builds : Builds world.sites.length made (world.withNew path config)
      ((world.withNew path config).startComponents world.sites.length components).1) :
    Raises path config made world
      ((world.withNew path config).startComponents world.sites.length components).1 := by
  have attempts := attempts_startComponents (world.withNew path config) world.sites.length
    components
  have there : (world.withNew path config).sites[world.sites.length]? =
      some ⟨Gateway.new path config, {}⟩ := by simp [withNew]
  refine ⟨builds.script, attempts.tasks, builds.ready, builds.timers, builds.creations, ?_, ?_,
    builds.here _ there⟩
  · rw [attempts.length]
    simp [withNew]
  · intro site inside
    rw [attempts.others site (Nat.ne_of_lt inside)]
    exact List.getElem?_append_left inside

/-- Opening a gateway with a valid configuration is starting its components. -/
theorem openGateway_eq (world : World) (parent : TaskPath) (name : String) {config : GatewayConfig}
    (valid : config.faults = []) : world.openGateway parent name config =
      match (world.withNew (parent.child name) config).startComponents world.sites.length
        Component.all with
      | (world, some error) => (world, .error error)
      | (started, none) =>
        (started.note none
          [⟨.info, "proxy started", [("proxy", (parent.child name).text),
            ("brokers", Text.quotedList config.kafka.seedPeers)]⟩], .ok world.sites.length) := by
  unfold openGateway
  rw [valid]
  rfl

/-- A gateway is opened if the script has no fault for its turn. -/
theorem openGateway_ok (parent : TaskPath) (name : String) {config : GatewayConfig}
    (valid : config.faults = []) {turn : Nat}
    (even : ∀ component, world.attemptsOf component = turn)
    (safe : ∀ fault, world.script.creationFault = some fault → fault.after ≠ turn) :
    (world.openGateway parent name config).2 = .ok world.sites.length ∧
      Raises (parent.child name) config
        (Component.all.map (creationOf (parent.child name) config false)) world
        (world.openGateway parent name config).1 := by
  have there : (world.withNew (parent.child name) config).sites[world.sites.length]? =
      some ⟨Gateway.new (parent.child name) config, {}⟩ := by simp [withNew]
  obtain ⟨goes, builds⟩ := builds_startComponents there (by decide : Component.all.Nodup)
    (fun component _ => even component) fun fault scripted hit => absurd hit (safe fault scripted)
  have raises := raises_startComponents Component.all builds
  rw [openGateway_eq world parent name valid]
  generalize startComponents _ _ _ = result at goes raises ⊢
  obtain ⟨started, outcome⟩ := result
  obtain rfl : outcome = none := goes
  obtain ⟨script, tasks, ready, timers, creations, length, old, new⟩ := raises
  exact ⟨rfl, script, tasks, ready, timers, creations, length, old, new⟩

/-- A gateway is not opened if the script has a fault for its turn. -/
theorem openGateway_error (parent : TaskPath) (name : String) {config : GatewayConfig}
    (valid : config.faults = []) {fault : CreationFault}
    (scripted : world.script.creationFault = some fault)
    (even : ∀ component, world.attemptsOf component = fault.after)
    {early late : List Component} (split : Component.all = early ++ fault.component :: late) :
    (world.openGateway parent name config).2 =
        .error (.spawn (reportedName fault.component) fault.error) ∧
      Raises (parent.child name) config
        (early.map (creationOf (parent.child name) config false) ++
          [creationOf (parent.child name) config true fault.component]) world
        (world.openGateway parent name config).1 := by
  have there : (world.withNew (parent.child name) config).sites[world.sites.length]? =
      some ⟨Gateway.new (parent.child name) config, {}⟩ := by simp [withNew]
  have distinct : (early ++ fault.component :: late).Nodup := by
    rw [← split]
    decide
  obtain ⟨fails, builds⟩ := builds_startComponents_error there scripted distinct
    fun component _ => even component
  rw [← split] at fails builds
  have raises := raises_startComponents Component.all builds
  rw [openGateway_eq world parent name valid]
  generalize startComponents _ _ _ = result at fails raises ⊢
  obtain ⟨started, outcome⟩ := result
  obtain rfl : outcome = some (.spawn (reportedName fault.component) fault.error) := fails
  exact ⟨rfl, raises⟩

end World

namespace Registry

open World

variable {world after : World}

/-- The path of the gateway of a cluster. -/
def pathOf (cluster : String) : TaskPath := (TaskPath.root "proxy").child cluster

/-- The attempts to create the components of a cluster that is opened. -/
def plan (entry : String × GatewayConfig) : List Creation :=
  Component.all.map (creationOf (pathOf entry.1) entry.2 false)

/-- Gateways of clusters have been opened, in order. -/
structure Opens (entries : List (String × GatewayConfig)) (before after : World) : Prop where
  script : after.script = before.script
  tasks : after.tasks = before.tasks
  ready : after.ready = before.ready
  timers : after.timers = before.timers
  creations : after.creations = before.creations ++ entries.flatMap plan
  length : after.sites.length = before.sites.length + entries.length
  old : ∀ site < before.sites.length, after.sites[site]? = before.sites[site]?
  new : ∀ place cluster config, entries[place]? = some (cluster, config) → ∃ found,
    after.sites[before.sites.length + place]? = some found ∧ found.gateway.task = pathOf cluster ∧
      found.gateway.config = config ∧ Site.Untouched found

/-- The clusters with the numbers of their gateways. -/
def numbered (start : Nat) (entries : List (String × GatewayConfig)) : List (String × SiteId) :=
  (entries.map (·.1)).zip (List.range' start entries.length)

/-- The names of numbered clusters. -/
theorem names_numbered (start : Nat) (entries : List (String × GatewayConfig)) :
    (numbered start entries).map (·.1) = entries.map (·.1) := by
  rw [numbered, List.map_fst_zip]
  simp

/-- The numbers of numbered clusters. -/
theorem sites_numbered (start : Nat) (entries : List (String × GatewayConfig)) :
    (numbered start entries).map (·.2) = List.range' start entries.length := by
  rw [numbered, List.map_snd_zip]
  simp

/-- No gateway has been opened. -/
theorem Opens.nil (world : World) : Opens [] world world where
  script := rfl
  tasks := rfl
  ready := rfl
  timers := rfl
  creations := (List.append_nil _).symm
  length := rfl
  old := fun _ _ => rfl
  new := fun place cluster config there => by simp at there

/-- One gateway after the other. -/
theorem Opens.cons {cluster : String} {config : GatewayConfig}
    {rest : List (String × GatewayConfig)} {before between after : World}
    (first : Raises (pathOf cluster) config (plan (cluster, config)) before between)
    (whole : ∃ found, between.sites[before.sites.length]? = some found ∧ Site.Untouched found)
    (others : Opens rest between after) : Opens ((cluster, config) :: rest) before after where
  script := others.script.trans first.script
  tasks := others.tasks.trans first.tasks
  ready := others.ready.trans first.ready
  timers := others.timers.trans first.timers
  creations := by
    rw [others.creations, first.creations, List.append_assoc, List.flatMap_cons]
  length := by
    rw [others.length, first.length, List.length_cons]
    omega
  old := by
    intro site inside
    rw [others.old site (by rw [first.length]; omega), first.old site inside]
  new := by
    intro place name own there
    cases place with
    | zero =>
      obtain ⟨rfl, rfl⟩ := Prod.mk.inj (Option.some.inj there)
      obtain ⟨found, here, task, kept, -⟩ := first.new
      obtain ⟨same, again, untouched⟩ := whole
      obtain rfl := Option.some.inj (here.symm.trans again)
      refine ⟨found, ?_, task, kept, untouched⟩
      rw [Nat.add_zero, others.old _ (by rw [first.length]; omega)]
      exact here
    | succ place =>
      obtain ⟨found, here, rest⟩ := others.new place name own there
      rw [first.length] at here
      exact ⟨found, by rw [← here]; congr 1; omega, rest⟩

/-- Every component is created once for each cluster. -/
theorem countP_plan (entry : String × GatewayConfig) (component : Component) :
    (plan entry).countP (fun creation => creation.component == component) = 1 := by
  cases component <;> rfl

/-- All gateways are opened if the script has no fault for the turn of any of them. -/
theorem openAll_ok (opened : List (String × SiteId)) {entries : List (String × GatewayConfig)}
    (valid : ∀ entry ∈ entries, entry.2.faults = []) {turn : Nat}
    (even : ∀ component, world.attemptsOf component = turn)
    (safe : ∀ fault, world.script.creationFault = some fault →
      fault.after < turn ∨ turn + entries.length ≤ fault.after) :
    (openAll world opened entries).2 = .ok (opened ++ numbered world.sites.length entries) ∧
      Opens entries world (openAll world opened entries).1 := by
  induction entries generalizing world opened turn with
  | nil => exact ⟨by simp [openAll, numbered], .nil world⟩
  | cons entry rest ih =>
    obtain ⟨cluster, config⟩ := entry
    obtain ⟨goes, raises⟩ := openGateway_ok (.root "proxy") cluster
      (valid (cluster, config) List.mem_cons_self) even fun fault scripted hit => by
        have apart := safe fault scripted
        rw [List.length_cons] at apart
        omega
    generalize opens : world.openGateway (.root "proxy") cluster config = result at goes raises
    obtain ⟨between, outcome⟩ := result
    obtain rfl : outcome = .ok world.sites.length := goes
    have whole := untouched_openGateway opens
    obtain ⟨all, others⟩ := @ih between (opened ++ [(cluster, world.sites.length)])
      (fun entry member => valid entry (List.mem_cons_of_mem _ member)) (turn + 1)
      (fun component => by
        rw [attemptsOf_append raises.creations, even component]
        exact congrArg _ (countP_plan (cluster, config) component))
      fun fault scripted => by
        have apart := safe fault (raises.script ▸ scripted)
        rw [List.length_cons] at apart
        omega
    unfold openAll
    rw [opens]
    refine ⟨?_, .cons raises whole others⟩
    rw [all, raises.length, List.append_assoc]
    rfl

/-- Clusters that follow others are opened when those have been. -/
theorem openAll_append (opened : List (String × SiteId)) {clusters : List (String × SiteId)}
    (early late : List (String × GatewayConfig))
    (goes : (openAll world opened early).2 = .ok clusters) :
    openAll world opened (early ++ late) = openAll (openAll world opened early).1 clusters late := by
  induction early generalizing world opened with
  | nil =>
    obtain rfl := Except.ok.inj goes
    rfl
  | cons entry rest ih =>
    obtain ⟨cluster, config⟩ := entry
    simp only [List.cons_append, openAll] at goes ⊢
    split at goes
    · exact ih _ goes
    · simp at goes

/-- Gateways are opened up to the cluster at whose turn the script has a fault. -/
theorem openAll_error (opened : List (String × SiteId)) {before : List (String × GatewayConfig)}
    {cluster : String} {config : GatewayConfig} {later : List (String × GatewayConfig)}
    (valid : ∀ entry ∈ before ++ (cluster, config) :: later, entry.2.faults = []) {turn : Nat}
    (even : ∀ component, world.attemptsOf component = turn) {fault : CreationFault}
    (scripted : world.script.creationFault = some fault)
    (hit : turn + before.length = fault.after) {early late : List Component}
    (split : Component.all = early ++ fault.component :: late) :
    (openAll world opened (before ++ (cluster, config) :: later)).2 =
        .error (cluster, .spawn (reportedName fault.component) fault.error,
          opened ++ numbered world.sites.length before) ∧
      ∃ between, Opens before world between ∧
        Raises (pathOf cluster) config
          (early.map (creationOf (pathOf cluster) config false) ++
            [creationOf (pathOf cluster) config true fault.component]) between
          (openAll world opened (before ++ (cluster, config) :: later)).1 := by
  obtain ⟨goes, opens⟩ := openAll_ok opened
    (fun entry member => valid entry (List.mem_append_left _ member)) even
    fun other same => by
      obtain rfl := Option.some.inj (scripted.symm.trans same)
      exact .inr (Nat.le_of_eq hit)
  rw [openAll_append opened before _ goes]
  generalize (openAll world opened before).1 = between at opens ⊢
  -- every gateway before has taken one attempt for each component, so now it is the turn that fails
  have evened (component : Component) : between.attemptsOf component = fault.after := by
    have counted : (before.flatMap plan).countP (fun creation => creation.component == component) =
        before.length := by
      rw [List.countP_flatMap]
      simp [Function.comp_def, countP_plan, List.map_const']
    rw [attemptsOf_append opens.creations, counted, even component, hit]
  have sound : config.faults = [] := valid (cluster, config) (by simp)
  obtain ⟨fails, raises⟩ := openGateway_error (.root "proxy") cluster sound
    (opens.script.symm ▸ scripted) evened split
  unfold openAll
  generalize between.openGateway (.root "proxy") cluster config = result at fails raises ⊢
  obtain ⟨last, outcome⟩ := result
  obtain rfl : outcome = .error (.spawn (reportedName fault.component) fault.error) := fails
  exact ⟨rfl, between, opens, raises⟩

end Registry

end ClusterGateway
