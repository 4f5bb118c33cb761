import ClusterGateway.Config.Validation
import ClusterGateway.World.Running

/-!
# Opening gateways

A gateway is opened by creating its components one after the other; the first that fails
ends the attempt, and those created before it are left as they are. A registry opens one
gateway per configured cluster in ascending order of the names. If one of them fails,
the gateways opened before it are shut down before the failure is reported.
-/

namespace ClusterGateway

namespace World

/-- The log entries of a failed component. -/
def creationFailureEntries (lifecycle : Lifecycle) (component : Component) (error : Error) :
    List LogEntry :=
  let working := (lifecycle.states.filter fun entry => entry.2.canWork).map (·.1)
  [⟨.error, "failed to spawn proxy subsystem",
    [("component", component.name), ("error", error.message),
      ("left_running", Text.quotedList (KeyOrder.sortTexts working))]⟩]

/-- The error of the next attempt to create a component, if the script has one for it. -/
def creationError? (world : World) (component : Component) : Option Error :=
  match world.script.creationFault with
  | none => none
  | some fault =>
    let before := world.creations.countP fun creation => creation.component == component
    if fault.component = component ∧ fault.after = before then some fault.error else none

/-- Attempts to create a component of a gateway. -/
def create (world : World) (site : SiteId) (component : Component) : World × Option Error :=
  match world.sites[site]? with
  | none => (world, none)
  | some found =>
    let error := world.creationError? component
    let creation : Creation :=
      { component := component
        owner := found.gateway.task.text
        seedPeers := found.gateway.config.kafka.seedPeers
        failed := error.isSome }
    let attempted : World := { world with creations := world.creations ++ [creation] }
    match error with
    | some error => (attempted, some error)
    | none => (attempted.onGateway site (·.keep component), none)

/-- A component is marked as failed, with its error. -/
def markFailed (world : World) (site : SiteId) (component : Component) (error : Error) : World :=
  match world.sites[site]? with
  | none => world
  | some found =>
    let recorded := found.gateway.lifecycle.markFailed component.name error.message
    (world.onGateway site fun gateway => { gateway with lifecycle := recorded }).note none
      (found.gateway.lifecycle.setStateEntries component.name .failed)

/-- Name under which the failure of a component is reported. -/
def reportedName : Component → String
  | .client => "Kafka client"
  | component => component.name

/-- Starts one component of a gateway. -/
def startComponent (world : World) (site : SiteId) (component : Component) :
    World × Option Error :=
  let world := if component = .offsets then world else world.setState site none component .starting
  match world.create site component with
  | (world, none) => (world.setState site none component .running, none)
  | (world, some error) =>
    let world := world.markFailed site component error
    let world :=
      if component = .client then world
      else
        match world.sites[site]? with
        | none => world
        | some found =>
          world.note none (creationFailureEntries found.gateway.lifecycle component error)
    (world, some (.spawn (reportedName component) error))

/-- Starts components in order, up to the first that fails. -/
def startComponents (world : World) (site : SiteId) : List Component → World × Option Error
  | [] => (world, none)
  | component :: rest =>
    match world.startComponent site component with
    | (world, some error) => (world, some error)
    | (world, none) => world.startComponents site rest

/-- Opens a gateway under a parent task. -/
def openGateway (world : World) (parent : TaskPath) (name : String) (config : GatewayConfig) :
    World × Except Error SiteId :=
  if config.faults.isEmpty then
    let site := world.sites.length
    let gateway := Gateway.new (parent.child name) config
    let world : World := { world with sites := world.sites ++ [⟨gateway, {}⟩] }
    match world.startComponents site Component.all with
    | (world, some error) => (world, .error error)
    | (world, none) =>
      (world.note none
        [⟨.info, "proxy started", [("proxy", gateway.task.text),
          ("brokers", Text.quotedList config.kafka.seedPeers)]⟩], .ok site)
  else (world, .error (.invalidConfiguration config.faults))

end World

/-- The gateways of all clusters, in ascending order of the names of the clusters. -/
structure Registry where
  clusters : List (String × SiteId)
  defaultCluster : String
deriving Repr

namespace Registry

/-- The gateway of a cluster, or of the default cluster where none is named. -/
def get? (registry : Registry) (cluster : Option String) : Except Error SiteId :=
  let name := cluster.getD registry.defaultCluster
  match registry.clusters.lookup name with
  | some site => .ok site
  | none => .error (.unknownCluster name)

/-- Names of the clusters. -/
def names (registry : Registry) : List String := registry.clusters.map (·.1)

/-- The gateways of the registry. -/
def sites (registry : Registry) : List SiteId := registry.clusters.map (·.2)

/-- Opens gateways in order; the first failure is reported with the gateways before it. -/
def openAll (world : World) (opened : List (String × SiteId)) :
    List (String × GatewayConfig) →
      World × Except (String × Error × List (String × SiteId)) (List (String × SiteId))
  | [] => (world, .ok opened)
  | (cluster, config) :: rest =>
    match world.openGateway (.root "proxy") cluster config with
    | (world, .ok site) => openAll world (opened ++ [(cluster, site)]) rest
    | (world, .error error) => (world, .error (cluster, error, opened))

/-- Shuts down gateways and waits until they are, however long it takes. -/
def shutDown (world : World) (sites : List SiteId) : World :=
  let (world, task) := world.spawn none (.shutdown sites false)
  world.awaitEnd task

/-- Opens the gateways of a configuration. -/
def openFrom (world : World) (config : AppConfig) : World × Except Error Registry :=
  if config.faults.isEmpty then
    match openAll world [] (KeyOrder.sort config.proxies.entries) with
    | (world, .ok clusters) =>
      (world.note none
        [⟨.info, "all cluster proxies started",
          [("clusters", toString clusters.length), ("default_cluster", config.defaultCluster)]⟩],
        .ok ⟨clusters, config.defaultCluster⟩)
    | (world, .error (cluster, error, opened)) =>
      let world := world.note none
        [⟨.error, "failed to spawn cluster proxy",
          [("cluster", cluster), ("error", error.message)]⟩]
      (shutDown world (opened.map (·.2)), .error error)
  else (world, .error (.invalidConfiguration config.faults))

end Registry

end ClusterGateway
