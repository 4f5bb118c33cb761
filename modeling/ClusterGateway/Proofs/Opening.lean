import ClusterGateway.Proofs.World.Fields
import ClusterGateway.Registry

/-!
# Worlds in which gateways have been opened

Every run begins in a world in which some gateways were opened one after the other and
nothing else has happened. There no task exists, every gateway holds all of its
components and has routed nothing, and the clusters are untouched.
-/

namespace ClusterGateway

namespace World

/-- A world in which gateways have been opened, and nothing else has happened. -/
inductive Opened : World → Prop
  | empty (script : BrokerScript) : Opened { script := script }
  | gateway {world after : World} {parent : TaskPath} {name : String} {config : GatewayConfig}
    {site : SiteId} (opened : Opened world)
    (opens : world.openGateway parent name config = (after, .ok site)) : Opened after
  | note {world : World} (opened : Opened world) (actor : Option String)
    (entries : List LogEntry) : Opened (world.note actor entries)

/-- What the start of components does: one gateway holds more of them than before. -/
structure Starts (site : SiteId) (started : List Component) (before after : World) : Prop where
  script : after.script = before.script
  tasks : after.tasks = before.tasks
  ready : after.ready = before.ready
  timers : after.timers = before.timers
  length : after.sites.length = before.sites.length
  others : ∀ other, other ≠ site → after.sites[other]? = before.sites[other]?
  here : ∀ found, before.sites[site]? = some found → ∃ later, after.sites[site]? = some later ∧
    later.broker = found.broker ∧ later.gateway.routes = found.gateway.routes ∧
    later.gateway.config = found.gateway.config ∧
    ∀ component, later.gateway.holds component =
      (started.contains component || found.gateway.holds component)

namespace Starts

variable {site : SiteId} {started later : List Component} {before middle after : World}

/-- Nothing but the log and the attempts to create components changes. -/
theorem of_eq (script : after.script = before.script) (tasks : after.tasks = before.tasks)
    (ready : after.ready = before.ready) (timers : after.timers = before.timers)
    (sites : after.sites = before.sites) : Starts site [] before after where
  script := script
  tasks := tasks
  ready := ready
  timers := timers
  length := by rw [sites]
  others := fun other _ => by rw [sites]
  here := fun found there => ⟨found, by rw [sites]; exact there, rfl, rfl, rfl, by simp⟩

/-- One start after the other. -/
theorem trans (first : Starts site started before middle)
    (second : Starts site later middle after) :
    Starts site (started ++ later) before after where
  script := second.script.trans first.script
  tasks := second.tasks.trans first.tasks
  ready := second.ready.trans first.ready
  timers := second.timers.trans first.timers
  length := second.length.trans first.length
  others := fun other differ => (second.others other differ).trans (first.others other differ)
  here := by
    intro found there
    obtain ⟨early, between, broker, routes, config, holds⟩ := first.here found there
    obtain ⟨late, settled, broker', routes', config', holds'⟩ := second.here early between
    refine ⟨late, settled, broker'.trans broker, routes'.trans routes, config'.trans config, ?_⟩
    intro component
    rw [holds' component, holds component]
    simp only [List.contains_eq_mem, List.mem_append, Bool.decide_or]
    cases decide (component ∈ later) <;> cases decide (component ∈ started) <;> rfl

end Starts

/-- A change of one gateway that keeps its routes, its configuration and its components. -/
theorem starts_onGateway (world : World) (site : SiteId) (change : Gateway → Gateway)
    (started : List Component)
    (keeps : ∀ gateway, (change gateway).routes = gateway.routes ∧
      (change gateway).config = gateway.config ∧ ∀ component, (change gateway).holds component =
        (started.contains component || gateway.holds component)) :
    Starts site started world (world.onGateway site change) where
  script := rfl
  tasks := rfl
  ready := rfl
  timers := rfl
  length := by simp [onGateway, onSite]
  others := by
    intro other differ
    rw [onGateway, getElem?_onSite]
    exact if_neg (Ne.symm differ)
  here := by
    intro found there
    obtain ⟨routes, config, holds⟩ := keeps found.gateway
    refine ⟨{ found with gateway := change found.gateway }, ?_, rfl, routes, config, holds⟩
    rw [onGateway, getElem?_onSite, there]
    exact if_pos rfl

/-- Setting the state of a component starts nothing. -/
theorem starts_setState (world : World) (site : SiteId) (actor : Option String)
    (component : Component) (state : ComponentState) :
    Starts site [] world (world.setState site actor component state) := by
  obtain ⟨-, same⟩ | ⟨entries, same⟩ := setState_cases world site actor component state
  · rw [same]
    exact .of_eq rfl rfl rfl rfl rfl
  · rw [same]
    have set : Starts site [] world (world.onGateway site (·.setState component state)) :=
      starts_onGateway world site _ [] fun gateway => ⟨rfl, rfl, by simp [Gateway.setState]⟩
    exact set.trans (.of_eq rfl rfl rfl rfl rfl)

/-- A created component is held. -/
theorem starts_create {world created : World} {site : SiteId} {component : Component}
    (goes : world.create site component = (created, none)) (there : site < world.sites.length) :
    Starts site [component] world created := by
  have attempted (creations : List Creation) : Starts site [component] world
      ({ world with creations := creations }.onGateway site (·.keep component)) := by
    have tried : Starts site [] world { world with creations := creations } :=
      .of_eq rfl rfl rfl rfl rfl
    have kept : Starts site [component] { world with creations := creations }
        ({ world with creations := creations }.onGateway site (·.keep component)) :=
      starts_onGateway _ site _ [component] fun gateway =>
        ⟨rfl, rfl, fun other => by simp [Gateway.keep, Bool.beq_eq_decide_eq]⟩
    exact tried.trans kept
  unfold create at goes
  rw [List.getElem?_eq_getElem there] at goes
  dsimp only at goes
  split at goes
  · simp at goes
  · obtain rfl := (Prod.mk.inj goes).1
    exact attempted _

/-- A component that was started is held. -/
theorem starts_startComponent {world after : World} {site : SiteId} {component : Component}
    (goes : world.startComponent site component = (after, none))
    (there : site < world.sites.length) : Starts site [component] world after := by
  let announced : World :=
    if component = .offsets then world else world.setState site none component .starting
  have announces : Starts site [] world announced := by
    unfold announced
    split
    · exact .of_eq rfl rfl rfl rfl rfl
    · exact starts_setState world site none component .starting
  unfold startComponent at goes
  dsimp only at goes
  split at goes
  · rename_i created attempt
    obtain rfl := (Prod.mk.inj goes).1
    have creates : Starts site [component] announced created :=
      starts_create attempt (announces.length.symm ▸ there)
    exact (announces.trans creates).trans (starts_setState created site none component .running)
  · simp at goes

/-- Components that were started are held. -/
theorem starts_startComponents {world after : World} {site : SiteId} {components : List Component}
    (goes : world.startComponents site components = (after, none))
    (there : site < world.sites.length) : Starts site components world after := by
  induction components generalizing world with
  | nil =>
    obtain rfl := (Prod.mk.inj goes).1
    exact .of_eq rfl rfl rfl rfl rfl
  | cons component rest ih =>
    unfold startComponents at goes
    split at goes
    · simp at goes
    · rename_i started first
      have begins : Starts site [component] world started := starts_startComponent first there
      exact begins.trans (ih goes (begins.length.symm ▸ there))

/-- A gateway that is opened is a new one, whose components are started. -/
theorem starts_openGateway {world after : World} {parent : TaskPath} {name : String}
    {config : GatewayConfig} {site : SiteId}
    (opens : world.openGateway parent name config = (after, .ok site)) :
    config.faults = [] ∧ site = world.sites.length ∧ Starts site Component.all
      { world with sites := world.sites ++ [⟨Gateway.new (parent.child name) config, {}⟩] }
      after := by
  unfold openGateway at opens
  split at opens
  · rename_i valid
    dsimp only at opens
    split at opens
    · simp at opens
    · rename_i started all
      obtain ⟨rfl, same⟩ := Prod.mk.inj opens
      obtain rfl := Except.ok.inj same
      have starts := starts_startComponents all (by simp)
      exact ⟨List.isEmpty_iff.mp valid, rfl, starts.trans (.of_eq rfl rfl rfl rfl rfl)⟩
  · simp at opens

/-- An opened gateway that nothing has happened to: it holds every component, has routed
nothing, has a valid configuration, and its cluster is untouched. -/
structure Site.Untouched (found : Site) : Prop where
  holds : ∀ component, found.gateway.holds component = true
  routes : found.gateway.routes = .empty
  valid : found.gateway.config.faults = []
  broker : found.broker = {}

/-- A gateway that has just been opened is untouched. -/
theorem untouched_openGateway {world after : World} {parent : TaskPath} {name : String}
    {config : GatewayConfig} {site : SiteId}
    (opens : world.openGateway parent name config = (after, .ok site)) :
    ∃ found, after.sites[site]? = some found ∧ Site.Untouched found := by
  obtain ⟨valid, rfl, starts⟩ := starts_openGateway opens
  obtain ⟨later, here, broker, routes, kept, holds⟩ := starts.here
    ⟨Gateway.new (parent.child name) config, {}⟩ (by simp)
  refine ⟨later, here, fun component => ?_, routes, kept.symm ▸ valid, broker⟩
  rw [holds component]
  cases component <;> rfl

/-- A world in which gateways have been opened has no tasks and untouched gateways. -/
theorem Opened.untouched {world : World} (opened : world.Opened) :
    world.tasks = [] ∧ world.ready = [] ∧ world.timers = [] ∧
      ∀ found ∈ world.sites, Site.Untouched found := by
  induction opened with
  | empty script => exact ⟨rfl, rfl, rfl, by simp⟩
  | note _ actor entries ih => exact ih
  | @gateway world after parent name config site opened opens ih =>
    obtain ⟨tasks, ready, timers, sites⟩ := ih
    obtain ⟨later, here, untouched⟩ := untouched_openGateway opens
    obtain ⟨-, rfl, starts⟩ := starts_openGateway opens
    refine ⟨starts.tasks.trans tasks, starts.ready.trans ready, starts.timers.trans timers, ?_⟩
    intro found member
    obtain ⟨place, there⟩ := List.mem_iff_getElem?.mp member
    by_cases new : place = world.sites.length
    · rw [new] at there
      obtain rfl := Option.some.inj (here.symm.trans there)
      exact untouched
    · have old : (world.sites ++ [_])[place]? = some found :=
        (starts.others place new).symm.trans there
      rw [List.getElem?_append] at old
      split at old
      · exact sites found (List.mem_of_getElem? old)
      · rename_i outside
        rw [List.getElem?_singleton] at old
        split at old
        · omega
        · simp at old

/-- One gateway with a delivery timeout of a second, before a cluster whose sessions hold one
offset each. -/
def narrowGateway : World :=
  (openGateway { script := { sessionBuffer := 1 } } (.root "test") "default"
    { consumer := { longPollingTimeout := 1000 } }).1

/-- The gateway before the cluster with narrow sessions was opened. -/
theorem opened_narrowGateway : narrowGateway.Opened := by
  have opens : (openGateway { script := { sessionBuffer := 1 } } (.root "test") "default"
      { consumer := { longPollingTimeout := 1000 } }) = (narrowGateway, .ok 0) := rfl
  exact .gateway (.empty { sessionBuffer := 1 }) opens

end World

namespace Registry

/-- A registry opens gateways and does nothing else. -/
theorem opened_openAll {world after : World} {opened clusters : List (String × SiteId)}
    {configs : List (String × GatewayConfig)} (start : world.Opened)
    (opens : openAll world opened configs = (after, .ok clusters)) : after.Opened := by
  induction configs generalizing world opened with
  | nil =>
    obtain rfl := (Prod.mk.inj opens).1
    exact start
  | cons config rest ih =>
    obtain ⟨cluster, config⟩ := config
    unfold openAll at opens
    split at opens
    · rename_i between site first
      exact ih (.gateway start first) opens
    · simp at opens

/-- A world in which the gateways of a configuration were opened. -/
theorem opened_openFrom {world after : World} {config : AppConfig} {registry : Registry}
    (start : world.Opened) (opens : openFrom world config = (after, .ok registry)) :
    after.Opened := by
  unfold openFrom at opens
  split at opens
  · split at opens
    · rename_i between clusters all
      obtain rfl := (Prod.mk.inj opens).1
      exact .note (opened_openAll start all) none _
    · simp at opens
  · simp at opens

end Registry

end ClusterGateway
