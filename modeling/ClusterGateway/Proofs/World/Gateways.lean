import ClusterGateway.Proofs.World.Tasks

/-!
# Which gateways a task changes

A gateway is what a request sees of it: the components it holds, the sessions it has
recorded and the lifecycle of its components. A task changes the gateways that it is for,
and a task that shuts nothing down leaves every lifecycle alone. Sessions of a cluster may
change in other moves, too, but a move that runs no task changes no gateway. Main
statements: `Strokes.gateway?_eq`, `gateway?_apply`.
-/

namespace ClusterGateway

/-- The gateways that a task of a purpose may change. -/
def Purpose.places : Purpose → List SiteId
  | .request site _ => [site]
  | .deliverAck site _ _ _ _ => [site]
  | .deliverAnswer _ _ _ => []
  | .stopComponent site _ _ => [site]
  | .shutdown sites _ => sites

/-- A task takes components away only from gateways that it may change. -/
theorem Purpose.mem_places {purpose : Purpose} {site : SiteId} (tears : site ∈ purpose.tearsDown) :
    site ∈ purpose.places := by
  cases purpose with
  | request place request => cases request <;> simp_all [tearsDown, shutsDown, places]
  | deliverAck => simp [tearsDown, shutsDown] at tears
  | deliverAnswer => simp [tearsDown, shutsDown] at tears
  | stopComponent => exact tears
  | shutdown => exact tears

namespace World

/-- The gateway of a number. -/
def gateway? (world : World) (site : SiteId) : Option Gateway :=
  (world.sites[site]?).map (·.gateway)

variable {world before after : World} {me : TaskId} {purpose : Purpose} {sends hands : Prop}
  {site : SiteId}

/-- Gateways that are the same. -/
theorem gateway?_congr (same : after.sites = before.sites) (site : SiteId) :
    after.gateway? site = before.gateway? site := by
  rw [gateway?, gateway?, same]

/-- A gateway after one was changed. -/
theorem gateway?_onGateway (world : World) (place : SiteId) (change : Gateway → Gateway)
    (site : SiteId) : (world.onGateway place change).gateway? site =
      if place = site then (world.gateway? site).map change else world.gateway? site := by
  rw [gateway?, onGateway, getElem?_onSite]
  split
  · rw [gateway?, Option.map_map, Option.map_map]
    rfl
  · rfl

/-- A cluster that is changed leaves its gateway alone. -/
theorem gateway?_onBroker (world : World) (place : SiteId) (change : Broker → Broker)
    (site : SiteId) : (world.onBroker place change).gateway? site = world.gateway? site := by
  rw [gateway?, onBroker, getElem?_onSite]
  split
  · rw [Option.map_map]
    rfl
  · rfl

/-- A session that is changed leaves the gateways alone. -/
theorem gateway?_onSession (world : World) (place : SiteId) (number : SessionId)
    (change : Session → Session × List TaskId) (site : SiteId) :
    (world.onSession place number change).gateway? site = world.gateway? site := by
  obtain ⟨ready, same⟩ := exists_onSession world place number change
  rw [same]
  exact gateway?_onBroker world place (·.onSession number fun found => (change found).1) site

/-- A gateway after the state of a component of one was set. -/
theorem gateway?_setState (world : World) (place : SiteId) (actor : Option String)
    (component : Component) (state : ComponentState) (site : SiteId) :
    (world.setState place actor component state).gateway? site =
      if place = site then (world.gateway? site).map (·.setState component state)
      else world.gateway? site := by
  obtain ⟨absent, same⟩ | ⟨entries, same⟩ := setState_cases world place actor component state
  · rw [same]
    split
    · rename_i here
      simp [gateway?, ← here, absent]
    · rfl
  · rw [same]
    exact gateway?_onGateway world place (·.setState component state) site

/-- One stroke changes one gateway at most: one that the task is for, and its lifecycle only where
the task shuts it down. -/
theorem Stroke.gateway?_cases (stroke : Stroke me purpose sends hands before after) :
    (∀ site, after.gateway? site = before.gateway? site) ∨
      ∃ place change, place ∈ purpose.places ∧
        (∀ site, after.gateway? site =
          if place = site then (before.gateway? site).map change else before.gateway? site) ∧
        (place ∈ purpose.tearsDown ∨
          ∀ gateway, (change gateway).lifecycle = gateway.lifecycle) := by
  cases stroke with
  | wake other =>
    obtain ⟨ready, same⟩ := exists_wake before other
    exact .inl (gateway?_congr (by rw [same]))
  | tell target answer =>
    obtain same | ⟨found, -, -, same⟩ := tellAnswer_cases before target answer
    · exact .inl (gateway?_congr (by rw [same]))
    · obtain ⟨ready, woken⟩ := exists_wake (before.setStage target (.told answer)) target
      exact .inl (gateway?_congr (by rw [same, woken]; rfl))
  | serve place request found broker asks there serves =>
    exact .inl (gateway?_onBroker before place _)
  | route place group topic ack message asks =>
    exact .inr ⟨place, _, by simp [asks, Purpose.places], gateway?_onGateway before place _,
      .inr fun _ => rfl⟩
  | release place component tears =>
    exact .inr ⟨place, _, Purpose.mem_places tears, gateway?_onGateway before place _, .inl tears⟩
  | setState place actor component state tears =>
    exact .inr ⟨place, _, Purpose.mem_places tears,
      gateway?_setState before place actor component state, .inl tears⟩
  | notify place event tears =>
    exact .inr ⟨place, _, Purpose.mem_places tears, gateway?_onGateway before place _, .inl tears⟩
  | recordStop place component ended tears => exact .inl (gateway?_onBroker before place _)
  | touch place session change acknowledges =>
    exact .inl (gateway?_onSession before place session _)
  | _ => exact .inl fun _ => rfl

/-- A task leaves the gateways alone that it is not for. -/
theorem Strokes.gateway?_eq (strokes : Strokes me purpose sends hands before after)
    (foreign : site ∉ purpose.places) : after.gateway? site = before.gateway? site := by
  refine strokes.keeps (P := fun before after => after.gateway? site = before.gateway? site)
    (fun _ => rfl) (fun first second => second.trans first) ?_
  intro before after stroke
  obtain same | ⟨place, change, mine, same, -⟩ := stroke.gateway?_cases
  · exact same site
  · have apart : place ≠ site := fun here => foreign (here ▸ mine)
    rw [same, if_neg apart]

/-- A task leaves the lifecycles of the gateways alone that it does not shut down. -/
theorem Strokes.lifecycle_eq (strokes : Strokes me purpose sends hands before after)
    (foreign : site ∉ purpose.tearsDown) :
    (after.gateway? site).map (·.lifecycle) = (before.gateway? site).map (·.lifecycle) := by
  refine strokes.keeps (P := fun before after =>
    (after.gateway? site).map (·.lifecycle) = (before.gateway? site).map (·.lifecycle))
    (fun _ => rfl) (fun first second => second.trans first) ?_
  intro before after stroke
  obtain same | ⟨place, change, -, same, quiet⟩ := stroke.gateway?_cases
  · rw [same]
  · rw [same]
    split
    · rename_i here
      obtain tears | still := quiet
      · exact absurd (here ▸ tears) foreign
      · rw [Option.map_map]
        exact congrArg (Option.map · _) (funext still)
    · rfl

/-- Cancelling a task changes no gateway. -/
theorem gateway?_cancel (world : World) (task : TaskId) (site : SiteId) :
    (world.cancel task).gateway? site = world.gateway? site := by
  obtain same | ⟨ended, rfl, same | ⟨place, number, same⟩ | ⟨parent, same⟩⟩ :=
    cancel_forms world task
  · rw [same]
  · rw [same]
    rfl
  · rw [same]
    exact gateway?_onSession _ place number (·.withdraw task) site
  · obtain ⟨ready, woken⟩ := exists_wake
      (({ world with ready := world.ready.erase task } : World).finish task .cancelled) parent
    rw [same, woken]
    rfl

/-- Only a task that runs changes a gateway. -/
theorem gateway?_apply (world : World) {move : Move} (still : ∀ task, move ≠ .resume task)
    (site : SiteId) : (world.apply move).gateway? site = world.gateway? site := by
  cases move with
  | resume task => exact absurd rfl (still task)
  | pass moment =>
    obtain ⟨ready, same⟩ := exists_passTo world moment
    exact gateway?_congr (by rw [apply, same]) site
  | request place request => rfl
  | shutdown sites logged => rfl
  | cancel task => exact gateway?_cancel world task site
  | enqueue place group topic items => exact gateway?_onBroker world place _ site
  | read place number limit => exact gateway?_onSession world place number _ site
  | close place number => exact gateway?_onSession world place number _ site
  | renew place key => exact gateway?_onBroker world place _ site

/-- No gateway comes or goes along a run. -/
theorem Sound.length_sites {last : World} (sound : world.Sound) (reaches : world.Reaches last) :
    last.sites.length = world.sites.length :=
  sound.keeps (P := fun later => later.sites.length = world.sites.length)
    (fun _ move sound _ same => (apply_fields sound move).2.trans same) rfl reaches

/-- A task that runs leaves the gateways alone that it is not for. -/
theorem gateway?_resume (sound : world.Sound) {task : TaskId} {found : Task}
    (there : world.tasks[task]? = some found) (foreign : site ∉ found.purpose.places) :
    (world.resume task).gateway? site = world.gateway? site :=
  (strokes_resume there (sound task found there).1).gateway?_eq foreign

end World

end ClusterGateway
