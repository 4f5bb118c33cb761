import ClusterGateway.Proofs.World.Tasks

/-!
# Gateways along a run

No move opens or removes a gateway, and no gateway changes its path or its configuration.
The sessions that are recorded at a gateway change only when a consume request at that
gateway takes a step.
-/

namespace ClusterGateway.World

variable {world last : World} {site : SiteId} {found : Site} {move : Move}

/-- What a move leaves of a gateway. -/
structure Remains (world : World) (move : Move) (site : SiteId) (before after : Site) : Prop where
  task : after.gateway.task = before.gateway.task
  config : after.gateway.config = before.gateway.config
  routes : (∀ (task : TaskId) (running : Task) group topic ack, move = .resume task →
    world.tasks[task]? = some running →
      running.purpose ≠ .request site (.consume group topic ack)) →
    after.gateway.routes = before.gateway.routes

/-- A gateway whose cluster changes is the same gateway. -/
theorem exists_onBroker (there : world.sites[site]? = some found) (place : SiteId)
    (change : Broker → Broker) :
    ∃ broker, (world.onBroker place change).sites[site]? = some { found with broker := broker } := by
  rw [onBroker, getElem?_onSite, there]
  split
  · exact ⟨change found.broker, rfl⟩
  · exact ⟨found.broker, rfl⟩

/-- A gateway whose cluster has a session that changes is the same gateway. -/
theorem exists_site_onSession (there : world.sites[site]? = some found) (place : SiteId)
    (number : SessionId) (change : Session → Session × List TaskId) : ∃ broker,
      (world.onSession place number change).sites[site]? = some { found with broker := broker } := by
  obtain ⟨ready, same⟩ := exists_onSession world place number change
  rw [same]
  exact exists_onBroker there place (·.onSession number fun found => (change found).1)

/-- Every gateway remains in every move. -/
theorem exists_remains (sound : world.Sound) (there : world.sites[site]? = some found)
    (move : Move) : ∃ later, (world.apply move).sites[site]? = some later ∧
      world.Remains move site found later := by
  have stays {after : World} (same : after.sites = world.sites) : ∃ later,
      after.sites[site]? = some later ∧ world.Remains move site found later :=
    ⟨found, by rw [same]; exact there, rfl, rfl, fun _ => rfl⟩
  have cluster {after : World}
      (kept : ∃ broker, after.sites[site]? = some { found with broker := broker }) :
      ∃ later, after.sites[site]? = some later ∧ world.Remains move site found later := by
    obtain ⟨broker, here⟩ := kept
    exact ⟨_, here, rfl, rfl, fun _ => rfl⟩
  cases move with
  | resume task =>
    cases mine : world.tasks[task]? with
    | none => exact stays (by rw [apply, resume_absent mine])
    | some running =>
      have strokes := strokes_resume mine (sound task running mine).1
      obtain ⟨absent, -⟩ | ⟨early, later, before, after, frame⟩ := strokes.siteFrame site
      · exact absurd (absent.symm.trans there) (by simp)
      · obtain rfl := Option.some.inj (before.symm.trans there)
        exact ⟨later, after, frame.task, frame.config, fun plain => frame.routes
          fun group topic ack => plain task running group topic ack rfl mine⟩
  | pass moment =>
    obtain ⟨ready, same⟩ := exists_passTo world moment
    exact stays (by rw [apply, same])
  | request => exact stays rfl
  | shutdown => exact stays rfl
  | cancel task =>
    obtain same | ⟨ended, rfl, same | ⟨place, number, same⟩ | ⟨parent, same⟩⟩ :=
      cancel_forms world task
    · exact stays (by rw [apply, same])
    · exact stays (by rw [apply, same]; rfl)
    · have left : (({ world with ready := world.ready.erase task } : World).finish task
          .cancelled).sites[site]? = some found := there
      rw [apply, same]
      exact cluster (exists_site_onSession left place number _)
    · obtain ⟨ready, woken⟩ := exists_wake
        (({ world with ready := world.ready.erase task } : World).finish task .cancelled) parent
      exact stays (by rw [apply, same, woken]; rfl)
  | enqueue place => exact cluster (exists_onBroker there place _)
  | read place number limit => exact cluster (exists_site_onSession there place number _)
  | close place number => exact cluster (exists_site_onSession there place number _)
  | renew place => exact cluster (exists_onBroker there place _)

/-- A gateway keeps its path and its configuration along a run. -/
theorem Sound.site_reaches (sound : world.Sound) (reaches : world.Reaches last)
    (there : world.sites[site]? = some found) : ∃ later, last.sites[site]? = some later ∧
      later.gateway.task = found.gateway.task ∧ later.gateway.config = found.gateway.config := by
  refine sound.keeps (P := fun world => ∃ later, world.sites[site]? = some later ∧
    later.gateway.task = found.gateway.task ∧ later.gateway.config = found.gateway.config) ?_
    ⟨found, there, rfl, rfl⟩ reaches
  rintro world move sound - ⟨middle, here, task, config⟩
  obtain ⟨later, after, remains⟩ := exists_remains sound here move
  exact ⟨later, after, remains.task.trans task, remains.config.trans config⟩

end ClusterGateway.World
