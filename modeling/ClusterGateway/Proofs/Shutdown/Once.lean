import ClusterGateway.Proofs.Shutdown.Histories

/-!
# Every component is stopped once

However many shutdowns of a gateway there are, and however they overlap, no component is
stopped twice; and once one of them has returned, each component has been stopped. The
same holds of the gateways that a registry shuts down again when it cannot open the next
one. Main statement: `stops_once`.
-/

namespace ClusterGateway

namespace World

variable {world : World} {site : SiteId}

/-- The stop of no component of a gateway has begun twice; and once a shutdown of the gateway
has returned, the stop of every component has begun, and only once. -/
structure StopsOnce (world : World) (site : SiteId) : Prop where
  never_again : ∀ component, begins (world.ledger site).lines component ≤ 1
  at_last : ∀ (task : TaskId) (found : Task) (result : Except Error Reply),
    world.tasks[task]? = some found → site ∈ found.purpose.shutsDown →
      world.outcome? task = some (.returned result) →
        ∀ component, begins (world.ledger site).lines component = 1

/-- A tended gateway stops every component once. -/
theorem Tended.stopsOnce (tended : world.Tended site) : world.StopsOnce site where
  never_again := by
    intro component
    rw [tended.balanced component]
    split <;> omega
  at_last := by
    intro task found result there shuts ended component
    have gone : (world.ledger site).holds component = false :=
      tended.lacks_of_returned there shuts ended component
    simp [tended.balanced component, gone]

/-- Whoever waits for a task lets open moves happen. -/
theorem reaches_awaitEnd (world : World) (task : TaskId) : world.Reaches (world.awaitEnd task) :=
  reaches_runFor none (some task) (world.work + 1) world

end World

namespace Registry

open World

variable {start world failed : World} {sites : List SiteId} {site : SiteId}

/-- Whoever waits until gateways are shut down makes one call, and keeps them tended. -/
theorem shutDown_spec (sited : world.Sited) (distinct : sites.Nodup) :
    (∃ stage, (shutDown world sites).tasks[world.tasks.length]? =
      some ⟨none, .shutdown sites false, stage⟩) ∧
    ∀ site, world.Tended site → (shutDown world sites).Tended site := by
  let called := world.apply (.shutdown sites false)
  have free := world.isOpen_shutdown distinct false
  have reaches : called.Reaches (shutDown world sites) := reaches_awaitEnd called world.tasks.length
  have sound : called.Sound := sited.sound.apply free
  have there : called.tasks[world.tasks.length]? = some ⟨none, .shutdown sites false, .fresh⟩ :=
    getElem?_spawn_self world none (.shutdown sites false)
  obtain ⟨stage, still⟩ := sound.purpose_reaches reaches there
  refine ⟨⟨stage, still⟩, fun site tended => ?_⟩
  have kept : called.Tended site := (tended.apply free).1
  exact kept.reaches reaches

/-- The gateways of a registry are distinct, with a new one that comes after all that were there. -/
theorem nodup_sites_concat {opened : List (String × SiteId)} {after : World} {parent : TaskPath}
    {name : String} {config : GatewayConfig} {new : SiteId} (distinct : (opened.map (·.2)).Nodup)
    (inside : ∀ site ∈ opened.map (·.2), site < world.sites.length)
    (opens : world.openGateway parent name config = (after, .ok new)) :
    ((opened ++ [(name, new)]).map (·.2)).Nodup := by
  obtain ⟨-, rfl, -⟩ := starts_openGateway opens
  have fresh : world.sites.length ∉ opened.map (·.2) := fun member =>
    Nat.lt_irrefl _ (inside _ member)
  rw [List.map_append, List.map_singleton]
  refine List.nodup_append.mpr ⟨distinct, by simp, ?_⟩
  rintro site member other added rfl
  obtain rfl := List.mem_singleton.mp added
  exact fresh member

/-- When a registry cannot open a gateway, those that it has opened before are distinct and
tended. -/
theorem tended_openAll (opened : List (String × SiteId)) {before : List (String × SiteId)}
    {configs : List (String × GatewayConfig)} {cluster : String} {error : Error}
    (sited : world.Sited) (distinct : (opened.map (·.2)).Nodup)
    (tended : ∀ site ∈ opened.map (·.2), world.Tended site)
    (fails : openAll world opened configs = (failed, .error (cluster, error, before))) :
    failed.Sited ∧ (before.map (·.2)).Nodup ∧
      ∀ site ∈ before.map (·.2), failed.Tended site := by
  induction configs generalizing world opened with
  | nil => simp [openAll] at fails
  | cons config rest ih =>
    obtain ⟨name, config⟩ := config
    have attempt := Happens.attempt world (.root "proxy") name config
    have later := sited.happens attempt
    have still (site : SiteId) (member : site ∈ opened.map (·.2)) :=
      (tended site member).happens attempt
    unfold openAll at fails
    split at fails
    · rename_i after new opens
      rw [opens] at later still
      refine ih _ later ?_ ?_ fails
      · exact nodup_sites_concat distinct (fun site member => (tended site member).inside) opens
      · intro site member
        rw [List.map_append, List.mem_append] at member
        obtain old | added := member
        · exact still site old
        · obtain rfl := List.mem_singleton.mp added
          exact tended_openGateway sited opens
    · rename_i after problem opens
      rw [opens] at later still
      obtain ⟨rfl, same⟩ := Prod.mk.inj fails
      simp only [Except.error.injEq, Prod.mk.injEq] at same
      obtain ⟨-, -, rfl⟩ := same
      exact ⟨later, distinct, still⟩

/-- When a registry cannot open a gateway, it shuts down those that it has opened before, and
keeps them tended. -/
theorem tended_openFrom {before : List (String × SiteId)} {config : AppConfig} {cluster : String}
    {error : Error} (sited : start.Sited) (valid : config.faults = [])
    (fails : openAll start [] (KeyOrder.sort config.proxies.entries) =
      (failed, .error (cluster, error, before))) :
    (∀ site ∈ before.map (·.2), (openFrom start config).1.Tended site) ∧
      ∃ (task : TaskId) (found : Task), (openFrom start config).1.tasks[task]? = some found ∧
        found.purpose = .shutdown (before.map (·.2)) false := by
  obtain ⟨after, distinct, tended⟩ := tended_openAll [] sited
    List.nodup_nil (fun site member => absurd member List.not_mem_nil) fails
  let noted := failed.note none
    [⟨.error, "failed to spawn cluster proxy", [("cluster", cluster), ("error", error.message)]⟩]
  have same : (openFrom start config).1 = shutDown noted (before.map (·.2)) := by
    simp [openFrom, valid, fails, noted]
  have here : noted.Sited := after.congr rfl (Nat.le_refl _)
  obtain ⟨⟨stage, there⟩, keeps⟩ := shutDown_spec here distinct
  rw [same]
  refine ⟨fun site member => ?_, _, _, there, rfl⟩
  exact keeps site ((tended site member).congr rfl rfl)

end Registry

namespace World

/-- In every history: a gateway that was opened stops every component once, whoever shuts it down
and however often. That includes the gateways of a registry that could not be opened as a whole,
which are shut down before the failure is reported. -/
theorem stops_once {script : BrokerScript} {start : World}
    (past : Leads { script := script } start) :
    (∀ parent name config opened site last,
      start.openGateway parent name config = (opened, .ok site) → opened.Leads last →
        last.StopsOnce site) ∧
    ∀ config failed cluster error before last, config.faults = [] →
      Registry.openAll start [] (KeyOrder.sort config.proxies.entries) =
          (failed, .error (cluster, error, before)) →
        (Registry.openFrom start config).1.Leads last →
          (∃ (task : TaskId) (found : Task),
            (Registry.openFrom start config).1.tasks[task]? = some found ∧
              found.purpose = .shutdown (before.map (·.2)) false) ∧
          ∀ site ∈ before.map (·.2), last.StopsOnce site := by
  have sited := (sited_empty script).leads past
  refine ⟨?_, ?_⟩
  · intro parent name config opened site last opens leads
    exact ((tended_openGateway sited opens).leads leads).stopsOnce
  · intro config failed cluster error before last valid fails leads
    obtain ⟨tended, called⟩ := Registry.tended_openFrom sited valid fails
    exact ⟨called, fun site member => ((tended site member).leads leads).stopsOnce⟩

/-- The second of two stops returns while the first still waits for the producer, which takes a
second. -/
def bothStops : List Move :=
  overlappingStops ++ [.resume 0, .pass 1000, .resume 1, .resume 0]

/-- A cluster of which only one client can be made. -/
def oneClient : BrokerScript :=
  { creationFault := some ⟨.client, 1, .internal "no more clients"⟩ }

/-- A configuration of two clusters. -/
def twoClusters : AppConfig :=
  { proxies := (NameMap.singleton "a" {}).insert "b" {}, defaultCluster := "a" }

/-- A registry of which the second gateway cannot be opened. -/
def halfRegistry : World := (Registry.openFrom { script := oneClient } twoClusters).1

/-- Both stops of the gateway return, and each of its components was stopped once; and so was
each component of the first gateway of the registry whose second one cannot be opened. -/
theorem stops_once_overlapping : ∃ last, Leads slowGateway last ∧
    last.outcome? 0 = some (.returned (.ok .done)) ∧
    last.outcome? 4 = some (.returned (.ok .done)) ∧
    (∀ component, begins (last.ledger 0).lines component = 1) ∧
    halfRegistry.outcome? 0 = some (.returned (.ok .done)) ∧
    ∀ component, begins (halfRegistry.ledger 0).lines component = 1 := by
  have both : (slowGateway.play? bothStops).map (fun last =>
      (last.outcome? 0, last.outcome? 4, (last.tasks[0]?).map (·.purpose.shutsDown))) =
        some (some (.returned (.ok .done)), some (.returned (.ok .done)), some [0]) := rfl
  obtain ⟨last, played, same⟩ := Option.map_eq_some_iff.mp both
  simp only [Prod.mk.injEq, Option.map_eq_some_iff] at same
  obtain ⟨early, late, found, there, shuts⟩ := same
  have leads : Leads slowGateway last :=
    leads_of_play? opened_slowGateway.sound (by decide) played
  have opens : openGateway { script := slowProducer } (.root "test") "default" {} =
      (slowGateway, .ok 0) := rfl
  have past (script : BrokerScript) : Leads { script := script } { script := script } := .refl
  have once := (stops_once (past slowProducer)).1 _ _ _ slowGateway 0 last opens leads
  have valid : twoClusters.faults = [] := by decide
  obtain ⟨failed, fails⟩ : ∃ failed, Registry.openAll { script := oneClient } []
      (KeyOrder.sort twoClusters.proxies.entries) =
        (failed, .error ("b", .spawn "Kafka client" (.internal "no more clients"), [("a", 0)])) :=
    ⟨_, rfl⟩
  obtain ⟨-, stopped⟩ := (stops_once (past oneClient)).2 twoClusters failed _ _ _ halfRegistry
    valid fails .refl
  have half : (halfRegistry.outcome? 0, (halfRegistry.tasks[0]?).map (·.purpose.shutsDown)) =
      (some (.returned (.ok .done)), some [0]) := rfl
  obtain ⟨returned, called⟩ := Prod.mk.inj half
  obtain ⟨task, running, named⟩ := Option.map_eq_some_iff.mp called
  refine ⟨last, leads, early, late, ?_, returned, ?_⟩
  · exact once.at_last 0 found _ there (by simp [shuts]) early
  · exact (stopped 0 (by simp)).at_last 0 task _ running (by simp [named]) returned

end World

end ClusterGateway
