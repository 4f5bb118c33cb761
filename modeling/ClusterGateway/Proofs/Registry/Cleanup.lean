import ClusterGateway.Proofs.Registry.Construction
import ClusterGateway.Proofs.Shutdown.Once
import ClusterGateway.Proofs.Shutdown.Settling
import ClusterGateway.Proofs.World.Sites

/-!
# A registry opens as a whole or is cleaned up

A registry whose construction fails reports the failure only after the gateways that it had
opened are shut down: each of their components was stopped once, in order, and every stop
is over, but for those that broke down. The gateway at which the construction failed is
left as it is, and no gateway after it is touched. Main statement: `opens_or_cleans_up`.
-/

namespace ClusterGateway

namespace World

variable {world : World} {site : SiteId} {task : TaskId} {move : Move} {found : Task}

/-- No second shutdown begins while one goes on and nothing else does. -/
theorem Closing.startsAlone (closing : world.Closing task) (site : SiteId) (move : Move) :
    world.StartsAlone site move := by
  have mine {other : TaskId} {progress : Progress}
      (there : (world.ledger site).shutdowns other = some progress) : other = task := by
    by_contra differ
    obtain ⟨found, here, stands⟩ := Option.bind_eq_some_iff.mp there
    obtain ⟨place, component, purpose⟩ := closing.others other found here differ
    simp [Task.progress?, purpose, Purpose.shutsDown] at stands
  intro me _ opening other progress differ there
  exact absurd ((mine there).trans (mine opening).symm) differ

/-- What is known of a gateway while the only shutdown goes on, and no stop breaks down. -/
structure Falling (site : SiteId) (world : World) : Prop where
  orderly : world.Orderly site
  single : (world.ledger site).Single
  order : InOrder (world.ledger site).lines

/-- An untouched gateway in a world without tasks. -/
theorem falling_of_untouched (sturdy : world.script.stopFaults = []) (idle : world.tasks = [])
    {place : Site} (there : world.sites[site]? = some place) (untouched : Site.Untouched place) :
    world.Falling site := by
  obtain ⟨-, lines, -, -⟩ := ledger_of_untouched idle there untouched
  refine ⟨orderly_of_untouched sturdy idle there untouched,
    single_of_untouched idle there untouched, ?_⟩
  rw [lines]
  exact inOrder_nil

/-- The order is kept as long as no second shutdown begins. -/
theorem Falling.apply (falling : world.Falling site) (free : world.isOpen move = true)
    (alone : world.StartsAlone site move) : (world.apply move).Falling site := by
  obtain ⟨orderly, change⟩ := falling.orderly.apply free
  have single := falling.orderly.single_apply falling.single free alone
  refine ⟨orderly, single, ?_⟩
  obtain kept | overtakes :=
    Ledger.inOrder_change falling.orderly.consistent change falling.order
  · exact kept
  · exact absurd overtakes single.not_overtakes

/-- A gateway was shut down: every component was stopped once, in order; and if the script lets no
stop break down, every stop is over, and was so before the next one began. -/
structure ShutDown (world : World) (script : BrokerScript) (site : SiteId) : Prop where
  once : ∀ component, begins (world.ledger site).lines component = 1
  begun : BegunInOrder (world.ledger site).lines
  complete : script.stopFaults = [] → ∀ component, Over (world.ledger site).lines component
  order : script.stopFaults = [] → InOrder (world.ledger site).lines

/-- When the only shutdown of a gateway has returned, the gateway was shut down. -/
theorem Tended.shutDown {script : BrokerScript} (tended : world.Tended site)
    (falls : script.stopFaults = [] → world.Falling site)
    (there : world.tasks[task]? = some found) (shuts : site ∈ found.purpose.shutsDown)
    {result : Except Error Reply} (ended : world.outcome? task = some (.returned result)) :
    world.ShutDown script site where
  once := tended.stopsOnce.at_last task found result there shuts ended
  begun := tended.order
  complete := fun sturdy => Ledger.over_of_not_overtakes tended.consistent
    (falls sturdy).single.not_overtakes (finished_of_returned there shuts ended)
  order := fun sturdy => (falls sturdy).order

/-- No component of a gateway has been stopped, and no task will stop one. -/
structure Spared (site : SiteId) (world : World) : Prop where
  sound : world.Sound
  foreign : ∀ (task : TaskId) (found : Task), world.tasks[task]? = some found →
    site ∉ found.purpose.tearsDown
  unstopped : (world.ledger site).lines = []

/-- A gateway is spared while nobody makes a call. -/
theorem Spared.apply (spared : world.Spared site) (free : world.isOpen move = true)
    (runs : Unattended move) : (world.apply move).Spared site where
  sound := spared.sound.apply free
  foreign := by
    intro task found there tears
    obtain born | ⟨earlier, before, same⟩ := born_or_kept spared.sound free there
    · obtain called | ⟨me, parent, mine, also⟩ := born.tearsDown tears
      · cases runs <;> exact absurd called List.not_mem_nil
      · exact spared.foreign me parent mine also
    · exact spared.foreign task earlier before (same ▸ tears)
  unstopped := by
    cases runs with
    | resume me =>
      cases mine : world.tasks[me]? with
      | none =>
        rw [World.apply, resume_absent mine]
        exact spared.unstopped
      | some running =>
        have strokes := strokes_resume mine (spared.sound me running mine).1
        have same := ledger_of_foreign strokes mine (spared.foreign me running mine)
        rw [World.apply, same]
        exact spared.unstopped
    | pass moment =>
      obtain ⟨ready, same⟩ := exists_passTo world moment
      rw [World.apply, same]
      exact spared.unstopped

/-- No stroke creates a component. -/
theorem Stroke.creations_eq {me : TaskId} {purpose : Purpose} {sends hands : Prop}
    {before after : World} (stroke : Stroke me purpose sends hands before after) :
    after.creations = before.creations := by
  cases stroke with
  | wake other =>
    obtain ⟨ready, same⟩ := exists_wake before other
    rw [same]
  | tell target answer =>
    obtain same | ⟨found, -, -, same⟩ := tellAnswer_cases before target answer
    · rw [same]
    · obtain ⟨ready, woken⟩ := exists_wake (before.setStage target (.told answer)) target
      rw [same, woken]
      rfl
  | setState site actor component state =>
    obtain ⟨-, same⟩ | ⟨entries, same⟩ := setState_cases before site actor component state
    · rw [same]
    · rw [same]
      rfl
  | touch site session change =>
    obtain ⟨ready, same⟩ := exists_onSession before site session change
    rw [same]
    rfl
  | _ => rfl

/-- Gateways that are open are no more and no fewer, and nothing is created, while nobody makes a
call. -/
theorem creations_apply (sound : world.Sound) (runs : Unattended move) :
    (world.apply move).creations = world.creations := by
  cases runs with
  | resume me =>
    cases mine : world.tasks[me]? with
    | none => rw [World.apply, resume_absent mine]
    | some running =>
      have same : (world.resume me).creations =
          ({ world with ready := world.ready.erase me } : World).creations :=
        (strokes_resume mine (sound me running mine).1).keeps
          (P := fun before after => after.creations = before.creations) (fun _ => rfl)
          (fun first second => second.trans first) fun stroke => stroke.creations_eq
      exact same
  | pass moment =>
    obtain ⟨ready, same⟩ := exists_passTo world moment
    rw [World.apply, same]

end World

namespace Registry

open World

variable {world : World} {sites : List SiteId} {site : SiteId}

/-- Whoever shuts gateways down makes a call and lets the world run. -/
theorem reaches_shutDown (world : World) (distinct : sites.Nodup) :
    world.Reaches (shutDown world sites) := by
  have free := world.isOpen_shutdown distinct false
  exact (Reaches.move free).trans (reaches_awaitEnd _ world.tasks.length)

/-- Shutting gateways down creates no component and no gateway. -/
theorem shutDown_creates_nothing (idle : world.tasks = []) (distinct : sites.Nodup) :
    (shutDown world sites).creations = world.creations ∧
      (shutDown world sites).sites.length = world.sites.length := by
  have free := world.isOpen_shutdown distinct false
  have sound := sound_of_idle idle
  have kept : (shutDown world sites).Sound ∧ (shutDown world sites).creations = world.creations ∧
      (shutDown world sites).sites.length = world.sites.length := by
    refine runFor_keeps (P := fun later => later.Sound ∧ later.creations = world.creations ∧
      later.sites.length = world.sites.length) ?_ none _ _
      (⟨sound.apply free, rfl, rfl⟩ : (world.apply (.shutdown sites false)).Sound ∧ _)
    rintro later move ⟨sound, creations, length⟩ free runs
    exact ⟨sound.apply free, (creations_apply sound runs).trans creations,
      (apply_fields sound move).2.trans length⟩
  exact kept.2

/-- Gateways that are shut down in a world without tasks are shut down when the wait is over. -/
theorem shutDown_shuts (idle : world.tasks = []) (firm : world.script.Firm)
    (distinct : sites.Nodup) {place : Site} (there : world.sites[site]? = some place)
    (untouched : Site.Untouched place) (named : site ∈ sites) :
    (shutDown world sites).ShutDown world.script site := by
  have free := world.isOpen_shutdown distinct false
  have first : world.tasks.length = 0 := by rw [idle]; rfl
  have same : shutDown world sites = (world.apply (.shutdown sites false)).awaitEnd 0 := by
    rw [← first]
    rfl
  -- there is no other task than the shutdown and those that it starts: nothing overtakes it, and
  -- it comes to its end
  have closing := closing_call idle firm free
  have tended : (world.apply (.shutdown sites false)).Tended site :=
    ((tended_of_untouched idle there untouched).apply free).1
  have falls (sturdy : world.script.stopFaults = []) :
      (world.apply (.shutdown sites false)).Falling site := by
    refine (falling_of_untouched sturdy idle there untouched).apply free fun me resumes => ?_
    simp at resumes
  obtain ⟨-, last, falling⟩ : ((world.apply (.shutdown sites false)).awaitEnd 0).Closing 0 ∧
      ((world.apply (.shutdown sites false)).awaitEnd 0).Tended site ∧
        (world.script.stopFaults = [] →
          ((world.apply (.shutdown sites false)).awaitEnd 0).Falling site) := by
    refine runFor_keeps (P := fun later => later.Closing 0 ∧ later.Tended site ∧
      (world.script.stopFaults = [] → later.Falling site)) ?_ none (some 0) _
      ⟨closing, tended, falls⟩
    rintro later move ⟨closing, tended, falls⟩ free runs
    exact ⟨closing.apply free runs, (tended.apply free).1, fun sturdy =>
      (falls sturdy).apply free (closing.startsAlone site move)⟩
  obtain ⟨-, returned⟩ := closing.awaitEnd
  have here : (world.apply (.shutdown sites false)).tasks[0]? =
      some ⟨none, .shutdown sites false, .fresh⟩ := by
    rw [← first]
    exact getElem?_spawn_self world none (.shutdown sites false)
  obtain ⟨stage, still⟩ := closing.sound.purpose_reaches (reaches_awaitEnd _ 0) here
  rw [same]
  exact last.shutDown falling still named returned

/-- A gateway that is not shut down with others is spared when the wait is over. -/
theorem shutDown_spares (idle : world.tasks = []) (distinct : sites.Nodup)
    (unstopped : (world.ledger site).lines = []) (absent : site ∉ sites) :
    (shutDown world sites).Spared site := by
  have free := world.isOpen_shutdown distinct false
  have sound := sound_of_idle idle
  have called : (world.apply (.shutdown sites false)).Spared site := by
    refine ⟨sound.apply free, fun task found there => ?_, unstopped⟩
    obtain ⟨-, rfl⟩ := getElem?_spawn_of_none world (by simp [idle]) there
    exact absent
  exact runFor_keeps (P := Spared site) (fun world move spared free runs => spared.apply free runs)
    none _ _ called

/-- The gateway of a cluster was shut down. -/
def ClusterShutDown (world : World) (script : BrokerScript) (site : SiteId) (cluster : String) :
    Prop :=
  world.ShutDown script site ∧ ∃ place, world.sites[site]? = some place ∧
    place.gateway.task.text = "proxy/" ++ cluster

/-- The gateway of a cluster is left as it is. -/
def ClusterSpared (world : World) (site : SiteId) (cluster : String) : Prop :=
  world.Spared site ∧ ∃ place, world.sites[site]? = some place ∧
    place.gateway.task.text = "proxy/" ++ cluster ∧ place.broker.stops = []

/-- A registry that cannot open a gateway shuts down those that it has opened. -/
theorem openFrom_error {config : AppConfig} (valid : config.isValid = true) {failed : World}
    {cluster : String} {error : Error} {opened : List (String × SiteId)}
    (fails : openAll world [] config.clusters = (failed, .error (cluster, error, opened))) :
    openFrom world config = (shutDown (failed.note none
      [⟨.error, "failed to spawn cluster proxy",
        [("cluster", cluster), ("error", error.message)]⟩]) (opened.map (·.2)), .error error) := by
  unfold AppConfig.isValid at valid
  unfold AppConfig.clusters at fails
  simp only [openFrom, valid, fails, if_true]

/-- A registry that can open all gateways has opened them, and nothing more. -/
theorem openFrom_ok {config : AppConfig} (valid : config.isValid = true) {after : World}
    {clusters : List (String × SiteId)}
    (goes : openAll world [] config.clusters = (after, .ok clusters)) :
    openFrom world config = (after.note none
      [⟨.info, "all cluster proxies started", [("clusters", toString clusters.length),
        ("default_cluster", config.defaultCluster)]⟩], .ok ⟨clusters, config.defaultCluster⟩) := by
  unfold AppConfig.isValid at valid
  unfold AppConfig.clusters at goes
  simp only [openFrom, valid, goes, if_true]

/-- What a registry does that opens all gateways: it creates every component of every cluster, in
order, and stops nothing. -/
structure OpensAll (config : AppConfig) (opened : World × Except Error Registry) : Prop where
  goes : ∃ registry, opened.2 = .ok registry
  creations : opened.1.creations = config.clusters.flatMap plan
  gateways : opened.1.sites.length = config.clusters.length
  unstopped : opened.1.tasks = [] ∧ ∀ place ∈ opened.1.sites, place.broker.stops = []

/-- What a registry does that fails at a component of a cluster: it reports the error under the
name of that component, which for the client is another one than in states and logs, having
created what comes before it and nothing after it, and having shut down the clusters before
that one, unless the stop of an offset manager or a client breaks down. -/
structure FailsAt (before : List (String × GatewayConfig)) (cluster : String)
    (config : GatewayConfig) (early : List Component) (fault : CreationFault)
    (script : BrokerScript) (opened : World × Except Error Registry) : Prop where
  reported : opened.2 = .error (.spawn
    (match fault.component with
      | .client => "Kafka client"
      | .offsets => "offset_mgr"
      | .producer => "producer"
      | .consumer => "consumer"
      | .admin => "admin") fault.error)
  creations : opened.1.creations = before.flatMap plan ++
    (early.map (creationOf (pathOf cluster) config false) ++
      [creationOf (pathOf cluster) config true fault.component])
  gateways : opened.1.sites.length = before.length + 1
  left : ClusterSpared opened.1 before.length cluster
  cleaned : script.Firm → ∀ site name own, before[site]? = some (name, own) →
    ClusterShutDown opened.1 script site name

/-- If the script has no fault for any cluster, a registry opens them all. -/
theorem openFrom_opens {script : BrokerScript} {config : AppConfig}
    (valid : config.isValid = true) (safe : ∀ fault, script.creationFault = some fault →
      config.clusters.length ≤ fault.after) :
    ∃ after entries, Opens config.clusters { script := script } after ∧
      openFrom { script := script } config = (after.note none entries,
        .ok ⟨numbered 0 config.clusters, config.defaultCluster⟩) := by
  have even (component : Component) : ({ script := script } : World).attemptsOf component = 0 := rfl
  obtain ⟨goes, opens⟩ := openAll_ok [] (config.valid_clusters valid) even fun fault scripted =>
    .inr (by have late := safe fault scripted; omega)
  generalize all : openAll { script := script } [] config.clusters = result at goes opens
  obtain ⟨after, outcome⟩ := result
  obtain rfl : outcome = .ok (numbered 0 config.clusters) := goes
  exact ⟨after, _, opens, openFrom_ok valid all⟩

/-- The gateways that were opened first have the numbers of their clusters. -/
theorem Opens.exists_site {script : BrokerScript} {entries : List (String × GatewayConfig)}
    {after : World} (opens : Opens entries { script := script } after) {site : SiteId}
    {name : String} {own : GatewayConfig} (there : entries[site]? = some (name, own)) :
    ∃ place, after.sites[site]? = some place ∧ place.gateway.task = pathOf name ∧
      place.gateway.config = own ∧ Site.Untouched place := by
  obtain ⟨place, here, kept⟩ := opens.new site name own there
  have number : ({ script := script } : World).sites.length + site = site := Nat.zero_add site
  rw [number] at here
  exact ⟨place, here, kept⟩

/-- A registry that can open all gateways opens all of them. -/
theorem opensAll_openFrom {script : BrokerScript} {config : AppConfig}
    (valid : config.isValid = true) (safe : ∀ fault, script.creationFault = some fault →
      config.clusters.length ≤ fault.after) :
    OpensAll config (openFrom { script := script } config) := by
  obtain ⟨after, entries, opens, same⟩ := openFrom_opens valid safe
  have length : after.sites.length = config.clusters.length := opens.length.trans (Nat.zero_add _)
  rw [same]
  refine ⟨⟨_, rfl⟩, opens.creations, length, opens.tasks, ?_⟩
  intro place member
  obtain ⟨site, there⟩ := List.mem_iff_getElem?.mp member
  have inside : site < config.clusters.length :=
    length ▸ (List.getElem?_eq_some_iff.mp there).1
  obtain ⟨found, here, -, -, untouched⟩ := opens.exists_site (List.getElem?_eq_getElem inside)
  obtain rfl : found = place := Option.some.inj (here.symm.trans there)
  rw [untouched.broker]

/-- A gateway of a registry is there after some have been shut down. -/
theorem exists_site_shutDown (idle : world.tasks = []) (distinct : sites.Nodup) {place : Site}
    (there : world.sites[site]? = some place) : ∃ later,
      (shutDown world sites).sites[site]? = some later ∧
        later.gateway.task = place.gateway.task := by
  have sound := sound_of_idle idle
  obtain ⟨later, here, task, -⟩ := sound.site_reaches (reaches_shutDown world distinct) there
  exact ⟨later, here, task⟩

/-- Where some gateways are untouched and one more was not opened, shutting the former down leaves
the latter as it is. -/
theorem failsAt_shutDown {script : BrokerScript} {before : List (String × GatewayConfig)}
    {cluster : String} {own : GatewayConfig} {early : List Component} {fault : CreationFault}
    (idle : world.tasks = []) (scripted : world.script = script)
    (creations : world.creations = before.flatMap plan ++
      (early.map (creationOf (pathOf cluster) own false) ++
        [creationOf (pathOf cluster) own true fault.component]))
    (length : world.sites.length = before.length + 1)
    (old : ∀ (site : SiteId) name own, before[site]? = some (name, own) →
      ∃ place, world.sites[site]? = some place ∧ place.gateway.task = pathOf name ∧
        Site.Untouched place)
    (new : ∃ place, world.sites[before.length]? = some place ∧
      place.gateway.task = pathOf cluster ∧ place.broker = {}) :
    FailsAt before cluster own early fault script
      (shutDown world (List.range' 0 before.length),
        .error (.spawn (reportedName fault.component) fault.error)) := by
  have distinct : (List.range' 0 before.length).Nodup := List.nodup_range'
  obtain ⟨kept, still⟩ := shutDown_creates_nothing idle distinct
  refine ⟨?_, kept.trans creations, still.trans length, ?_, fun firm site name own there => ?_⟩
  · cases fault with
    | mk component later error => cases component <;> rfl
  · -- the gateway that was not opened is the last one, and not among those that are shut down
    obtain ⟨place, there, task, broker⟩ := new
    have absent : before.length ∉ List.range' 0 before.length := by simp
    have unstopped : (world.ledger before.length).lines = [] := by simp [ledger, there, broker]
    have spared := shutDown_spares idle distinct unstopped absent
    obtain ⟨later, here, path⟩ := exists_site_shutDown idle distinct there
    refine ⟨spared, later, here, by rw [path, task]; rfl, ?_⟩
    simpa [ledger, here] using spared.unstopped
  · obtain ⟨place, here, task, untouched⟩ := old site name own there
    have inside : site < before.length := (List.getElem?_eq_some_iff.mp there).1
    obtain ⟨later, after, path⟩ := exists_site_shutDown idle distinct here
    refine ⟨?_, later, after, by rw [path, task]; rfl⟩
    subst scripted
    exact shutDown_shuts idle firm distinct here untouched (by simpa using inside)

/-- A registry that fails at a component of a cluster reports that, and cleans up. -/
theorem failsAt_openFrom {script : BrokerScript} {config : AppConfig}
    (valid : config.isValid = true) {fault : CreationFault}
    (scripted : script.creationFault = some fault) {before later : List (String × GatewayConfig)}
    {cluster : String} {own : GatewayConfig}
    (clusters : config.clusters = before ++ (cluster, own) :: later)
    (hit : before.length = fault.after) {early late : List Component}
    (split : Component.all = early ++ fault.component :: late) :
    FailsAt before cluster own early fault script (openFrom { script := script } config) := by
  have even (component : Component) : ({ script := script } : World).attemptsOf component = 0 := rfl
  obtain ⟨fails, between, opens, raises⟩ := openAll_error [] (clusters ▸ config.valid_clusters valid)
    even scripted ((Nat.zero_add _).trans hit) split
  rw [← clusters] at fails raises
  generalize all : openAll { script := script } [] config.clusters = result at fails raises
  obtain ⟨failed, outcome⟩ := result
  obtain rfl : outcome = .error (cluster, .spawn (reportedName fault.component) fault.error,
    [] ++ numbered 0 before) := fails
  have places : between.sites.length = before.length := opens.length.trans (Nat.zero_add _)
  rw [openFrom_error valid all, List.nil_append, sites_numbered]
  refine failsAt_shutDown (raises.tasks.trans opens.tasks) (raises.script.trans opens.script) ?_ ?_
    (fun site name own there => ?_) ?_
  · show failed.creations = _
    rw [raises.creations, opens.creations]
    rfl
  · show failed.sites.length = _
    rw [raises.length, places]
  · have inside : site < before.length := (List.getElem?_eq_some_iff.mp there).1
    obtain ⟨place, here, task, -, untouched⟩ := opens.exists_site there
    refine ⟨place, ?_, task, untouched⟩
    show failed.sites[site]? = _
    rw [raises.old site (places.symm ▸ inside), here]
  · obtain ⟨place, here, task, -, broker⟩ := raises.new
    rw [places] at here
    exact ⟨place, here, task, broker⟩

/-- If the script has a fault for some cluster, a registry fails there. -/
theorem exists_failsAt {script : BrokerScript} {config : AppConfig} (valid : config.isValid = true)
    {fault : CreationFault} (scripted : script.creationFault = some fault)
    (inside : fault.after < config.clusters.length) :
    ∃ before cluster own later early late,
      config.clusters = before ++ (cluster, own) :: later ∧ before.length = fault.after ∧
      Component.all = early ++ fault.component :: late ∧
      FailsAt before cluster own early fault script (openFrom { script := script } config) := by
  obtain ⟨early, late, split⟩ := List.append_of_mem (Ledger.mem_all fault.component)
  have clusters : config.clusters = config.clusters.take fault.after ++
      config.clusters[fault.after] :: config.clusters.drop (fault.after + 1) := by
    rw [← List.drop_eq_getElem_cons inside, List.take_append_drop]
  have hit : (config.clusters.take fault.after).length = fault.after := by
    rw [List.length_take]
    omega
  exact ⟨_, _, _, _, early, late, clusters, hit, split,
    failsAt_openFrom valid scripted clusters hit split⟩

/-- A registry opens as a whole or is cleaned up, for every valid configuration and every failure
of a creation: the clusters are opened in ascending order of their names; if no creation
fails all of them are open and nothing was stopped; if one fails, that failure is what is
reported, and the clusters before it have been shut down. -/
theorem opens_or_cleans_up (script : BrokerScript) {config : AppConfig}
    (valid : config.isValid = true) :
    (config.clusters.map (·.1)).Pairwise (· < ·) ∧
    config.clusters.Perm config.proxies.entries ∧
    ((∀ fault, script.creationFault = some fault → config.clusters.length ≤ fault.after) →
      OpensAll config (openFrom { script := script } config)) ∧
    ∀ fault, script.creationFault = some fault → fault.after < config.clusters.length →
      ∃ before cluster own later early late,
        config.clusters = before ++ (cluster, own) :: later ∧ before.length = fault.after ∧
        [Component.client, .offsets, .producer, .consumer, .admin] =
          early ++ fault.component :: late ∧
        FailsAt before cluster own early fault script (openFrom { script := script } config) :=
  ⟨config.ascending_names, config.clusters_perm, opensAll_openFrom valid,
    fun _ scripted inside => exists_failsAt valid scripted inside⟩

/-- A cluster of which a component can be made only twice, and whose producers take a second to
stop. -/
def madeTwice (component : Component) : BrokerScript where
  stopDelays := [(.producer, 1000)]
  creationFault := some ⟨component, 2, .internal "no more of them"⟩

/-- A configuration of three clusters, not in the order of their names. -/
def threeClusters : AppConfig where
  proxies := ((NameMap.singleton "west" {}).insert "east" {}).insert "north" {}
  defaultCluster := "west"

/-- The first two gateways of the registry are shut down when it reports that it got no third
producer, or no third client; the third gateway is left as it is. -/
theorem opens_or_cleans_up_madeTwice :
    ((openFrom { script := madeTwice .producer } threeClusters).2 =
        .error (.spawn "producer" (.internal "no more of them")) ∧
      ClusterShutDown (openFrom { script := madeTwice .producer } threeClusters).1
        (madeTwice .producer) 0 "east" ∧
      ClusterShutDown (openFrom { script := madeTwice .producer } threeClusters).1
        (madeTwice .producer) 1 "north" ∧
      ClusterSpared (openFrom { script := madeTwice .producer } threeClusters).1 2 "west") ∧
    (openFrom { script := madeTwice .client } threeClusters).2 =
        .error (.spawn "Kafka client" (.internal "no more of them")) ∧
      ClusterShutDown (openFrom { script := madeTwice .client } threeClusters).1
        (madeTwice .client) 0 "east" ∧
      ClusterShutDown (openFrom { script := madeTwice .client } threeClusters).1
        (madeTwice .client) 1 "north" ∧
      ClusterSpared (openFrom { script := madeTwice .client } threeClusters).1 2 "west" := by
  have valid : threeClusters.isValid = true := by decide
  have clusters : threeClusters.clusters = [("east", {}), ("north", {}), ("west", {})] := by decide
  have third (component : Component) : ∃ early,
      FailsAt [("east", {}), ("north", {})] "west" {} early
        ⟨component, 2, .internal "no more of them"⟩ (madeTwice component)
        (openFrom { script := madeTwice component } threeClusters) := by
    obtain ⟨-, -, -, fails⟩ := opens_or_cleans_up (madeTwice component) valid
    obtain ⟨before, cluster, own, later, early, late, split, length, -, failed⟩ :=
      fails ⟨component, 2, .internal "no more of them"⟩ rfl (by rw [clusters]; exact Nat.lt_succ_self 2)
    rw [clusters] at split
    match before, length with
    | [first, second], _ =>
      simp only [List.cons_append, List.nil_append, List.cons.injEq, Prod.mk.injEq] at split
      obtain ⟨rfl, rfl, ⟨rfl, rfl⟩, -⟩ := split
      exact ⟨early, failed⟩
  have firm (component : Component) : (madeTwice component).Firm := .of_sturdy rfl
  obtain ⟨_, producer⟩ := third .producer
  obtain ⟨_, client⟩ := third .client
  exact ⟨⟨producer.reported, producer.cleaned (firm .producer) 0 "east" {} rfl,
      producer.cleaned (firm .producer) 1 "north" {} rfl, producer.left⟩,
    client.reported, client.cleaned (firm .client) 0 "east" {} rfl,
    client.cleaned (firm .client) 1 "north" {} rfl, client.left⟩

end Registry

end ClusterGateway
