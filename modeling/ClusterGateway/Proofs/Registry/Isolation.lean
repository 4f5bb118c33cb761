import ClusterGateway.Proofs.Delivery.Provenance
import ClusterGateway.Proofs.Registry.Lookup
import ClusterGateway.Proofs.Serving.Sessions
import ClusterGateway.Proofs.World.Gateways

/-!
# Clusters are isolated

All gateways of a registry share the tasks, the clock and the script, and much of what a
call causes happens in tasks that outlive it. Each of those tasks acts for the call that
started it and is for no gateway but those that the call was made through (`Rooted`). So
what changes a gateway is a call made through it, and an acknowledgement reaches only a
session that a consume request at the same gateway has obtained. Main statement:
`isolates_clusters`.
-/

namespace ClusterGateway

namespace Purpose

/-- The gateways that a call is made through. -/
def calledAt : Purpose → List SiteId
  | request site _ => [site]
  | shutdown sites _ => sites
  | _ => []

/-- The call that a detached task acts for. -/
def caller? : Purpose → Option TaskId
  | deliverAck _ _ _ _ parent => some parent
  | deliverAnswer target _ _ => some target
  | stopComponent _ _ parent => some parent
  | request _ _ => none
  | shutdown _ _ => none

/-- A task that is started as part of a call acts for that call, at its gateways. -/
theorem Bears.calledAt {me : TaskId} {purpose child : Purpose} (bears : purpose.Bears me child) :
    child.caller? = some me ∧ ∀ site ∈ child.places, site ∈ purpose.calledAt := by
  unfold Bears at bears
  split at bears
  · obtain rfl := bears
    exact ⟨rfl, by simp [places]⟩
  · obtain rfl := bears
    exact ⟨rfl, by simp [places]⟩
  · obtain ⟨rfl, -, rfl⟩ := bears
    exact ⟨rfl, by simp [places, Purpose.calledAt]⟩
  · obtain ⟨there, -, rfl⟩ := bears
    exact ⟨rfl, by simpa [places, Purpose.calledAt] using there⟩
  · exact bears.elim

/-- A task that an acknowledgement is handed to acts for the request that hands it on. -/
theorem HandsOn.calledAt {me : TaskId} {purpose child : Purpose}
    (hands : purpose.HandsOn me child) :
    child.caller? = some me ∧ ∀ site ∈ child.places, site ∈ purpose.calledAt := by
  unfold HandsOn at hands
  split at hands
  · obtain ⟨rfl, -, -, rfl⟩ := hands
    exact ⟨rfl, by simp [places, Purpose.calledAt]⟩
  · exact hands.elim

end Purpose

namespace World

variable {start world last : World} {moves : List Move} {move : Move} {task : TaskId}
  {found : Task} {site : SiteId} {number : SessionId} {event : Acknowledged}

/-- A task is, or acts for, a call that was made through a gateway. -/
def ActsThrough (world : World) (task : TaskId) (site : SiteId) : Prop :=
  ∃ found calling, world.tasks[task]? = some found ∧
    world.tasks[found.purpose.caller?.getD task]? = some calling ∧
      site ∈ calling.purpose.calledAt

/-- A task of a purpose acts for a call, or is one, and is for no gateway but those of the call. -/
def HasCall (world : World) (task : TaskId) (purpose : Purpose) : Prop :=
  ∃ calling, world.tasks[purpose.caller?.getD task]? = some calling ∧
    ∀ site ∈ purpose.places, site ∈ calling.purpose.calledAt

/-- Every task has its call. -/
def Rooted (world : World) : Prop :=
  ∀ (task : TaskId) (found : Task), world.tasks[task]? = some found →
    world.HasCall task found.purpose

/-- A task that is for a gateway acts for a call that was made through it. -/
theorem Rooted.actsThrough (rooted : world.Rooted) (there : world.tasks[task]? = some found)
    (mine : site ∈ found.purpose.places) : world.ActsThrough task site := by
  obtain ⟨calling, here, within⟩ := rooted task found there
  exact ⟨found, calling, there, here, within site mine⟩

/-- A task keeps its call in every move. -/
theorem HasCall.apply {purpose : Purpose} (has : world.HasCall task purpose) (sound : world.Sound)
    (move : Move) : (world.apply move).HasCall task purpose := by
  obtain ⟨calling, here, within⟩ := has
  obtain ⟨stage, later, -⟩ := kept_apply sound move here
  exact ⟨_, later, within⟩

/-- A task that another has started acts for that one. -/
theorem hasCall_of_caller? {parent : Task} {purpose : Purpose} {me : TaskId}
    (mine : world.tasks[me]? = some parent)
    (child : purpose.caller? = some me ∧ ∀ site ∈ purpose.places, site ∈ parent.purpose.calledAt)
    (task : TaskId) : world.HasCall task purpose := by
  obtain ⟨acts, within⟩ := child
  exact ⟨parent, by rw [acts]; exact mine, within⟩

/-- Open moves start tasks only for calls that are there. -/
theorem Rooted.apply (rooted : world.Rooted) (sound : world.Sound)
    (free : world.isOpen move = true) : (world.apply move).Rooted := by
  intro task later there
  obtain born | ⟨earlier, before, same⟩ := born_or_kept sound free there
  · -- a new task is a call, or was started by the task that runs
    have call (self : later.purpose.caller? = none)
        (within : ∀ site ∈ later.purpose.places, site ∈ later.purpose.calledAt) :
        (world.apply move).HasCall task later.purpose :=
      ⟨later, by rw [self]; exact there, within⟩
    generalize asks : later.purpose = purpose at born call
    cases born with
    | request site request => exact call rfl fun _ here => here
    | shutdown distinct logged => exact call rfl fun _ here => here
    | borne mine bears =>
      exact (hasCall_of_caller? mine bears.calledAt task).apply sound _
    | handed mine hands =>
      exact (hasCall_of_caller? mine hands.calledAt task).apply sound _
  · rw [← same]
    exact (rooted task earlier before).apply sound move

/-- In every world that can be reached from an opened one, every task has its call. -/
theorem Opened.rooted (opened : start.Opened) (reaches : start.Reaches world) : world.Rooted := by
  refine opened.sound.keeps (P := Rooted) (fun _ _ sound free rooted => rooted.apply sound free) ?_
    reaches
  intro task found there
  simp [opened.untouched.1] at there

/-- A move that changes a gateway is the step of a task that acts for a call made through it. -/
theorem Rooted.gateway?_apply (rooted : world.Rooted) (sound : world.Sound)
    (foreign : ∀ task, move = .resume task → ¬ world.ActsThrough task site) :
    (world.apply move).gateway? site = world.gateway? site := by
  cases move with
  | resume task =>
    cases there : world.tasks[task]? with
    | none =>
      rw [World.apply, resume_absent there]
      rfl
    | some found =>
      exact gateway?_resume sound there fun mine =>
        foreign task rfl (rooted.actsThrough there mine)
  | _ => exact World.gateway?_apply world (fun _ => by simp) site

/-- What a run brings is brought by a longer one, too. -/
theorem mem_chronicle_append {α : Type} {brings : World → Move → List α} {entry : α}
    {early : List Move} (there : entry ∈ start.chronicle brings early) (late : List Move) :
    entry ∈ start.chronicle brings (early ++ late) := by
  induction early generalizing start with
  | nil => exact absurd there List.not_mem_nil
  | cons move moves ih =>
    rw [chronicle, List.mem_append] at there
    rw [List.cons_append, chronicle, List.mem_append]
    exact there.imp_right ih

/-- A session that a gateway has recorded in a run is that of a message obtained there. -/
theorem Routes.obtained {key : RoutingKey} (opened : start.Opened)
    (makes : start.Makes moves move world) (routes : world.Routes site key number) :
    ∃ entry ∈ start.obtained moves site, entry.message.session = number := by
  obtain ⟨early, late, rfl, first⟩ := makes
  obtain ⟨place, here, recorded⟩ := routes
  have inside : site < start.sites.length := by
    rw [← opened.sound.length_sites ⟨early, first⟩]
    exact (List.getElem?_eq_some_iff.mp here).1
  obtain ⟨found, there, table⟩ := routes?_run opened first inside
  obtain rfl := Option.some.inj (there.symm.trans here)
  rw [table, RoutingTable.get?_ofObtained] at recorded
  obtain ⟨entry, latest, session⟩ := Option.map_eq_some_iff.mp recorded
  obtain ⟨brought, -⟩ := List.mem_filter.mp (List.mem_of_getLast? latest)
  obtain ⟨brought, mine⟩ := List.mem_filter.mp brought
  exact ⟨entry, List.mem_filter.mpr ⟨mem_chronicle_append brought _, mine⟩, session⟩

/-- What is contributed at a gateway is sent by a task that is for it, to the session of a message
that was obtained there. -/
theorem Contributes.confined {entry : Contribution} (opened : start.Opened)
    (played : start.play? moves = some last) (contributes : Contributes start moves entry) :
    (∃ found, last.tasks[entry.sender]? = some found ∧ entry.site ∈ found.purpose.places) ∧
      ∃ fetched ∈ start.obtained moves entry.site, fetched.message.session = entry.session := by
  cases contributes with
  | standalone enters routes leaves =>
    obtain ⟨found, there, asks⟩ := enters.exists_task opened played
    refine ⟨⟨found, there, ?_⟩, routes.obtained opened enters.makes⟩
    simp [asks, Purpose.places]
  | handedOn enters routes begins here leaves admits inTime =>
    obtain ⟨found, there, acts⟩ := begins.exists_task opened played
    refine ⟨⟨found, there, ?_⟩, routes.obtained opened enters.makes⟩
    simp [acts, Purpose.places]
  | @fetched call found site group topic message world there asks leaves admits =>
    obtain ⟨early, free, late⟩ := leaves.makes.free played
    obtain ⟨stage, later⟩ := (opened.sound.reaches early).purpose_reaches
      ((Reaches.move free).trans late) there
    refine ⟨⟨_, later, by simp [asks, Purpose.places]⟩, ⟨call, site, group, topic, message⟩, ?_,
      rfl⟩
    have told := leaves.outcome? opened played
    obtain ⟨ended, here, stays⟩ := outcome?_eq_some_iff.mp told
    have has : last.message? call = some message := by
      rw [message?, here, Option.bind_some, stays]
      rfl
    obtain rfl := Option.some.inj (later.symm.trans here)
    exact List.mem_filter.mpr ⟨mem_chronicle_of_message? opened played later asks has,
      decide_eq_true rfl⟩

end World

namespace Registry

open World

variable {script : BrokerScript} {config : AppConfig} {registry : Registry} {start last : World}
  {moves : List Move}

/-- The gateways of a registry are numbered in the order of their clusters. -/
theorem clusters_of_openFrom
    (opens : openFrom { script := script } config = (start, .ok registry)) :
    registry.clusters = numbered 0 config.clusters := by
  by_cases valid : config.isValid = true
  · obtain ⟨component, cause, fails⟩ | ⟨after, entries, -, goes⟩ := openFrom_of_valid script valid
    · simp [opens] at fails
    · obtain ⟨-, same⟩ := Prod.mk.inj (opens.symm.trans goes)
      rw [Except.ok.inj same]
  · simp [openFrom_of_invalid _ (by simpa using valid)] at opens

/-- Different clusters have different gateways. -/
theorem eq_of_get?_eq (opens : openFrom { script := script } config = (start, .ok registry))
    {one other : Option String} {site : SiteId} (first : registry.get? one = .ok site)
    (second : registry.get? other = .ok site) :
    one.getD registry.defaultCluster = other.getD registry.defaultCluster := by
  have named {cluster : Option String} (found : registry.get? cluster = .ok site) :
      (cluster.getD registry.defaultCluster, site) ∈ registry.clusters := by
    unfold get? at found
    dsimp only at found
    split at found
    · rename_i place there
      obtain rfl := Except.ok.inj found
      obtain ⟨before, after, split, -⟩ := List.lookup_eq_some_iff.mp there
      simp [split]
    · simp at found
  have distinct : (registry.clusters.map (·.2)).Nodup := by
    rw [clusters_of_openFrom opens, sites_numbered]
    exact List.nodup_range'
  exact congrArg Prod.fst (List.inj_on_of_nodup_map distinct (named first) (named second) rfl)

/-- In every run of the gateways of a registry, clusters are isolated. Different clusters have
different gateways. Whatever changes a gateway — the components it holds, the sessions it has
recorded, the states of its components or the journal of their changes — is the step of a task
that is, or acts for, a call made through that gateway. And whatever a session of a cluster has
accepted was sent by a task that acts for a call made through its gateway, and the session is that
of a message which a consume request at the same gateway has obtained. -/
theorem isolates_clusters (opens : openFrom { script := script } config = (start, .ok registry))
    (played : start.play? moves = some last) :
    (∀ one other site, registry.get? one = .ok site → registry.get? other = .ok site →
      one.getD registry.defaultCluster = other.getD registry.defaultCluster) ∧
    (∀ move before site, start.Makes moves move before →
      (∀ task, move = .resume task → ¬ before.ActsThrough task site) →
        (before.apply move).gateway? site = before.gateway? site) ∧
    ∀ site number event, event ∈ last.accepted site number → ∃ sender,
      event.sender = some sender ∧ last.ActsThrough sender site ∧
        ∃ fetched ∈ start.obtained moves site, fetched.message.session = number := by
  have opened : start.Opened := opened_openFrom (.empty script) opens
  refine ⟨fun one other site => eq_of_get?_eq opens, ?_, ?_⟩
  · intro move before site makes foreign
    obtain ⟨reaches, -, -⟩ := makes.free played
    exact (opened.rooted reaches).gateway?_apply (opened.sound.reaches reaches) foreign
  · intro site number event accepted
    obtain ⟨entry, contributes, rfl, rfl, rfl⟩ := exists_contributes opened played accepted
    obtain ⟨⟨found, there, mine⟩, fetched⟩ := contributes.confined opened played
    exact ⟨entry.sender, rfl, (opened.rooted ⟨moves, played⟩).actsThrough there mine, fetched⟩

/-- The same message is fetched through two gateways, and both requests are followed by one that
acknowledges it; then the gateway of the second cluster is stopped. -/
def twoAlike : List Move :=
  [.enqueue 0 "g" "t" [⟨.message none 0 0 2 none [97], 0⟩],
    .enqueue 1 "g" "t" [⟨.message none 0 0 2 none [97], 0⟩],
    .request 0 (.consume "g" "t" .none), .resume 0, .request 1 (.consume "g" "t" .none), .resume 1,
    .request 0 (.acknowledge "g" "t" (.explicit 0 0)), .resume 2,
    .request 1 .stop, .resume 3, .resume 5]

/-- Only the session behind the first gateway has accepted the offset, although both sessions have
the same number and the same partition. The stop of the second consumer leaves the first gateway as
it is. -/
theorem isolates_clusters_twoAlike : ∃ start registry before last,
    openFrom { script := {} } threeClusters = (start, .ok registry) ∧
    registry.get? (some "east") = .ok 0 ∧ registry.get? (some "north") = .ok 1 ∧
    start.play? twoAlike = some last ∧ start.Makes twoAlike (.resume 5) before ∧
    (before.resume 5).gateway? 0 = before.gateway? 0 ∧
    last.accepted 0 0 = [⟨some 2, 0⟩] ∧ last.accepted 1 0 = [] ∧ last.ActsThrough 2 0 := by
  obtain ⟨registry, opens, east, north⟩ : ∃ registry, openFrom { script := {} } threeClusters =
      ((openFrom { script := {} } threeClusters).1, .ok registry) ∧
        registry.get? (some "east") = .ok 0 ∧ registry.get? (some "north") = .ok 1 :=
    ⟨_, rfl, rfl, rfl⟩
  have runs : ((openFrom { script := {} } threeClusters).1.play? twoAlike).map (fun last =>
      (last.accepted 0 0, last.accepted 1 0)) = some ([⟨some 2, 0⟩], []) := by decide +kernel
  have early : ((openFrom { script := {} } threeClusters).1.play? (twoAlike.take 10)).map
      (fun before => ((before.tasks[5]?).map (·.purpose.caller?),
        (before.tasks[3]?).map (·.purpose.calledAt))) = some (some (some 3), some [1]) := by
    decide +kernel
  generalize (openFrom { script := {} } threeClusters).1 = start at opens runs early
  obtain ⟨last, played, accepted⟩ := Option.map_eq_some_iff.mp runs
  obtain ⟨before, first, tasks⟩ := Option.map_eq_some_iff.mp early
  obtain ⟨one, other⟩ := Prod.mk.inj accepted
  obtain ⟨stops, called⟩ := Prod.mk.inj tasks
  obtain ⟨-, frame, sources⟩ := isolates_clusters opens played
  have makes : start.Makes twoAlike (.resume 5) before := ⟨twoAlike.take 10, [], rfl, first⟩
  have member : ⟨some 2, 0⟩ ∈ last.accepted 0 0 := by
    rw [one]
    exact List.mem_singleton.mpr rfl
  obtain ⟨sender, signed, acts, -⟩ := sources 0 0 ⟨some 2, 0⟩ member
  obtain rfl := Option.some.inj signed
  refine ⟨start, registry, before, last, opens, east, north, played, makes, ?_, one, other, acts⟩
  refine frame (.resume 5) before 0 makes fun task same => ?_
  obtain rfl := Move.resume.inj same
  -- the task stops a component on behalf of a request to the second gateway
  rintro ⟨found, calling, there, here, mine⟩
  rw [there, Option.map_some, Option.some.injEq] at stops
  rw [stops, Option.getD_some] at here
  rw [here, Option.map_some, Option.some.injEq] at called
  rw [called] at mine
  simp at mine

end Registry

end ClusterGateway
