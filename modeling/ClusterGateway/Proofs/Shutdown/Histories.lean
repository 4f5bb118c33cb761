import ClusterGateway.Proofs.Shutdown.Holdings

/-!
# Gateways that are opened at any time

An attempt to open a gateway starts no task and leaves all other gateways alone. So a gateway
is tended from the moment at which it is open, whatever has happened before and whatever
happens later. Main statements: `tended_openGateway`, `Tended.leads`.
-/

namespace ClusterGateway

/-- The gateways that a move shuts down. -/
def Move.shutsDown : Move → List SiteId
  | .request site .stop => [site]
  | .shutdown sites _ => sites
  | _ => []

namespace World

variable {before middle after start world last : World} {site : SiteId} {component : Component}

/-- One thing that happens where gateways can be opened at any time: somebody attempts to open
one, something is written to the log, or an open move is made, which shuts down only gateways
that are there. -/
inductive Happens : World → World → Prop
  | attempt (world : World) (parent : TaskPath) (name : String) (config : GatewayConfig) :
    Happens world (world.openGateway parent name config).1
  | note (world : World) (actor : Option String) (entries : List LogEntry) :
    Happens world (world.note actor entries)
  | move {world : World} {move : Move} (free : world.isOpen move = true)
    (named : ∀ site ∈ move.shutsDown, site < world.sites.length) :
    Happens world (world.apply move)

/-- Things happen one after the other. -/
def Leads : World → World → Prop := Relation.ReflTransGen Happens

/-- A run whose shutdowns name gateways that are there is a history. -/
theorem leads_of_play? (sound : start.Sound) {moves : List Move}
    (named : ∀ move ∈ moves, ∀ site ∈ move.shutsDown, site < start.sites.length)
    (played : start.play? moves = some last) : start.Leads last := by
  induction moves generalizing start with
  | nil =>
    obtain rfl := Option.some.inj played
    exact .refl
  | cons move rest ih =>
    unfold play? at played
    split at played
    · rename_i free
      have first : Happens start (start.apply move) :=
        .move free (named move List.mem_cons_self)
      refine .head first (ih (sound.apply free) (fun later member => ?_) played)
      rw [(apply_fields sound move).2]
      exact named later (List.mem_cons_of_mem _ member)
    · simp at played

/-- What an attempt to start components of a gateway does: no task starts, and the other gateways
are left alone. -/
structure Attempts (site : SiteId) (before after : World) : Prop where
  tasks : after.tasks = before.tasks
  length : after.sites.length = before.sites.length
  others : ∀ other, other ≠ site → after.sites[other]? = before.sites[other]?

/-- Nothing but the log and the attempts to create components changes. -/
theorem Attempts.of_eq (tasks : after.tasks = before.tasks) (sites : after.sites = before.sites) :
    Attempts site before after :=
  ⟨tasks, by rw [sites], fun _ _ => by rw [sites]⟩

/-- One attempt after the other. -/
theorem Attempts.trans (first : Attempts site before middle) (second : Attempts site middle after) :
    Attempts site before after where
  tasks := second.tasks.trans first.tasks
  length := second.length.trans first.length
  others := fun other differ => (second.others other differ).trans (first.others other differ)

/-- A gateway changes. -/
theorem attempts_onGateway (world : World) (site : SiteId) (change : Gateway → Gateway) :
    Attempts site world (world.onGateway site change) where
  tasks := rfl
  length := by simp [onGateway, onSite]
  others := by
    intro other differ
    rw [onGateway, getElem?_onSite]
    exact if_neg (Ne.symm differ)

/-- The state of a component is set. -/
theorem attempts_setState (world : World) (site : SiteId) (actor : Option String)
    (component : Component) (state : ComponentState) :
    Attempts site world (world.setState site actor component state) := by
  obtain ⟨-, same⟩ | ⟨entries, same⟩ := setState_cases world site actor component state
  · rw [same]
    exact .of_eq rfl rfl
  · rw [same]
    have set := attempts_onGateway world site (·.setState component state)
    exact set.trans (.of_eq rfl rfl)

/-- A component is created, or it is not. -/
theorem attempts_create (world : World) (site : SiteId) (component : Component) :
    Attempts site world (world.create site component).1 := by
  unfold create
  split
  · exact .of_eq rfl rfl
  · dsimp only
    split
    · exact .of_eq rfl rfl
    · have attempted (creations : List Creation) : Attempts site world
          ({ world with creations := creations }.onGateway site (·.keep component)) := by
        have tried : Attempts site world { world with creations := creations } := .of_eq rfl rfl
        exact tried.trans (attempts_onGateway { world with creations := creations } site _)
      exact attempted _

/-- A component is marked as failed. -/
theorem attempts_markFailed (world : World) (site : SiteId) (component : Component)
    (error : Error) : Attempts site world (world.markFailed site component error) := by
  unfold markFailed
  split
  · exact .of_eq rfl rfl
  · rename_i found _
    have recorded := attempts_onGateway world site fun gateway =>
      { gateway with
        lifecycle := found.gateway.lifecycle.markFailed component.name error.message }
    exact recorded.trans (.of_eq rfl rfl)

/-- A component is started, or its start fails. -/
theorem attempts_startComponent (world : World) (site : SiteId) (component : Component) :
    Attempts site world (world.startComponent site component).1 := by
  obtain ⟨announced, begins⟩ : ∃ announced, announced =
      if component = .offsets then world else world.setState site none component .starting :=
    ⟨_, rfl⟩
  have announces : Attempts site world announced := by
    rw [begins]
    split
    · exact .of_eq rfl rfl
    · exact attempts_setState world site none component .starting
  have creates := announces.trans (attempts_create announced site component)
  unfold startComponent
  dsimp only
  rw [← begins]
  generalize announced.create site component = result at creates ⊢
  obtain ⟨created, error⟩ := result
  cases error with
  | none => exact creates.trans (attempts_setState created site none component .running)
  | some error =>
    have failed := creates.trans (attempts_markFailed created site component error)
    dsimp only
    split
    · exact failed
    · split
      · exact failed
      · exact failed.trans (.of_eq rfl rfl)

/-- Components are started in order, up to the first that fails. -/
theorem attempts_startComponents (world : World) (site : SiteId) (components : List Component) :
    Attempts site world (world.startComponents site components).1 := by
  induction components generalizing world with
  | nil => exact .of_eq rfl rfl
  | cons component rest ih =>
    have first := attempts_startComponent world site component
    unfold startComponents
    generalize world.startComponent site component = result at first ⊢
    obtain ⟨started, error⟩ := result
    cases error with
    | none => exact first.trans (ih started)
    | some error => exact first

/-- No task has started, and the gateways that were there are what they were. -/
structure LeavesAlone (before after : World) : Prop where
  tasks : after.tasks = before.tasks
  length : before.sites.length ≤ after.sites.length
  others : ∀ site < before.sites.length, after.sites[site]? = before.sites[site]?

/-- An attempt to open a gateway leaves all others alone. -/
theorem leavesAlone_openGateway (world : World) (parent : TaskPath) (name : String)
    (config : GatewayConfig) : LeavesAlone world (world.openGateway parent name config).1 := by
  unfold openGateway
  split
  · have attempts := attempts_startComponents { world with
      sites := world.sites ++ [⟨Gateway.new (parent.child name) config, {}⟩] } world.sites.length
      Component.all
    dsimp only
    generalize startComponents _ _ _ = result at attempts ⊢
    obtain ⟨started, error⟩ := result
    have alone : LeavesAlone world started := by
      refine ⟨attempts.tasks, ?_, fun site inside => ?_⟩
      · rw [attempts.length]
        simp
      · rw [attempts.others site (Nat.ne_of_lt inside)]
        exact List.getElem?_append_left inside
    cases error with
    | none => exact ⟨alone.tasks, alone.length, alone.others⟩
    | some error => exact alone
  · exact ⟨rfl, Nat.le_refl _, fun _ _ => rfl⟩

/-- A component that is created, or is not, leaves the script alone. -/
theorem script_create (world : World) (site : SiteId) (component : Component) :
    (world.create site component).1.script = world.script := by
  unfold create
  split
  · rfl
  · dsimp only
    split <;> rfl

/-- A component that is marked as failed leaves the script alone. -/
theorem script_markFailed (world : World) (site : SiteId) (component : Component) (error : Error) :
    (world.markFailed site component error).script = world.script := by
  unfold markFailed
  split <;> rfl

/-- The start of a component leaves the script alone. -/
theorem script_startComponent (world : World) (site : SiteId) (component : Component) :
    (world.startComponent site component).1.script = world.script := by
  obtain ⟨announced, begins⟩ : ∃ announced, announced =
      if component = .offsets then world else world.setState site none component .starting :=
    ⟨_, rfl⟩
  have announces : announced.script = world.script := by
    rw [begins]
    split
    · rfl
    · exact (setState_fields world site none component .starting).2.1
  have creates := (script_create announced site component).trans announces
  unfold startComponent
  dsimp only
  rw [← begins]
  generalize announced.create site component = result at creates ⊢
  obtain ⟨created, error⟩ := result
  cases error with
  | none => exact (setState_fields created site none component .running).2.1.trans creates
  | some error =>
    have failed := (script_markFailed created site component error).trans creates
    dsimp only
    split
    · exact failed
    · split
      · exact failed
      · exact failed

/-- The start of several components leaves the script alone. -/
theorem script_startComponents (world : World) (site : SiteId) (components : List Component) :
    (world.startComponents site components).1.script = world.script := by
  induction components generalizing world with
  | nil => rfl
  | cons component rest ih =>
    have first := script_startComponent world site component
    unfold startComponents
    split
    · rename_i started error attempt
      rw [attempt] at first
      exact first
    · rename_i started attempt
      rw [attempt] at first
      exact (ih started).trans first

/-- An attempt to open a gateway leaves the script alone. -/
theorem script_openGateway (world : World) (parent : TaskPath) (name : String)
    (config : GatewayConfig) : (world.openGateway parent name config).1.script = world.script := by
  have started := script_startComponents { world with
    sites := world.sites ++ [⟨Gateway.new (parent.child name) config, {}⟩] } world.sites.length
    Component.all
  unfold openGateway
  split
  · dsimp only
    split
    · rename_i after error attempt
      rw [attempt] at started
      exact started
    · rename_i after attempt
      rw [attempt] at started
      exact started
  · rfl

/-- Every task is sound, and shuts down only gateways that are there. -/
structure Sited (world : World) : Prop where
  sound : world.Sound
  inside : ∀ (task : TaskId) (found : Task), world.tasks[task]? = some found →
    ∀ site ∈ found.purpose.tearsDown, site < world.sites.length

/-- More gateways, and the same tasks. -/
theorem Sited.congr (sited : before.Sited) (tasks : after.tasks = before.tasks)
    (length : before.sites.length ≤ after.sites.length) : after.Sited where
  sound := by
    unfold Sound
    rw [tasks]
    exact sited.sound
  inside := by
    intro task found there site tears
    rw [tasks] at there
    exact Nat.lt_of_lt_of_le (sited.inside task found there site tears) length

/-- A new task shuts down only what a call names, or what the task that started it shuts down. -/
theorem Born.tearsDown {move : Move} {purpose : Purpose} (born : world.Born move purpose)
    (tears : site ∈ purpose.tearsDown) : site ∈ move.shutsDown ∨
      ∃ (task : TaskId) (found : Task), world.tasks[task]? = some found ∧
        site ∈ found.purpose.tearsDown := by
  cases born with
  | request place request =>
    left
    cases request with
    | stop => exact tears
    | _ => exact absurd tears List.not_mem_nil
  | shutdown distinct logged => exact .inl tears
  | @borne me parent child mine bears =>
    refine .inr ⟨me, parent, mine, ?_⟩
    by_contra foreign
    exact outside_of_bears foreign (.inl bears) tears
  | @handed me parent child mine hands =>
    refine .inr ⟨me, parent, mine, ?_⟩
    by_contra foreign
    exact outside_of_bears foreign (.inr hands) tears

/-- Whatever happens, tasks shut down only gateways that are there. -/
theorem Sited.happens (sited : before.Sited) (happens : Happens before after) :
    after.Sited := by
  cases happens with
  | attempt parent name config =>
    have alone := leavesAlone_openGateway before parent name config
    exact sited.congr alone.tasks alone.length
  | note actor entries => exact sited.congr rfl (Nat.le_refl _)
  | @move move free named =>
    obtain ⟨sound, inside⟩ := sited
    refine ⟨sound.apply free, fun task later there site tears => ?_⟩
    rw [(apply_fields sound move).2]
    obtain born | ⟨found, early, same⟩ := born_or_kept sound free there
    · obtain called | ⟨me, parent, mine, also⟩ := born.tearsDown tears
      · exact named site called
      · exact inside me parent mine site also
    · exact inside task found early site (same ▸ tears)

/-- In every history tasks shut down only gateways that are there. -/
theorem Sited.leads (sited : start.Sited) (leads : start.Leads last) : last.Sited := by
  induction leads with
  | refl => exact sited
  | tail _ happens ih => exact ih.happens happens

/-- What happens leaves the script alone. -/
theorem Happens.script_eq (happens : Happens before after) (sound : before.Sound) :
    after.script = before.script := by
  cases happens with
  | attempt parent name config => exact script_openGateway before parent name config
  | note actor entries => rfl
  | @move move free named => exact (apply_fields sound move).1

/-- The script of a history stays the same. -/
theorem Sited.script_leads (sited : start.Sited) (leads : start.Leads last) :
    last.script = start.script := by
  induction leads with
  | refl => rfl
  | tail earlier happens ih => exact (happens.script_eq (sited.leads earlier).sound).trans ih

/-- A world without tasks. -/
theorem sited_empty (script : BrokerScript) : ({ script := script } : World).Sited where
  sound := fun task found there => by simp at there
  inside := fun task found there => by simp at there

/-- No task shuts down a gateway that was just opened: the tasks are those that were there
before. -/
theorem not_mem_tearsDown_openGateway (sited : world.Sited) {parent : TaskPath} {name : String}
    {config : GatewayConfig} (opens : world.openGateway parent name config = (after, .ok site))
    {task : TaskId} {running : Task} (mine : after.tasks[task]? = some running) :
    site ∉ running.purpose.tearsDown := by
  obtain ⟨-, rfl, starts⟩ := starts_openGateway opens
  have old : world.tasks[task]? = some running := starts.tasks ▸ mine
  intro tears
  exact Nat.lt_irrefl _ (sited.inside task running old world.sites.length tears)

/-- A gateway is tended from the moment at which it is open. -/
theorem tended_openGateway (sited : world.Sited) {parent : TaskPath} {name : String}
    {config : GatewayConfig} (opens : world.openGateway parent name config = (after, .ok site)) :
    after.Tended site := by
  have foreign (task : TaskId) (running : Task) (mine : after.tasks[task]? = some running) :=
    not_mem_tearsDown_openGateway sited opens mine
  obtain ⟨found, there, untouched⟩ := untouched_openGateway opens
  obtain ⟨-, rfl, starts⟩ := starts_openGateway opens
  have length : after.sites.length = world.sites.length + 1 := by simpa using starts.length
  have inside : world.sites.length < after.sites.length := by omega
  have later : after.Sited := sited.congr starts.tasks (Nat.le_of_lt inside)
  refine tended_of_whole later.sound inside foreign ?_ ?_
  · intro component
    simp [ledger, there, untouched.holds component]
  · simp [ledger, there, untouched.broker]

/-- A gateway is tended where the tasks and the gateway are the same. -/
theorem Tended.congr (tended : before.Tended site) (tasks : after.tasks = before.tasks)
    (here : after.sites[site]? = before.sites[site]?) : after.Tended site := by
  obtain ⟨place, there⟩ := tended.exists_site
  have same : after.ledger site = before.ledger site :=
    ledger_congr (fun component => by rw [here]) (by rw [here]) tasks
  refine ⟨?_, ?_, same ▸ tended.consistent, same ▸ tended.balanced, same ▸ tended.order⟩
  · unfold Sound
    rw [tasks]
    exact tended.sound
  · exact (List.getElem?_eq_some_iff.mp (here.trans there)).1

/-- A gateway stays tended, whatever happens. -/
theorem Tended.happens (tended : before.Tended site) (happens : Happens before after) :
    after.Tended site := by
  cases happens with
  | attempt parent name config =>
    have alone := leavesAlone_openGateway before parent name config
    exact tended.congr alone.tasks (alone.others site tended.inside)
  | note actor entries => exact tended.congr rfl rfl
  | move free _ => exact (tended.apply free).1

/-- A gateway is tended for the rest of its history. -/
theorem Tended.leads (tended : start.Tended site) (leads : start.Leads last) :
    last.Tended site := by
  induction leads with
  | refl => exact tended
  | tail _ happens ih => exact ih.happens happens

end World

end ClusterGateway
