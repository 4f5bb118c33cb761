import ClusterGateway.World.Moves

/-!
# What the primitives leave alone

Each primitive change of a world concerns one or two of its fields. The lemmas here say
so for the primitives that decide something before they act; for all others it holds by
definition.
-/

namespace ClusterGateway

/-- Both stages wait for an answer of the cluster, of the same kind. -/
def Stage.AwaitsAlike : Stage → Stage → Prop
  | .awaitingReceipt _, .awaitingReceipt _ => True
  | .awaitingMessage _, .awaitingMessage _ => True
  | _, _ => False

/-- Where a task waits that has been told its answer. -/
def Stage.told : DelayedAnswer → Stage
  | .receipt answer => .awaitingReceipt (some answer)
  | .message answer => .awaitingMessage (some answer)

namespace World

variable (world : World) (task : TaskId)

/-- Waking a task changes the line of ready tasks only. -/
theorem exists_wake : ∃ ready, world.wake task = { world with ready := ready } := by
  unfold wake
  split
  · exact ⟨world.ready, rfl⟩
  · exact ⟨_, rfl⟩

/-- Waking several tasks changes the line of ready tasks only. -/
theorem exists_wakeAll (tasks : List TaskId) :
    ∃ ready, world.wakeAll tasks = { world with ready := ready } := by
  induction tasks generalizing world with
  | nil => exact ⟨world.ready, rfl⟩
  | cons first rest ih =>
    obtain ⟨early, woken⟩ := exists_wake world first
    obtain ⟨ready, later⟩ := ih (world.wake first)
    refine ⟨ready, ?_⟩
    show (world.wake first).wakeAll rest = _
    rw [later, woken]

/-- A woken task is ready. -/
theorem mem_ready_wake_self : task ∈ (world.wake task).ready := by
  unfold wake
  split
  · rename_i there
    simpa using there
  · simp

/-- Waking a task keeps every ready task ready. -/
theorem mem_ready_wake {other : TaskId} (ready : other ∈ world.ready) :
    other ∈ (world.wake task).ready := by
  unfold wake
  split
  · exact ready
  · exact List.mem_append_left _ ready

/-- Waking several tasks keeps every ready task ready. -/
theorem mem_ready_wakeAll {tasks : List TaskId} {other : TaskId} (ready : other ∈ world.ready) :
    other ∈ (world.wakeAll tasks).ready := by
  induction tasks generalizing world with
  | nil => exact ready
  | cons first rest ih => exact ih (world.wake first) (mem_ready_wake world first ready)

/-- All woken tasks are ready. -/
theorem mem_ready_wakeAll_self {tasks : List TaskId} {other : TaskId} (woken : other ∈ tasks) :
    other ∈ (world.wakeAll tasks).ready := by
  induction tasks generalizing world with
  | nil => simp at woken
  | cons first rest ih =>
    rcases List.mem_cons.mp woken with rfl | later
    · exact mem_ready_wakeAll (world.wake other) (mem_ready_wake_self world other)
    · exact ih (world.wake first) later

/-- Time that passes moves the clock, fires timers and wakes tasks. -/
theorem exists_passTo (moment : Nat) : ∃ ready, world.passTo moment =
    { world with
      now := max world.now moment
      timers := world.timers.filter fun timer => moment < timer.due
      ready := ready } := by
  obtain ⟨ready, same⟩ := exists_wakeAll
    { world with
      now := max world.now moment
      timers := world.timers.filter fun timer => moment < timer.due }
    ((world.timers.filter fun timer => timer.due ≤ moment).map fun timer => timer.task)
  exact ⟨ready, same⟩

/-- A task after the stage of one was set. -/
theorem getElem?_setStage (stage : Stage) (other : TaskId) :
    (world.setStage task stage).tasks[other]? =
      if task = other then (world.tasks[other]?).map fun found => { found with stage := stage }
      else world.tasks[other]? := by
  simp only [setStage, List.getElem?_modify]
  split <;> simp

/-- Setting the stage that a task is in changes nothing. -/
theorem setStage_eq_self {found : Task} (there : world.tasks[task]? = some found) :
    world.setStage task found.stage = world := by
  have same : world.tasks.modify task (fun other => { other with stage := found.stage }) =
      world.tasks := by
    apply List.ext_getElem?
    intro place
    rw [List.getElem?_modify]
    by_cases here : task = place
    · subst here
      simp [there]
    · simp [here]
  unfold setStage
  rw [same]

/-- A task after one has ended. -/
theorem getElem?_finish (outcome : Outcome) (other : TaskId) :
    (world.finish task outcome).tasks[other]? =
      if task = other then
        (world.tasks[other]?).map fun found => { found with stage := .ended outcome }
      else world.tasks[other]? :=
  getElem?_setStage world task (.ended outcome) other

/-- A task that was there is still there after another was started. -/
theorem getElem?_spawn_of_some {actor : Option String} {purpose : Purpose} {other : TaskId}
    {found : Task} (there : world.tasks[other]? = some found) :
    (world.spawn actor purpose).1.tasks[other]? = some found := by
  have inside : other < world.tasks.length := (List.getElem?_eq_some_iff.mp there).1
  simp only [spawn, List.getElem?_append_left inside, there]

/-- The only task that was not there before another was started is that one. -/
theorem getElem?_spawn_of_none {actor : Option String} {purpose : Purpose} {other : TaskId}
    {found : Task} (absent : world.tasks[other]? = none)
    (there : (world.spawn actor purpose).1.tasks[other]? = some found) :
    other = world.tasks.length ∧ found = ⟨actor, purpose, .fresh⟩ := by
  have outside : world.tasks.length ≤ other := List.getElem?_eq_none_iff.mp absent
  simp only [spawn, List.getElem?_append_right outside, List.getElem?_singleton] at there
  split at there
  · rename_i first
    have here : other = world.tasks.length :=
      Nat.le_antisymm (Nat.sub_eq_zero_iff_le.mp first) outside
    exact ⟨here, (Option.some.inj there).symm⟩
  · simp at there

/-- A task that has just been started. -/
theorem getElem?_spawn_self (actor : Option String) (purpose : Purpose) :
    (world.spawn actor purpose).1.tasks[world.tasks.length]? = some ⟨actor, purpose, .fresh⟩ := by
  simp [spawn]

/-- Telling an answer changes nothing, or the stage of a task that waits for one. -/
theorem tellAnswer_cases (answer : DelayedAnswer) :
    world.tellAnswer task answer = world ∨
      ∃ found, world.tasks[task]? = some found ∧ found.stage.AwaitsAlike (.told answer) ∧
        world.tellAnswer task answer = (world.setStage task (.told answer)).wake task := by
  unfold tellAnswer
  split
  · exact .inl rfl
  · rename_i found there
    split
    · rename_i waits
      exact .inr ⟨found, there, by rw [waits]; trivial, rfl⟩
    · rename_i waits
      exact .inr ⟨found, there, by rw [waits]; trivial, rfl⟩
    · exact .inl rfl

variable (site : SiteId)

/-- Setting the state of a component changes the lifecycle of the gateway and the log. -/
theorem setState_cases (actor : Option String) (component : Component) (state : ComponentState) :
    (world.sites[site]? = none ∧ world.setState site actor component state = world) ∨
      ∃ entries, world.setState site actor component state =
        (world.onGateway site (·.setState component state)).note actor entries := by
  unfold setState
  split
  · rename_i absent
    exact .inl ⟨absent, rfl⟩
  · exact .inr ⟨_, rfl⟩

/-- Changing a session changes the sessions of its cluster and wakes tasks. -/
theorem onSession_cases (session : SessionId) (change : Session → Session × List TaskId) :
    (world.session? site session = none ∧ world.onSession site session change = world) ∨
      ∃ found, world.session? site session = some found ∧
        world.onSession site session change =
          (world.onBroker site (·.onSession session fun _ => (change found).1)).wakeAll
            (change found).2 := by
  unfold onSession
  split
  · rename_i absent
    exact .inl ⟨absent, rfl⟩
  · rename_i found there
    exact .inr ⟨found, there, rfl⟩

/-- Changing the session that is found there is changing whatever session is there. -/
theorem onSession_const {broker : Broker} {session : SessionId} {found : Session}
    (there : broker.sessions[session]? = some found) (change : Session → Session) :
    broker.onSession session (fun _ => change found) = broker.onSession session change := by
  unfold Broker.onSession
  congr 1
  apply List.ext_getElem?
  intro place
  rw [List.getElem?_modify, List.getElem?_modify]
  by_cases here : session = place
  · subst here
    simp [there]
  · simp [here]

/-- A cluster whose session of a number is missing is not changed there. -/
theorem onSession_absent {broker : Broker} {session : SessionId}
    (absent : broker.sessions[session]? = none) (change : Session → Session) :
    broker.onSession session change = broker := by
  have outside : broker.sessions.length ≤ session := List.getElem?_eq_none_iff.mp absent
  unfold Broker.onSession
  rw [List.modify_eq_self outside]

/-- Changes of a cluster that do the same to it are the same. -/
theorem onBroker_congr {first second : Broker → Broker}
    (alike : ∀ found, world.sites[site]? = some found →
      first found.broker = second found.broker) :
    world.onBroker site first = world.onBroker site second := by
  unfold onBroker onSite
  congr 1
  apply List.ext_getElem?
  intro place
  rw [List.getElem?_modify, List.getElem?_modify]
  by_cases here : site = place
  · subst here
    cases there : world.sites[site]? with
    | none => rfl
    | some found => simp [alike found there]
  · simp [here]

/-- A change that keeps the cluster keeps the world. -/
theorem onBroker_eq_self {change : Broker → Broker}
    (keeps : ∀ found, world.sites[site]? = some found → change found.broker = found.broker) :
    world.onBroker site change = world := by
  have same : world.onBroker site change = world.onBroker site id :=
    onBroker_congr world site keeps
  rw [same]
  show { world with sites := world.sites.modify site id } = world
  rw [List.modify_id]

/-- Changing a session leaves all but the sessions of its cluster and the line alone. -/
theorem exists_onSession (session : SessionId) (change : Session → Session × List TaskId) :
    ∃ ready, world.onSession site session change =
      { world.onBroker site (·.onSession session fun found => (change found).1) with
        ready := ready } := by
  obtain ⟨absent, same⟩ | ⟨found, there, same⟩ := onSession_cases world site session change
  · refine ⟨world.ready, ?_⟩
    rw [same, onBroker_eq_self]
    intro found here
    refine onSession_absent ?_ _
    simpa [session?, here] using absent
  · obtain ⟨ready, woken⟩ := exists_wakeAll
      (world.onBroker site (·.onSession session fun _ => (change found).1)) (change found).2
    refine ⟨ready, ?_⟩
    rw [same, woken, onBroker_congr]
    intro place here
    refine onSession_const ?_ (fun found => (change found).1)
    simpa [session?, here] using there

/-- Changing a session leaves the clock alone. -/
theorem now_onSession (session : SessionId) (change : Session → Session × List TaskId) :
    (world.onSession site session change).now = world.now := by
  obtain ⟨ready, same⟩ := exists_onSession world site session change
  rw [same]
  rfl

/-- A site after one was changed. -/
theorem getElem?_onSite (change : Site → Site) (other : SiteId) :
    (world.onSite site change).sites[other]? =
      if site = other then (world.sites[other]?).map change else world.sites[other]? := by
  simp only [onSite, List.getElem?_modify]
  split <;> simp

/-- The sessions after one cluster was changed. -/
theorem session?_onBroker (change : Broker → Broker) (place : SiteId) (session : SessionId) :
    (world.onBroker site change).session? place session =
      if site = place then
        (world.sites[place]?).bind fun found => (change found.broker).sessions[session]?
      else world.session? place session := by
  unfold session? onBroker
  rw [getElem?_onSite]
  split
  · rw [Option.bind_map]
    rfl
  · rfl

/-- A cluster that is changed without its sessions keeps them. -/
theorem session?_onBroker_of_same {change : Broker → Broker}
    (same : ∀ broker, (change broker).sessions = broker.sessions) (place : SiteId)
    (session : SessionId) :
    (world.onBroker site change).session? place session = world.session? place session := by
  rw [session?_onBroker]
  split
  · simp only [same]
    rfl
  · rfl

/-- A session after it was changed. -/
theorem session?_onSession_self {session : SessionId} {found : Session}
    (there : world.session? site session = some found)
    (change : Session → Session × List TaskId) :
    (world.onSession site session change).session? site session = some (change found).1 := by
  obtain ⟨ready, same⟩ := exists_onSession world site session change
  rw [same]
  show (world.onBroker site (·.onSession session fun found => (change found).1)).session? site
    session = _
  rw [session?_onBroker, if_pos rfl]
  obtain ⟨place, here, inside⟩ := Option.bind_eq_some_iff.mp there
  rw [here, Option.bind_some]
  simp [Broker.onSession, inside]

/-- Other sessions after one was changed. -/
theorem session?_onSession_of_ne {session : SessionId}
    (change : Session → Session × List TaskId) {place : SiteId} {other : SessionId}
    (differ : ¬ (site = place ∧ session = other)) :
    (world.onSession site session change).session? place other = world.session? place other := by
  obtain ⟨ready, same⟩ := exists_onSession world site session change
  rw [same]
  show (world.onBroker site (·.onSession session fun found => (change found).1)).session? place
    other = _
  rw [session?_onBroker]
  split
  · rename_i here
    have apart : session ≠ other := fun equal => differ ⟨here, equal⟩
    simp [Broker.onSession, apart, session?]
  · rfl

/-- Cancelling a task changes nothing, or the task ends and leaves the line; then it may give
up sending, or the shutdown that it stops a component for is woken. -/
theorem cancel_forms : world.cancel task = world ∨
    ∃ ended, ended = ({ world with ready := world.ready.erase task } : World).finish task
      .cancelled ∧ (world.cancel task = ended ∨
        (∃ place session, world.cancel task = ended.giveUpSend task place session) ∨
        ∃ parent, world.cancel task = ended.wake parent) := by
  unfold cancel
  split
  · exact .inl rfl
  · dsimp only
    split
    · exact .inl rfl
    all_goals first
      | exact .inr ⟨_, rfl, .inr (.inl ⟨_, _, rfl⟩)⟩
      | exact .inr ⟨_, rfl, .inr (.inr ⟨_, rfl⟩)⟩
      | exact .inr ⟨_, rfl, .inl rfl⟩

/-- The tasks that a changed session serves are ready. -/
theorem mem_ready_onSession {session : SessionId} {found : Session}
    (there : world.session? site session = some found)
    (change : Session → Session × List TaskId) {served : TaskId}
    (named : served ∈ (change found).2) :
    served ∈ (world.onSession site session change).ready := by
  simp only [onSession, there]
  exact mem_ready_wakeAll_self _ named

end World

end ClusterGateway
