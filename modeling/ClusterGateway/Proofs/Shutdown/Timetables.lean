import ClusterGateway.Proofs.Shutdown.Profiles
import ClusterGateway.Proofs.World.Sites

/-!
# The timetable of a shutdown

The stops of the serving components begin when a shutdown begins, and each of them takes its own
time. The offset manager is next when the last of them is over, and after it the client. So the
times at which a shutdown does something are known when it begins, and with them all that it
announces (`Timetable`). `ClosingDown` says how far a shutdown that keeps to its timetable has come;
whatever other tasks do leaves it there.
-/

namespace ClusterGateway

/-- When the shutdown of a gateway began, and how long the stop of each component takes. -/
structure Timetable where
  begun : Nat
  delay : Component → Nat

/-- How long the shutdown of a gateway takes. -/
def shutdownTime (delay : Component → Nat) : Nat :=
  max (delay .producer) (max (delay .consumer) (delay .admin)) + delay .offsets + delay .client

namespace Timetable

/-- When the serving components have stopped. -/
def joined (table : Timetable) : Nat :=
  table.begun + max (table.delay .producer) (max (table.delay .consumer) (table.delay .admin))

/-- When the offset manager has stopped. -/
def settled (table : Timetable) : Nat := table.joined + table.delay .offsets

/-- When the client is closed, and the shutdown is over. -/
def closed (table : Timetable) : Nat := table.begun + shutdownTime table.delay

/-- What is announced of a serving component, and when. -/
def course (table : Timetable) (component : Component) : List (Nat × LifecycleEvent) :=
  [(table.begun, .stateChanged component.name .running .stopping),
    (table.begun + table.delay component, .stateChanged component.name .stopping .stopped)]

/-- What is announced after the serving components have stopped, up to a phase. -/
def closing (table : Timetable) : ShutdownPhase → List (Nat × LifecycleEvent)
  | .stoppingOffsets _ =>
    [(table.joined, .stateChanged Component.offsets.name .running .stopping)]
  | .closingClient _ =>
    [(table.joined, .stateChanged Component.offsets.name .running .stopping),
      (table.settled, .stateChanged Component.offsets.name .stopping .stopped)]
  | .finished =>
    [(table.joined, .stateChanged Component.offsets.name .running .stopping),
      (table.settled, .stateChanged Component.offsets.name .stopping .stopped),
      (table.closed, .stateChanged Component.client.name .running .stopped),
      (table.closed, .shutdownCompleted (shutdownTime table.delay))]
  | _ => []

/-- The client is closed when its time is over, after the offset manager has stopped. -/
theorem closed_eq (table : Timetable) : table.closed = table.settled + table.delay .client := by
  simp only [closed, settled, joined, shutdownTime]
  omega

/-- A serving component has stopped when all of them have. -/
theorem le_joined {component : Component} (table : Timetable)
    (serving : component ∈ Component.serving) :
    table.begun + table.delay component ≤ table.joined := by
  simp only [Component.serving, List.mem_cons, List.not_mem_nil, or_false] at serving
  rw [joined]
  obtain rfl | rfl | rfl := serving <;> omega

/-- Where the last serving component has just stopped, all have. -/
theorem joined_le {now : Nat} (table : Timetable)
    (late : ∀ component ∈ Component.serving, table.begun + table.delay component ≤ now) :
    table.joined ≤ now := by
  have producer := late .producer (by decide)
  have consumer := late .consumer (by decide)
  have admin := late .admin (by decide)
  rw [joined]
  omega

end Timetable

/-- An event tells of a component. -/
def tells (component : Component) (entry : Nat × LifecycleEvent) : Bool :=
  match entry.2 with
  | .stateChanged name _ _ => name == component.name
  | _ => false

/-- A change of the state of a component tells of that one only. -/
theorem tells_stateChanged (component other : Component) (time : Nat)
    (before after : ComponentState) :
    tells other (time, .stateChanged component.name before after) = decide (component = other) := by
  have names : component.name = other.name ↔ component = other :=
    ⟨Component.name_injective component other, congrArg Component.name⟩
  rw [tells, Bool.eq_iff_iff, beq_iff_eq, decide_eq_true_eq]
  exact names

/-- A shutdown, or a stop task, waits for no answer of the cluster. -/
theorem Stage.Fits.not_awaits {stage : Stage} {purpose : Purpose} (fits : stage.Fits purpose)
    (teardown : purpose.IsTeardown) (other : Stage) : ¬ stage.AwaitsAlike other := by
  intro alike
  have awaits : (∃ answer, stage = .awaitingReceipt answer) ∨
      ∃ answer, stage = .awaitingMessage answer := by
    unfold AwaitsAlike at alike
    split at alike
    · exact .inl ⟨_, rfl⟩
    · exact .inr ⟨_, rfl⟩
    · exact alike.elim
  cases purpose with
  | request place request =>
    cases request with
    | stop => obtain ⟨answer, rfl⟩ | ⟨answer, rfl⟩ := awaits <;> exact fits
    | _ => exact teardown
  | stopComponent place component parent =>
    obtain ⟨answer, rfl⟩ | ⟨answer, rfl⟩ := awaits <;> exact fits
  | shutdown sites logged => obtain ⟨answer, rfl⟩ | ⟨answer, rfl⟩ := awaits <;> exact fits
  | _ => exact teardown

namespace World

variable {world before after : World} {me task stop : TaskId} {site : SiteId} {found : Task}
  {move : Move} {woken later : Prop} {table : Timetable} {component : Component}
  {profile : Profile} {middle told : List (Nat × LifecycleEvent)} {lane : Component → TaskId}
  {phase : ShutdownPhase}

/-- A task waits for a time to come; or that time is now, and something holds. -/
def AwaitsTime (world : World) (woken : Prop) (task : TaskId) (due : Nat) : Prop :=
  world.now < due ∧ ⟨due, task⟩ ∈ world.timers ∨ world.now = due ∧ woken

/-- The time that a task waits for has not passed. -/
theorem AwaitsTime.le {due : Nat} (awaits : world.AwaitsTime woken task due) : world.now ≤ due := by
  obtain ⟨early, -⟩ | ⟨same, -⟩ := awaits
  · exact Nat.le_of_lt early
  · exact Nat.le_of_eq same

/-- A task waits for the time of a timer that was set for it. -/
theorem awaits_setTimer {due : Nat} (early : world.now < due) :
    (world.setTimer task due).AwaitsTime woken task due :=
  .inl ⟨early, List.mem_append_right _ (List.mem_singleton.mpr rfl)⟩

/-- What happens leaves a task where it waits, and its timers and its turn as they were. -/
structure LeftAlone (task : TaskId) (before after : World) : Prop where
  now : before.now ≤ after.now
  there : ∀ found, before.tasks[task]? = some found → after.tasks[task]? = some found
  ready : task ∈ before.ready → task ∈ after.ready ∧ after.now = before.now
  awaits : ∀ due, before.AwaitsTime (task ∈ before.ready) task due →
    after.AwaitsTime (task ∈ after.ready) task due

/-- The clock does not go back. -/
theorem le_now_apply (sound : world.Sound) (move : Move) : world.now ≤ (world.apply move).now := by
  obtain same | ⟨moment, -, passed⟩ := now_apply sound move
  · exact Nat.le_of_eq same.symm
  · rw [passed]
    exact Nat.le_max_left _ _

/-- A shutdown, or a stop task, stays where it waits in the moves of others. -/
theorem tasks_apply_of_foreign (sound : world.Sound) (there : world.tasks[task]? = some found)
    (teardown : found.purpose.IsTeardown) (foreign : ¬ move.IsOwn task) :
    (world.apply move).tasks[task]? = some found := by
  obtain ⟨stage, kept, same | ⟨alike, -⟩ | ⟨own, -⟩⟩ := kept_apply sound move there
  · rw [kept, same]
  · exact absurd alike ((sound task found there).1.not_awaits teardown stage)
  · exact absurd own foreign

/-- A shutdown, or a stop task, is left alone in the moves of others. -/
theorem leftAlone_apply (sound : world.Sound) (free : world.isOpen move = true)
    (there : world.tasks[task]? = some found) (teardown : found.purpose.IsTeardown)
    (foreign : ¬ move.IsOwn task) : LeftAlone task world (world.apply move) where
  now := le_now_apply sound move
  there running here := by
    obtain rfl : found = running := Option.some.inj (there.symm.trans here)
    exact tasks_apply_of_foreign sound there teardown foreign
  ready waits := ⟨mem_ready_apply sound foreign waits, now_apply_of_ready sound free waits⟩
  awaits due awaits := by
    obtain ⟨early, set⟩ | ⟨same, waits⟩ := awaits
    · exact mem_timers_apply sound free foreign early set
    · exact .inr ⟨(now_apply_of_ready sound free waits).trans same,
        mem_ready_apply sound foreign waits⟩

/-- How long the stops of the components of a gateway take. -/
def delays (world : World) (site : SiteId) (component : Component) : Nat :=
  (world.sites[site]?).elim 0 fun found =>
    world.script.stopDelay found.gateway.task.text component

/-- How long stops take is read off the script and the site. -/
theorem delays_of_sites (same : after.sites[site]? = before.sites[site]?)
    (script : after.script = before.script) : after.delays site = before.delays site := by
  funext component
  rw [delays, delays, same, script]

/-- Where the script and the path of a gateway are the same, its stops take as long. -/
theorem delays_congr {first later : Site} (there : before.sites[site]? = some first)
    (here : after.sites[site]? = some later) (script : after.script = before.script)
    (path : later.gateway.task = first.gateway.task) :
    after.delays site = before.delays site := by
  funext component
  rw [delays, delays, there, here, script]
  show _ = before.script.stopDelay _ _
  rw [← path]
  rfl

/-- No move changes how long stops take. -/
theorem delays_apply (sound : world.Sound) (seen : world.profile? site = some profile)
    (move : Move) : (world.apply move).delays site = world.delays site := by
  obtain ⟨found, there, -⟩ := exists_site_of_profile? seen
  obtain ⟨later, here, remains⟩ := exists_remains sound there move
  exact delays_congr there here (apply_fields sound move).1 remains.task

/-- How far the stop of a serving component has come, and what was announced of it. -/
inductive StopCourse (world : World) (table : Timetable) (component : Component) (stop : TaskId)
    (profile : Profile) : List (Nat × LifecycleEvent) → Prop
  | unrun {found : Task} (there : world.tasks[stop]? = some found) (fresh : found.stage = .fresh)
    (ready : stop ∈ world.ready) (instant : world.now = table.begun)
    (held : profile.holds component = true)
    (running : profile.state? component = some .running) :
    StopCourse world table component stop profile []
  | stopping {found : Task} (there : world.tasks[stop]? = some found)
    (sleeps : found.stage = .sleeping (table.begun + table.delay component))
    (awaits : world.AwaitsTime (stop ∈ world.ready) stop (table.begun + table.delay component))
    (state : profile.state? component = some .stopping) :
    StopCourse world table component stop profile ((table.course component).take 1)
  | stopped (settled : world.isOver stop = true)
    (late : table.begun + table.delay component ≤ world.now) :
    StopCourse world table component stop profile (table.course component)

/-- A task that is there is over when it has ended. -/
theorem isOver_eq (there : world.tasks[task]? = some found) :
    world.isOver task = match found.stage with
      | .ended _ => true
      | _ => false := by
  obtain ⟨actor, purpose, stage⟩ := found
  cases stage <;> simp only [isOver, there]

/-- A task that is there and is left alone is over if it was. -/
theorem LeftAlone.isOver_eq (spared : LeftAlone task before after)
    (there : before.tasks[task]? = some found) : after.isOver task = before.isOver task := by
  rw [World.isOver_eq there, World.isOver_eq (spared.there found there)]

/-- The stop of a component stays where it is while its task is left alone and the component is seen
as it was. -/
theorem StopCourse.leftAlone {last : Profile}
    (course : before.StopCourse table component stop profile told)
    (there : before.tasks[stop]? = some found) (spared : LeftAlone stop before after)
    (held : last.holds component = profile.holds component)
    (state : last.state? component = profile.state? component) :
    after.StopCourse table component stop last told := by
  cases course with
  | unrun here fresh ready instant holds running =>
    exact .unrun (spared.there _ here) fresh (spared.ready ready).1
      ((spared.ready ready).2.trans instant) (held.trans holds) (state.trans running)
  | stopping here sleeps awaits stopping =>
    exact .stopping (spared.there _ here) sleeps (spared.awaits _ awaits) (state.trans stopping)
  | stopped settled late =>
    exact .stopped ((spared.isOver_eq there).trans settled) (Nat.le_trans late spared.now)

/-- A stop that is not over is not late. -/
theorem StopCourse.le_of_runs (course : world.StopCourse table component stop profile told)
    (runs : world.isOver stop = false) : world.now ≤ table.begun + table.delay component := by
  cases course with
  | unrun _ _ _ instant =>
    rw [instant]
    exact Nat.le_add_right _ _
  | stopping _ _ awaits => exact awaits.le
  | stopped settled => rw [settled] at runs; exact absurd runs (by decide)

/-- All is announced of a stop that is over, and its time has come. -/
theorem StopCourse.of_over (course : world.StopCourse table component stop profile told)
    (settled : world.isOver stop = true) :
    told = table.course component ∧ table.begun + table.delay component ≤ world.now := by
  cases course with
  | unrun there fresh =>
    rw [isOver_eq there, fresh] at settled
    exact absurd settled Bool.false_ne_true
  | stopping there sleeps =>
    rw [isOver_eq there, sleeps] at settled
    exact absurd settled Bool.false_ne_true
  | stopped _ late => exact ⟨rfl, late⟩

/-- Where the shutdown of a gateway stands in a phase that comes after its opening. It waits for a
stop task, or for the time of its timetable; or it goes on now, if it is `woken`. -/
inductive OnTime (world : World) (woken : Prop) (me : TaskId) (table : Timetable)
    (lane : Component → TaskId) (profile : Profile) : ShutdownPhase → Prop
  | joining
    (whole : ∀ component ∈ [Component.offsets, .client],
      profile.holds component = true ∧ profile.state? component = some .running)
    (joins : (∀ component ∈ Component.serving, world.isOver (lane component) = true) →
      world.now = table.joined ∧ woken) :
    OnTime world woken me table lane profile (.joining (Component.serving.map lane))
  | offsets (settled : ∀ component ∈ Component.serving, world.isOver (lane component) = true)
    (stopping : profile.state? .offsets = some .stopping) (held : profile.holds .client = true)
    (running : profile.state? .client = some .running)
    (awaits : world.AwaitsTime woken me table.settled) :
    OnTime world woken me table lane profile (.stoppingOffsets table.settled)
  | client (settled : ∀ component ∈ Component.serving, world.isOver (lane component) = true)
    (running : profile.state? .client = some .running)
    (awaits : world.AwaitsTime woken me table.closed) :
    OnTime world woken me table lane profile (.closingClient table.closed)
  | finished (settled : ∀ component ∈ Component.serving, world.isOver (lane component) = true)
    (late : table.closed ≤ world.now) : OnTime world woken me table lane profile .finished

/-- The shutdown of a gateway that has been opened keeps to its timetable. The stop task of each
serving component is known, and `middle` is what was announced of these components. -/
structure ClosingDown (world : World) (woken : Prop) (me : TaskId) (table : Timetable)
    (site : SiteId) (lane : Component → TaskId) (profile : Profile)
    (middle : List (Nat × LifecycleEvent)) (phase : ShutdownPhase) : Prop where
  seen : world.profile? site = some profile
  delays : world.delays site = table.delay
  lanes : ∀ component ∈ Component.serving, ∃ found, world.tasks[lane component]? = some found ∧
    found.purpose = .stopComponent site component me
  only : ∀ (task : TaskId) (found : Task) (component : Component),
    world.tasks[task]? = some found → found.purpose = .stopComponent site component me →
      component ∈ Component.serving ∧ task = lane component
  stops : ∀ component ∈ Component.serving, world.StopCourse table component (lane component)
    profile (middle.filter (tells component))
  serving : ∀ entry ∈ middle, ∃ component ∈ Component.serving, tells component entry = true
  onTime : world.OnTime woken me table lane profile phase

/-- The shutdown of a gateway that has not begun: the gateway is whole. -/
structure Unopened (world : World) (me : TaskId) (table : Timetable) (site : SiteId)
    (profile : Profile) : Prop where
  seen : world.profile? site = some profile
  delays : world.delays site = table.delay
  whole : ∀ component, profile.holds component = true ∧
    profile.state? component = some .running
  idle : ∀ (task : TaskId) (found : Task) (component : Component),
    world.tasks[task]? = some found → found.purpose ≠ .stopComponent site component me
  instant : world.now = table.begun

/-- What happens elsewhere leaves the shutdown of a gateway alone: the gateway is seen as it was, no
task is new that stops a component of it for the shutdown, and those that do are left alone. -/
structure Elsewhere (me : TaskId) (site : SiteId) (before after : World) : Prop where
  seen : after.profile? site = before.profile? site
  delays : after.delays site = before.delays site
  born : ∀ (task : TaskId) (found : Task) (component : Component),
    after.tasks[task]? = some found → found.purpose = .stopComponent site component me →
      ∃ earlier, before.tasks[task]? = some earlier ∧ earlier.purpose = found.purpose
  stops : ∀ (task : TaskId) (found : Task) (component : Component),
    before.tasks[task]? = some found → found.purpose = .stopComponent site component me →
      LeftAlone task before after

/-- A shutdown stands where it did after something happened elsewhere. -/
theorem OnTime.elsewhere (onTime : before.OnTime woken me table lane profile phase)
    (same : ∀ component ∈ Component.serving,
      after.isOver (lane component) = before.isOver (lane component))
    (awaits : phase ≠ .finished → ∀ due, before.AwaitsTime woken me due →
      after.AwaitsTime later me due)
    (wakes : woken → later ∧ after.now = before.now) (now : before.now ≤ after.now) :
    after.OnTime later me table lane profile phase := by
  have still : (∀ component ∈ Component.serving, before.isOver (lane component) = true) →
      ∀ component ∈ Component.serving, after.isOver (lane component) = true :=
    fun settled component serving => (same component serving).trans (settled component serving)
  cases onTime with
  | joining whole joins =>
    refine .joining whole fun settled => ?_
    have earlier := joins fun component serving =>
      (same component serving).symm.trans (settled component serving)
    exact ⟨(wakes earlier.2).2.trans earlier.1, (wakes earlier.2).1⟩
  | offsets settled stopping held running waits =>
    exact .offsets (still settled) stopping held running (awaits nofun _ waits)
  | client settled running waits => exact .client (still settled) running (awaits nofun _ waits)
  | finished settled late => exact .finished (still settled) (Nat.le_trans late now)

/-- The shutdown of a gateway that is underway stays where it is when something happens
elsewhere. -/
theorem ClosingDown.elsewhere
    (underway : before.ClosingDown woken me table site lane profile middle phase)
    (apart : Elsewhere me site before after)
    (awaits : phase ≠ .finished → ∀ due, before.AwaitsTime woken me due →
      after.AwaitsTime later me due)
    (wakes : woken → later ∧ after.now = before.now) (now : before.now ≤ after.now) :
    after.ClosingDown later me table site lane profile middle phase := by
  have spared : ∀ component ∈ Component.serving, ∃ found,
      before.tasks[lane component]? = some found ∧
        found.purpose = .stopComponent site component me ∧
          LeftAlone (lane component) before after := by
    intro component serving
    obtain ⟨found, there, purpose⟩ := underway.lanes component serving
    exact ⟨found, there, purpose, apart.stops _ found component there purpose⟩
  refine ⟨apart.seen.trans underway.seen, apart.delays.trans underway.delays, ?_, ?_, ?_,
    underway.serving, underway.onTime.elsewhere ?_ awaits wakes now⟩
  · intro component serving
    obtain ⟨found, there, purpose, spares⟩ := spared component serving
    exact ⟨found, spares.there found there, purpose⟩
  · intro task found component there purpose
    obtain ⟨earlier, here, same⟩ := apart.born task found component there purpose
    exact underway.only task earlier component here (same.trans purpose)
  · intro component serving
    obtain ⟨found, there, purpose, spares⟩ := spared component serving
    exact (underway.stops component serving).leftAlone there spares rfl rfl
  · intro component serving
    obtain ⟨found, there, purpose, spares⟩ := spared component serving
    exact spares.isOver_eq there

/-- The shutdown of a gateway that has not begun stays so when something happens elsewhere. -/
theorem Unopened.elsewhere (unopened : before.Unopened me table site profile)
    (apart : Elsewhere me site before after) (instant : after.now = before.now) :
    after.Unopened me table site profile where
  seen := apart.seen.trans unopened.seen
  delays := apart.delays.trans unopened.delays
  whole := unopened.whole
  idle task found component there purpose := by
    obtain ⟨earlier, here, same⟩ := apart.born task found component there purpose
    exact unopened.idle task earlier component here (same.trans purpose)
  instant := instant.trans unopened.instant

end World

end ClusterGateway
