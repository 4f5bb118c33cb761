import ClusterGateway.Proofs.Shutdown.Punctual

/-!
# A shutdown keeps to its timetable

A shutdown that runs takes each of its gateways as far as it can go. When the last stop task has
ended it stops the offset manager, and after it the client; a stop that takes no time is followed at
once by the next. So in each phase it does what the timetable says, at the time that the timetable
says, and sets a timer for what comes next. Main statements: `Unopened.advance`,
`ClosingDown.advance`.
-/

namespace ClusterGateway.World

variable {world before between after : World} {me : TaskId} {actor : Option String} {found : Site}
  {part : Shutdown} {table : Timetable} {lane : Component → TaskId} {profile middle last : Profile}
  {said : List (Nat × LifecycleEvent)} {first events : List LifecycleEvent}
  {result : World × Shutdown}

/-- Time, the tasks and the line of ready tasks stand still, and no timer goes. -/
structure Calm (before after : World) : Prop where
  now : after.now = before.now
  script : after.script = before.script
  tasks : after.tasks = before.tasks
  ready : after.ready = before.ready
  timers : ∀ timer ∈ before.timers, timer ∈ after.timers

/-- Nothing beside the gateways, the clusters and the log changes. -/
theorem Beside.calm (beside : Beside before after) : Calm before after where
  now := beside.now
  script := beside.script
  tasks := beside.tasks
  ready := beside.ready
  timers timer set := by
    rw [beside.timers]
    exact set

/-- One thing after the other. -/
theorem Calm.trans (first : Calm before between) (second : Calm between after) :
    Calm before after where
  now := second.now.trans first.now
  script := second.script.trans first.script
  tasks := second.tasks.trans first.tasks
  ready := second.ready.trans first.ready
  timers timer set := second.timers timer (first.timers timer set)

/-- A timer is set. -/
theorem calm_setTimer (world : World) (task : TaskId) (due : Nat) :
    Calm world (world.setTimer task due) :=
  ⟨rfl, rfl, rfl, rfl, fun _ set => List.mem_append_left _ set⟩

/-- While all stands still, every task is left alone. -/
theorem Calm.leftAlone (calm : Calm before after) (task : TaskId) :
    LeftAlone task before after := by
  refine leftAlone_of_still calm.now (fun found here => ?_) (fun waits => ?_) fun due set => ?_
  · rw [calm.tasks]
    exact here
  · rw [calm.ready]
    exact waits
  · exact calm.timers _ set

/-- The stop tasks of the serving components are over. -/
def AllOver (world : World) (lane : Component → TaskId) : Prop :=
  ∀ component ∈ Component.serving, world.isOver (lane component) = true

/-- Stop tasks that are over stay so while all stands still. -/
theorem AllOver.calm (settled : before.AllOver lane) (calm : Calm before after) :
    after.AllOver lane := by
  intro component serving
  have over_before := settled component serving
  unfold isOver at over_before ⊢
  rw [calm.tasks]
  exact over_before

/-- Two profiles agree on the serving components. -/
def Profile.AlikeServing (profile last : Profile) : Prop :=
  ∀ component ∈ Component.serving,
    last.holds component = profile.holds component ∧
      last.state? component = profile.state? component

/-- A component that serves no requests is none of those that do. -/
theorem ne_of_serving {component other : Component} (serving : component ∈ Component.serving)
    (closing : other ∈ [Component.offsets, .client]) : component ≠ other := by
  rintro rfl
  revert serving closing
  cases component <;> decide

/-- The shutdown of a gateway has gone from one phase to another. It has announced what the
timetable says of the phases between them, and the next phase keeps to the timetable. -/
structure Goes (before : World) (result : World × Shutdown) (me : TaskId) (table : Timetable)
    (lane : Component → TaskId) (part : Shutdown) (profile last : Profile)
    (said : List (Nat × LifecycleEvent)) (events : List LifecycleEvent) : Prop where
  calm : Calm before result.1
  begun : result.2.begun = part.begun
  seen : result.1.profile? part.site = some last
  journal : last.journal = profile.journal ++ events
  same : Profile.AlikeServing profile last
  told : table.closing result.2.phase = said ++ events.map (Prod.mk before.now)
  onTime : result.1.OnTime False me table lane last result.2.phase

/-- Something is announced before the shutdown goes on. -/
theorem Goes.announced (goes : Goes between result me table lane part middle last
      (said ++ first.map (Prod.mk world.now)) events) (calm : Calm world between)
    (journal : middle.journal = profile.journal ++ first)
    (same : Profile.AlikeServing profile middle) :
    Goes world result me table lane part profile last said (first ++ events) where
  calm := calm.trans goes.calm
  begun := goes.begun
  seen := goes.seen
  journal := by rw [goes.journal, journal, List.append_assoc]
  same component serving := by
    have early := same component serving
    have late := goes.same component serving
    exact ⟨late.1.trans early.1, late.2.trans early.2⟩
  told := by rw [goes.told, calm.now, List.map_append, List.append_assoc]
  onTime := goes.onTime

/-- Nothing is announced before the shutdown goes on. -/
theorem Goes.following (goes : Goes between result me table lane part middle last said events)
    (calm : Calm world between) (journal : middle.journal = profile.journal)
    (same : Profile.AlikeServing profile middle) :
    Goes world result me table lane part profile last said events := by
  have silent : middle.journal = profile.journal ++ [] := by rw [journal, List.append_nil]
  rw [← List.append_nil said] at goes
  have announced : Goes world result me table lane part profile last said ([] ++ events) :=
    goes.announced calm silent same
  exact announced

/-- The client is closed at the end of the timetable, and the shutdown is over. -/
theorem goes_endClientClose (settled : world.AllOver lane)
    (seen : world.profile? part.site = some profile)
    (running : profile.state? .client = some .running) (instant : world.now = table.closed)
    (begun : part.begun = table.begun) (owner : String) :
    ∃ last events, Goes world (world.endClientClose actor owner part) me table lane part profile
      last (table.closing (.closingClient table.closed)) events := by
  obtain ⟨after, beside, shown, same⟩ := endClientClose_seen seen actor owner
  have duration : world.now - part.begun = shutdownTime table.delay := by
    rw [instant, begun, Timetable.closed]
    omega
  rw [duration] at shown
  rw [same]
  refine ⟨_, [.stateChanged Component.client.name .running .stopped,
    .shutdownCompleted (shutdownTime table.delay)], beside.calm, rfl, shown, ?_, ?_, ?_,
      .finished (settled.calm beside.calm) ?_⟩
  · show (profile.enter .client .stopped).journal ++ [_] = _
    rw [Profile.journal_enter running, List.append_assoc]
    rfl
  · intro component serving
    have differ : component ≠ .client := ne_of_serving serving (by decide)
    exact @Profile.enter_of_ne profile .client component .stopped differ
  · rw [instant]
    rfl
  · exact Nat.le_of_eq (beside.now.trans instant).symm

/-- No stop breaks down, and the stops of the components of a gateway take as long as a timetable
says. -/
structure Planned (world : World) (table : Timetable) (found : Site) : Prop where
  sturdy : world.script.stopFaults = []
  delays : ∀ component,
    world.script.stopDelay found.gateway.task.text component = table.delay component

/-- What happens beside the tasks leaves the plans alone. -/
theorem Planned.beside (planned : before.Planned table found) (beside : Beside before after) :
    after.Planned table found where
  sturdy := by
    rw [beside.script]
    exact planned.sturdy
  delays := by
    rw [beside.script]
    exact planned.delays

/-- The client is taken away when the offset manager has stopped, and is closed when its time is
over. -/
theorem goes_beginClientClose (planned : world.Planned table found) (settled : world.AllOver lane)
    (seen : world.profile? part.site = some profile)
    (held : found.gateway.holds .client = true)
    (running : profile.state? .client = some .running) (instant : world.now = table.settled)
    (begun : part.begun = table.begun) :
    ∃ last events, Goes world (world.beginClientClose me actor found part) me table lane part
      profile last (table.closing (.closingClient table.closed)) events := by
  obtain ⟨taken, beside, shown, same⟩ := beginClientClose_seen planned.sturdy seen held me actor
  have alike : Profile.AlikeServing profile (profile.release .client) := fun component serving =>
    Profile.release_of_ne (ne_of_serving serving (by decide))
  have closes := table.closed_eq
  rw [planned.delays .client] at same
  by_cases immediate : table.delay .client = 0
  · have now : taken.now = table.closed := by
      rw [beside.now, closes, immediate, instant]
      rfl
    obtain ⟨last, events, goes⟩ : ∃ last events, Goes taken
        (taken.endClientClose actor found.gateway.task.text part) me table lane part
        (profile.release .client) last (table.closing (.closingClient table.closed)) events :=
      goes_endClientClose (settled.calm beside.calm) shown running now begun _
    rw [same, if_pos immediate]
    exact ⟨last, events, goes.following beside.calm rfl alike⟩
  · have due : world.now + table.delay .client = table.closed := by rw [closes, instant]
    have calm : Calm world (taken.setTimer me table.closed) :=
      beside.calm.trans (calm_setTimer taken me _)
    rw [due] at same
    rw [same, if_neg immediate]
    have early : taken.now < table.closed := by
      rw [beside.now]
      omega
    exact ⟨profile.release .client, [], calm, rfl, shown, (List.append_nil _).symm, alike,
      (List.append_nil _).symm, .client (settled.calm calm) running (awaits_setTimer early)⟩

/-- The end of the stop of the offset manager is announced, and the client is next. -/
theorem goes_endOffsetsStop (planned : world.Planned table found) (settled : world.AllOver lane)
    (seen : world.profile? part.site = some profile)
    (stopping : profile.state? .offsets = some .stopping)
    (held : found.gateway.holds .client = true)
    (running : profile.state? .client = some .running) (instant : world.now = table.settled)
    (begun : part.begun = table.begun) :
    ∃ last events, Goes world (world.endOffsetsStop me actor found part) me table lane part profile
      last (table.closing (.stoppingOffsets table.settled)) events := by
  obtain ⟨stopped, beside, shown, same⟩ := endOffsetsStop_seen seen me actor found
  have alike : Profile.AlikeServing profile (profile.enter .offsets .stopped) :=
    fun component serving => Profile.enter_of_ne (ne_of_serving serving (by decide))
  have runs : (profile.enter .offsets .stopped).state? .client = some .running := by
    rw [Profile.state?_enter_of_ne (by decide)]
    exact running
  obtain ⟨last, events, goes⟩ : ∃ last events, Goes stopped
      (stopped.beginClientClose me actor found part) me table lane part
      (profile.enter .offsets .stopped) last (table.closing (.closingClient table.closed)) events :=
    goes_beginClientClose (planned.beside beside) (settled.calm beside.calm) shown held runs
      (beside.now.trans instant) begun
  have told : table.closing (.closingClient table.closed) =
      table.closing (.stoppingOffsets table.settled) ++
        [LifecycleEvent.stateChanged Component.offsets.name .stopping .stopped].map
          (Prod.mk world.now) := by
    rw [instant]
    rfl
  rw [told] at goes
  rw [same]
  exact ⟨last, _, goes.announced beside.calm (Profile.journal_enter stopping) alike⟩

/-- The offset manager is taken away when the last stop task has ended, and is next to stop. -/
theorem goes_beginOffsetsStop (planned : world.Planned table found) (settled : world.AllOver lane)
    (seen : world.profile? part.site = some profile)
    (held : ∀ component ∈ [Component.offsets, .client], found.gateway.holds component = true)
    (running : ∀ component ∈ [Component.offsets, .client],
      profile.state? component = some .running)
    (holds : profile.holds .client = true)
    (instant : world.now = table.joined) (begun : part.begun = table.begun) :
    ∃ last events, Goes world (world.beginOffsetsStop me actor found part) me table lane part
      profile last [] events := by
  obtain ⟨taken, beside, shown, same⟩ :=
    beginOffsetsStop_seen planned.sturdy seen (held .offsets (by decide)) me actor
  have alike : Profile.AlikeServing profile ((profile.release .offsets).enter .offsets .stopping) :=
    fun component serving => Profile.beginStop_of_ne (ne_of_serving serving (by decide))
  have client : ((profile.release .offsets).enter .offsets .stopping).state? .client =
      some .running := by
    rw [Profile.state?_enter_of_ne (by decide)]
    exact running .client (by decide)
  have journal := Profile.journal_beginStop (running .offsets (by decide))
  have told : table.closing (.stoppingOffsets table.settled) =
      [] ++ [LifecycleEvent.stateChanged Component.offsets.name .running .stopping].map
        (Prod.mk world.now) := by
    rw [instant]
    rfl
  rw [planned.delays .offsets] at same
  by_cases immediate : table.delay .offsets = 0
  · have now : taken.now = table.settled := by
      rw [beside.now, Timetable.settled, immediate, instant]
      rfl
    obtain ⟨last, events, goes⟩ : ∃ last events, Goes taken
        (taken.endOffsetsStop me actor found part) me table lane part
        ((profile.release .offsets).enter .offsets .stopping) last
        (table.closing (.stoppingOffsets table.settled)) events :=
      goes_endOffsetsStop (planned.beside beside) (settled.calm beside.calm) shown
        Profile.state?_enter_self (held .client (by decide)) client now begun
    rw [told] at goes
    rw [same, if_pos immediate]
    exact ⟨last, _, goes.announced beside.calm journal alike⟩
  · have due : world.now + table.delay .offsets = table.settled := by
      rw [Timetable.settled, instant]
    have calm : Calm world (taken.setTimer me table.settled) :=
      beside.calm.trans (calm_setTimer taken me _)
    rw [due] at same
    rw [same, if_neg immediate]
    have released : (profile.release .offsets).holds .client = profile.holds .client :=
      Profile.holds_release_of_ne (by decide)
    have early : taken.now < table.settled := by
      rw [beside.now]
      omega
    exact ⟨_, _, calm, rfl, shown, journal, alike, told, .offsets (settled.calm calm)
      Profile.state?_enter_self (released.trans holds) client (awaits_setTimer early)⟩

/-- A shutdown that waits on announces nothing. -/
theorem goes_stays (seen : world.profile? part.site = some profile)
    (onTime : world.OnTime False me table lane profile part.phase) :
    Goes world (world, part) me table lane part profile profile (table.closing part.phase) [] where
  calm := (Beside.refl world).calm
  begun := rfl
  seen := seen
  journal := (List.append_nil _).symm
  same _ _ := ⟨rfl, rfl⟩
  told := (List.append_nil _).symm
  onTime := onTime

/-- How long the stops of the components of a gateway that is there take. -/
theorem delays_of_site (there : world.sites[part.site]? = some found)
    (delays : world.delays part.site = table.delay) (component : Component) :
    world.script.stopDelay found.gateway.task.text component = table.delay component := by
  rw [← delays, World.delays, there]
  rfl

/-- A shutdown that runs when its stop tasks are over takes the offset manager away. -/
theorem goes_join (planned : world.Planned table found) (settled : world.AllOver lane)
    (there : world.sites[part.site]? = some found)
    (whole : ∀ component ∈ [Component.offsets, .client],
      found.gateway.profile.holds component = true ∧
        found.gateway.profile.state? component = some .running)
    (instant : world.now = table.joined) (begun : part.begun = table.begun)
    (entries : List LogEntry) :
    ∃ last events, Goes world ((world.note actor entries).beginOffsetsStop me actor found part) me
      table lane part found.gateway.profile last [] events := by
  have beside : Beside world (world.note actor entries) := (Beside.refl world).note actor entries
  have seen : (world.note actor entries).profile? part.site = some found.gateway.profile :=
    profile?_of_site there
  obtain ⟨last, events, goes⟩ : ∃ last events, Goes (world.note actor entries)
      ((world.note actor entries).beginOffsetsStop me actor found part) me table lane part
      found.gateway.profile last [] events :=
    goes_beginOffsetsStop (planned.beside beside) (settled.calm beside.calm) seen
      (fun component closing => (whole component closing).1)
      (fun component closing => (whole component closing).2) (whole .client (by decide)).1 instant
      begun
  exact ⟨last, events, goes.following beside.calm rfl fun _ _ => ⟨rfl, rfl⟩⟩

/-- A shutdown that runs goes on at the times of its timetable only, and then as far as it can. -/
theorem goes_advanceShutdown (sturdy : world.script.stopFaults = [])
    (seen : world.profile? part.site = some profile) (delays : world.delays part.site = table.delay)
    (onTime : world.OnTime True me table lane profile part.phase)
    (begun : part.begun = table.begun) (actor : Option String) :
    ∃ last events, Goes world (world.advanceShutdown me actor part) me table lane part profile last
      (table.closing part.phase) events := by
  obtain ⟨found, there, rfl⟩ := exists_site_of_profile? seen
  have planned : world.Planned table found := ⟨sturdy, delays_of_site there delays⟩
  obtain ⟨site, start, phase⟩ := part
  unfold advanceShutdown
  rw [there]
  cases onTime with
  | joining whole joins =>
    by_cases settled : world.AllOver lane
    · have all : (Component.serving.map lane).all world.isOver = true := by
        rw [List.all_map, List.all_eq_true]
        exact settled
      simp only [all, ↓reduceIte]
      exact goes_join planned settled there whole (joins settled).1 begun _
    · have some_runs : ¬ (Component.serving.map lane).all world.isOver = true := by
        rw [List.all_map, List.all_eq_true]
        exact settled
      simp only [some_runs, Bool.false_eq_true, ↓reduceIte]
      exact ⟨_, _, goes_stays seen (.joining whole fun over_all => absurd over_all settled)⟩
  | offsets settled stopping held running awaits =>
    obtain ⟨early, set⟩ | ⟨instant, -⟩ := awaits
    · simp only [Nat.not_le.mpr early, ↓reduceIte]
      exact ⟨_, _, goes_stays seen (.offsets settled stopping held running (.inl ⟨early, set⟩))⟩
    · simp only [Nat.le_of_eq instant.symm, ↓reduceIte]
      exact goes_endOffsetsStop planned settled seen stopping held running instant begun
  | client settled running awaits =>
    obtain ⟨early, set⟩ | ⟨instant, -⟩ := awaits
    · simp only [Nat.not_le.mpr early, ↓reduceIte]
      exact ⟨_, _, goes_stays seen (.client settled running (.inl ⟨early, set⟩))⟩
    · simp only [Nat.le_of_eq instant.symm, ↓reduceIte]
      exact goes_endClientClose settled seen running instant begun _
  | finished settled late => exact ⟨_, _, goes_stays seen (.finished settled late)⟩

/-- A task that runs does not change how long stops take. -/
theorem delays_of_strokes {purpose : Purpose} {sends hands : Prop} {site : SiteId}
    (strokes : Strokes me purpose sends hands before after)
    (seen : before.profile? site = some profile) : after.delays site = before.delays site := by
  obtain ⟨found, there, -⟩ := exists_site_of_profile? seen
  obtain ⟨absent, -⟩ | ⟨first, later, here, still, frame⟩ := strokes.siteFrame site
  · rw [there] at absent
    exact absurd absent (by simp)
  · exact delays_congr here still strokes.script_eq frame.task

/-- A part that advances makes strokes of its shutdown. -/
theorem strokes_part (world : World) (me : TaskId) (actor : Option String) (part : Shutdown) :
    Strokes me (.shutdown [part.site] false) False True world
      (world.advanceShutdown me actor part).1 :=
  strokes_advanceShutdown world (List.mem_singleton.mpr rfl)

/-- The shutdown of a gateway keeps to its timetable when it runs: it goes on if it is time, and
announces what the timetable says. -/
theorem ClosingDown.advance {shown : List (Nat × LifecycleEvent)}
    (underway : world.ClosingDown True me table part.site lane profile shown part.phase)
    (sturdy : world.script.stopFaults = []) (begun : part.begun = table.begun)
    (actor : Option String) :
    ∃ last events, last.journal = profile.journal ++ events ∧
      (world.advanceShutdown me actor part).2.begun = table.begun ∧
      table.closing (world.advanceShutdown me actor part).2.phase =
        table.closing part.phase ++ events.map (Prod.mk world.now) ∧
      (world.advanceShutdown me actor part).1.ClosingDown False me table part.site lane last shown
        (world.advanceShutdown me actor part).2.phase := by
  obtain ⟨last, events, goes⟩ : ∃ last events, Goes world (world.advanceShutdown me actor part) me
      table lane part profile last (table.closing part.phase) events :=
    goes_advanceShutdown sturdy underway.seen underway.delays underway.onTime begun actor
  have strokes := strokes_part world me actor part
  refine ⟨last, events, goes.journal, goes.begun.trans begun, goes.told, goes.seen, ?_, ?_, ?_, ?_,
    underway.serving, goes.onTime⟩
  · exact (delays_of_strokes strokes underway.seen).trans underway.delays
  · rw [goes.calm.tasks]
    exact underway.lanes
  · rw [goes.calm.tasks]
    exact underway.only
  · intro component serving
    obtain ⟨found, there, -⟩ := underway.lanes component serving
    have spared := goes.calm.leftAlone (lane component)
    exact (underway.stops component serving).leftAlone there spared (goes.same component serving).1
      (goes.same component serving).2

/-- The stop tasks get the next numbers, and stand at the end of the line. -/
theorem spawnStops_eq (world : World) (parent : TaskId) (site : SiteId) (path : TaskPath)
    (components : List Component) : world.spawnStops parent site path components =
      ({ world with
          tasks := world.tasks ++ components.map fun component =>
            ⟨some (path.child component.stopTaskName).text, .stopComponent site component parent,
              .fresh⟩
          ready := world.ready ++ List.range' world.tasks.length components.length },
        List.range' world.tasks.length components.length) := by
  induction components generalizing world with
  | nil => simp [spawnStops]
  | cons component rest ih =>
    simp only [spawnStops, ih, spawn, List.map_cons, List.length_cons, List.length_append,
      List.length_nil, List.range'_succ, List.append_assoc, List.cons_append, List.nil_append]

/-- The number of the stop task of a serving component, after that of the first. -/
def stopLane (first : TaskId) (component : Component) : TaskId :=
  first + Component.serving.idxOf component

/-- The stop tasks that are started for a shutdown. -/
def stopTasks (path : TaskPath) (site : SiteId) (parent : TaskId) : List Task :=
  Component.serving.map fun component =>
    ⟨some (path.child component.stopTaskName).text, .stopComponent site component parent, .fresh⟩

/-- Each serving component has a stop task, which has not run. -/
theorem exists_stopTask {component : Component} (old : List Task) (path : TaskPath) (site : SiteId)
    (parent : TaskId) (serving : component ∈ Component.serving) :
    ∃ found, (old ++ stopTasks path site parent)[stopLane old.length component]? = some found ∧
      found.purpose = .stopComponent site component parent ∧ found.stage = .fresh := by
  have bound := List.idxOf_lt_length_of_mem serving
  have place : Component.serving[Component.serving.idxOf component]? = some component := by
    rw [List.getElem?_eq_getElem bound, List.getElem_idxOf bound]
  refine ⟨⟨some (path.child component.stopTaskName).text, .stopComponent site component parent,
    .fresh⟩, ?_, rfl, rfl⟩
  rw [stopLane, List.getElem?_append_right (Nat.le_add_right _ _), Nat.add_sub_cancel_left,
    stopTasks, List.getElem?_map, place]
  rfl

/-- A stop task that is new is the one of its component. -/
theorem eq_stopLane {component : Component} {site : SiteId} {old : List Task} {path : TaskPath}
    {parent task : TaskId} {found : Task} (late : old.length ≤ task)
    (there : (old ++ stopTasks path site parent)[task]? = some found)
    (stops : found.purpose = .stopComponent site component parent) :
    component ∈ Component.serving ∧ task = stopLane old.length component := by
  rw [List.getElem?_append_right late, stopTasks, List.getElem?_map, Option.map_eq_some_iff]
    at there
  obtain ⟨other, place, rfl⟩ := there
  obtain rfl : other = component := (Purpose.stopComponent.inj stops).2.1
  have number : Component.serving.idxOf other = task - old.length := by
    obtain ⟨bound, rfl⟩ := List.getElem?_eq_some_iff.mp place
    exact List.Nodup.idxOf_getElem (by decide) _ bound
  refine ⟨List.mem_of_getElem? place, ?_⟩
  rw [stopLane, number]
  exact (Nat.add_sub_of_le late).symm

/-- The shutdown of a gateway announces itself when it runs first, and starts its stop tasks. -/
theorem Unopened.advance (unopened : world.Unopened me table part.site profile)
    (opening : part.phase = .opening) (begun : part.begun = table.begun) (actor : Option String) :
    ∃ lane last, last.journal = profile.journal ++ [.shutdownInitiated] ∧
      (world.advanceShutdown me actor part).2.begun = table.begun ∧
      table.closing (world.advanceShutdown me actor part).2.phase = [] ∧
      (world.advanceShutdown me actor part).1.ClosingDown False me table part.site lane last []
        (world.advanceShutdown me actor part).2.phase := by
  have delays := delays_of_strokes (strokes_part world me actor part) unopened.seen
  obtain ⟨found, there, rfl⟩ := exists_site_of_profile? unopened.seen
  obtain ⟨between, beside, shown, same⟩ := openShutdown_seen unopened.seen me actor found
  have form : world.advanceShutdown me actor part =
      ({ between with
          tasks := between.tasks ++ stopTasks found.gateway.task part.site me
          ready := between.ready ++
            Component.serving.map (stopLane between.tasks.length) },
        { part with
          phase := .joining (Component.serving.map (stopLane between.tasks.length)) }) := by
    rw [spawnStops_eq] at same
    unfold advanceShutdown
    simp only [there, opening]
    exact same
  rw [form] at delays ⊢
  have starts (component : Component) (serving : component ∈ Component.serving) :=
    exists_stopTask between.tasks found.gateway.task part.site me serving
  refine ⟨stopLane between.tasks.length, _, rfl, begun, rfl, shown, delays.trans unopened.delays,
    ?_, ?_, ?_, nofun, .joining ?_ ?_⟩
  · intro component serving
    obtain ⟨stop, here, purpose, -⟩ := starts component serving
    exact ⟨stop, here, purpose⟩
  · intro task stop component here purpose
    by_cases early : task < between.tasks.length
    · rw [List.getElem?_append_left early, beside.tasks] at here
      exact absurd purpose (unopened.idle task stop component here)
    · exact eq_stopLane (Nat.le_of_not_lt early) here purpose
  · intro component serving
    obtain ⟨stop, here, -, fresh⟩ := starts component serving
    have ready : stopLane between.tasks.length component ∈
        between.ready ++ Component.serving.map (stopLane between.tasks.length) :=
      List.mem_append_right _ (List.mem_map_of_mem serving)
    have whole := unopened.whole component
    exact .unrun here fresh ready (beside.now.trans unopened.instant) whole.1 whole.2
  · intro component _
    exact unopened.whole component
  · intro settled
    obtain ⟨stop, here, -, fresh⟩ := starts .producer (by decide)
    have runs := settled .producer (by decide)
    rw [isOver_eq here, fresh] at runs
    exact absurd runs Bool.false_ne_true

end ClusterGateway.World
