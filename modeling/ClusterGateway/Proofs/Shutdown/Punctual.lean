import ClusterGateway.Proofs.Shutdown.Timetables

/-!
# Stop tasks keep to the timetable

A stop task takes its component away at the instant at which the shutdown began, announces that it
is being stopped, and announces that it has stopped when the time of its stop is over; the last of
them to end leaves its shutdown ready to go on. Nothing else than the shutdown and its stop tasks
touches what the timetable says of a gateway. Main statements: `elsewhere_apply`,
`ClosingDown.resume_stop`.
-/

namespace ClusterGateway.World

variable {world before between after : World} {me task other stop : TaskId} {site : SiteId}
  {found : Task} {move : Move} {table : Timetable} {component : Component} {profile last : Profile}
  {middle told : List (Nat × LifecycleEvent)} {events : List LifecycleEvent}
  {lane : Component → TaskId} {phase : ShutdownPhase}

/-- A move that runs no task which shuts a gateway down leaves its profile alone. -/
theorem profile?_apply (sound : world.Sound)
    (foreign : ∀ (task : TaskId) (found : Task), move = .resume task →
      world.tasks[task]? = some found → site ∉ found.purpose.tearsDown) :
    (world.apply move).profile? site = world.profile? site := by
  by_cases runs : ∃ task, move = .resume task
  · obtain ⟨task, rfl⟩ := runs
    cases there : world.tasks[task]? with
    | none =>
      show (world.resume task).profile? site = _
      rw [resume_absent there]
      rfl
    | some found =>
      have strokes := strokes_resume there (sound task found there).1
      have same := profile?_of_strokes strokes (foreign task found rfl there)
      exact same
  · have still : ∀ task, move ≠ .resume task := fun task same => runs ⟨task, same⟩
    rw [profile?, gateway?_apply world still, ← profile?]

/-- No stop task is a call that can be cancelled. -/
theorem not_isOwn_of_stop (free : world.isOpen move = true)
    (there : world.tasks[stop]? = some found)
    (stops : found.purpose = .stopComponent site component me)
    (foreign : ∀ (task : TaskId) (found : Task), move = .resume task →
      world.tasks[task]? = some found → site ∉ found.purpose.tearsDown) : ¬ move.IsOwn stop := by
  rintro (resumes | cancels)
  · refine foreign stop found resumes there ?_
    rw [stops]
    exact List.mem_singleton.mpr rfl
  · subst cancels
    obtain ⟨actor, purpose, stage⟩ := found
    have purpose_eq : purpose = .stopComponent site component me := stops
    subst purpose_eq
    simp [isOpen, isCall, there] at free

/-- A move of others happens elsewhere as far as the shutdown of a gateway is concerned. -/
theorem elsewhere_apply (sound : world.Sound) (free : world.isOpen move = true)
    (seen : world.profile? site = some profile)
    (foreign : ∀ (task : TaskId) (found : Task), move = .resume task →
      world.tasks[task]? = some found → site ∉ found.purpose.tearsDown)
    (unowned : move ≠ .resume me) : Elsewhere me site world (world.apply move) where
  seen := profile?_apply sound foreign
  delays := delays_apply sound seen move
  born task found component there stops := by
    obtain born | earlier := born_or_kept sound free there
    · have stopping : found.purpose.StopsFor me := ⟨site, component, stops⟩
      exact absurd (born.stopsFor stopping).1 unowned
    · exact earlier
  stops task found component there stops := by
    have teardown : found.purpose.IsTeardown := by
      rw [stops]
      trivial
    exact leftAlone_apply sound free there teardown (not_isOwn_of_stop free there stops foreign)

/-- Nothing happens. -/
theorem LeftAlone.refl (task : TaskId) (world : World) : LeftAlone task world world where
  now := Nat.le_refl _
  there _ here := here
  ready waits := ⟨waits, rfl⟩
  awaits _ awaits := awaits

/-- One thing after the other. -/
theorem LeftAlone.trans (first : LeftAlone task before between)
    (second : LeftAlone task between after) : LeftAlone task before after where
  now := Nat.le_trans first.now second.now
  there found here := second.there found (first.there found here)
  ready waits := by
    obtain ⟨early, same⟩ := first.ready waits
    obtain ⟨late, still⟩ := second.ready early
    exact ⟨late, still.trans same⟩
  awaits due awaits := second.awaits due (first.awaits due awaits)

/-- What stands still in time spares a task whose turn and whose timers stay. -/
theorem leftAlone_of_still (now : after.now = before.now)
    (there : ∀ found, before.tasks[task]? = some found → after.tasks[task]? = some found)
    (ready : task ∈ before.ready → task ∈ after.ready)
    (timers : ∀ due, ⟨due, task⟩ ∈ before.timers → ⟨due, task⟩ ∈ after.timers) :
    LeftAlone task before after where
  now := Nat.le_of_eq now.symm
  there := there
  ready waits := ⟨ready waits, now⟩
  awaits due awaits := by
    obtain ⟨early, set⟩ | ⟨same, waits⟩ := awaits
    · exact .inl ⟨by rw [now]; exact early, timers due set⟩
    · exact .inr ⟨now.trans same, ready waits⟩

/-- What happens beside the tasks spares them. -/
theorem Beside.leftAlone (beside : Beside before after) (task : TaskId) :
    LeftAlone task before after := by
  refine leftAlone_of_still beside.now (fun found here => ?_) (fun waits => ?_) fun due set => ?_
  · rw [beside.tasks]
    exact here
  · rw [beside.ready]
    exact waits
  · rw [beside.timers]
    exact set

/-- Another task leaves the line. -/
theorem leftAlone_taken (differ : task ≠ other) :
    LeftAlone task world { world with ready := world.ready.erase other } :=
  leftAlone_of_still rfl (fun _ here => here) (fun waits => (List.mem_erase_of_ne differ).mpr waits)
    fun _ set => set

/-- Some task is woken. -/
theorem leftAlone_wake (world : World) (task other : TaskId) :
    LeftAlone task world (world.wake other) := by
  obtain ⟨ready, same⟩ := world.exists_wake other
  refine leftAlone_of_still ?_ (fun found here => ?_) (mem_ready_wake world other) fun due set => ?_
  · rw [same]
  · rw [same]
    exact here
  · rw [same]
    exact set

/-- Another task ends. -/
theorem leftAlone_finish (differ : task ≠ other) (outcome : Outcome) :
    LeftAlone task world (world.finish other outcome) := by
  refine leftAlone_of_still rfl (fun found here => ?_) (fun waits => waits) fun due set => ?_
  · rw [getElem?_finish, if_neg (Ne.symm differ)]
    exact here
  · exact List.mem_filter.mpr ⟨set, by simpa using differ⟩

/-- Another task waits elsewhere. -/
theorem leftAlone_setStage (differ : task ≠ other) (stage : Stage) :
    LeftAlone task world (world.setStage other stage) := by
  refine leftAlone_of_still rfl (fun found here => ?_) (fun waits => waits) fun due set => set
  rw [getElem?_setStage, if_neg (Ne.symm differ)]
  exact here

/-- A timer is set. -/
theorem leftAlone_setTimer (world : World) (task other : TaskId) (due : Nat) :
    LeftAlone task world (world.setTimer other due) :=
  leftAlone_of_still rfl (fun _ here => here) (fun waits => waits)
    fun _ set => List.mem_append_left _ set

/-- The events that tell of a component, when they are told at one time. -/
theorem filter_tells_own (now : Nat)
    (about : ∀ event ∈ events, ∃ first second, event = .stateChanged component.name first second) :
    (events.map (Prod.mk now)).filter (tells component) = events.map (Prod.mk now) := by
  rw [List.filter_eq_self]
  intro entry member
  obtain ⟨event, there, rfl⟩ := List.mem_map.mp member
  obtain ⟨first, second, rfl⟩ := about event there
  rw [tells_stateChanged]
  exact decide_eq_true rfl

/-- Events that tell of one component tell of no other. -/
theorem filter_tells_other {another : Component} (now : Nat)
    (about : ∀ event ∈ events, ∃ first second, event = .stateChanged component.name first second)
    (differ : another ≠ component) :
    (events.map (Prod.mk now)).filter (tells another) = [] := by
  rw [List.filter_eq_nil_iff]
  intro entry member
  obtain ⟨event, there, rfl⟩ := List.mem_map.mp member
  obtain ⟨first, second, rfl⟩ := about event there
  rw [tells_stateChanged, decide_eq_true_eq]
  exact Ne.symm differ

/-- A stop task that ends is over and spares all other tasks, and its shutdown is ready. -/
structure StopEnds (stop parent : TaskId) (world after : World) : Prop where
  now : after.now = world.now
  settled : after.isOver stop = true
  woken : parent ∈ after.ready
  others : ∀ task, task ≠ stop → LeftAlone task world after

/-- What a stop task does when it has announced the end of its component. -/
theorem Beside.stopEnds (beside : Beside { world with ready := world.ready.erase stop } between)
    (mine : world.tasks[stop]? = some found) (outcome : Outcome) (parent : TaskId) :
    StopEnds stop parent world ((between.finish stop outcome).wake parent) := by
  have here : between.tasks[stop]? = some found := by
    rw [beside.tasks]
    exact mine
  obtain ⟨ready, same⟩ := (between.finish stop outcome).exists_wake parent
  refine ⟨?_, ?_, mem_ready_wake_self _ parent, fun task differ => ?_⟩
  · rw [same]
    exact beside.now
  · have ended : (between.finish stop outcome).tasks[stop]? =
        some { found with stage := .ended outcome } := by
      rw [getElem?_finish, if_pos rfl, here]
      rfl
    rw [same]
    exact isOver_eq ended
  · have taken : LeftAlone task world { world with ready := world.ready.erase stop } :=
      leftAlone_taken differ
    have finished : LeftAlone task between (between.finish stop outcome) :=
      leftAlone_finish differ outcome
    exact ((taken.trans (beside.leftAlone task)).trans finished).trans
      (leftAlone_wake _ task parent)

/-- What is seen of a gateway stays when a task ends and another is woken. -/
theorem profile?_ends (outcome : Outcome) (parent : TaskId) (site : SiteId) :
    ((between.finish stop outcome).wake parent).profile? site = between.profile? site := by
  obtain ⟨ready, same⟩ := (between.finish stop outcome).exists_wake parent
  rw [same]
  rfl

/-- What the step of the stop task of a component does: it changes what is seen of this component,
and announces events of it. Its shutdown is ready when it ends. -/
structure StopStep (world : World) (table : Timetable) (site : SiteId) (component : Component)
    (stop parent : TaskId) (profile last : Profile) (told : List (Nat × LifecycleEvent))
    (events : List LifecycleEvent) : Prop where
  seen : (world.resume stop).profile? site = some last
  journal : last.journal = profile.journal ++ events
  same : ∀ other, other ≠ component →
    last.holds other = profile.holds other ∧ last.state? other = profile.state? other
  about : ∀ event ∈ events, ∃ first second, event = .stateChanged component.name first second
  others : ∀ task, task ≠ stop → LeftAlone task world (world.resume stop)
  course : (world.resume stop).StopCourse table component stop last
    (told ++ events.map (Prod.mk world.now))
  wakes : world.isOver stop = false → (world.resume stop).isOver stop = true →
    parent ∈ (world.resume stop).ready

/-- A stop task that runs first begins the stop of its component. -/
theorem resume_fresh_stop {place : Site} (mine : world.tasks[stop]? = some found)
    (stops : found.purpose = .stopComponent site component me) (fresh : found.stage = .fresh)
    (there : world.sites[site]? = some place) :
    world.resume stop = ({ world with ready := world.ready.erase stop } : World).beginComponentStop
      stop found.actor site place component me := by
  rw [resume_eq mine]
  simp only [proceed, fresh, stops, start, there]

/-- A stop task that sleeps goes on when its time has come. -/
theorem resume_sleeping_stop {due : Nat} (mine : world.tasks[stop]? = some found)
    (stops : found.purpose = .stopComponent site component me)
    (sleeps : found.stage = .sleeping due) :
    world.resume stop = if due ≤ world.now then
        ({ world with ready := world.ready.erase stop } : World).endComponentStop stop found.actor
          site component me
      else { world with ready := world.ready.erase stop } := by
  rw [resume_eq mine]
  simp only [proceed, sleeps, stops, awaken]

/-- A task that is over does nothing more. -/
theorem resume_of_over (mine : world.tasks[stop]? = some found)
    (settled : world.isOver stop = true) :
    world.resume stop = { world with ready := world.ready.erase stop } := by
  obtain ⟨outcome, ended⟩ := exists_outcome mine settled
  rw [resume_eq mine]
  simp only [proceed, ended]

/-- A stop task that only leaves the line stays where it is. -/
theorem StopCourse.idle (course : world.StopCourse table component stop profile told)
    (seen : world.profile? site = some profile)
    (resumes : world.resume stop = { world with ready := world.ready.erase stop })
    (waits : world.isOver stop = true ∨
      ({ world with ready := world.ready.erase stop } : World).StopCourse table component stop
        profile told) :
    world.StopStep table site component stop me profile profile told [] := by
  refine ⟨?_, (List.append_nil _).symm, fun _ _ => ⟨rfl, rfl⟩, nofun, fun task differ => ?_, ?_, ?_⟩
  · rw [resumes]
    exact seen
  · rw [resumes]
    exact leftAlone_taken differ
  · rw [resumes, List.map_nil, List.append_nil]
    obtain settled | still := waits
    · obtain ⟨complete, late⟩ := course.of_over settled
      rw [complete]
      exact .stopped settled late
    · exact still
  · intro runs settled
    rw [resumes] at settled
    exact absurd (settled.symm.trans runs) (by decide)

/-- A stop task that ends has announced all that there is to announce of its component. -/
theorem stopStep_ends (mine : world.tasks[stop]? = some found)
    (beside : Beside { world with ready := world.ready.erase stop } between)
    (seen : between.profile? site = some last)
    (resumes : world.resume stop = (between.finish stop (.returned (.ok .done))).wake me)
    (journal : last.journal = profile.journal ++ events)
    (same : ∀ other, other ≠ component →
      last.holds other = profile.holds other ∧ last.state? other = profile.state? other)
    (about : ∀ event ∈ events, ∃ first second, event = .stateChanged component.name first second)
    (complete : told ++ events.map (Prod.mk world.now) = table.course component)
    (late : table.begun + table.delay component ≤ world.now) :
    world.StopStep table site component stop me profile last told events := by
  have ends := beside.stopEnds mine (.returned (.ok .done)) me
  rw [← resumes] at ends
  refine ⟨?_, journal, same, about, ends.others, ?_, fun _ _ => ends.woken⟩
  · rw [resumes, profile?_ends]
    exact seen
  · rw [complete]
    refine .stopped ends.settled ?_
    rw [ends.now]
    exact late

/-- A stop task that goes to sleep has announced that its component is being stopped. -/
theorem stopStep_sleeps {due : Nat} (mine : world.tasks[stop]? = some found)
    (beside : Beside { world with ready := world.ready.erase stop } between)
    (seen : between.profile? site = some last)
    (resumes : world.resume stop = (between.setTimer stop due).setStage stop (.sleeping due))
    (journal : last.journal = profile.journal ++ events)
    (same : ∀ other, other ≠ component →
      last.holds other = profile.holds other ∧ last.state? other = profile.state? other)
    (about : ∀ event ∈ events, ∃ first second, event = .stateChanged component.name first second)
    (state : last.state? component = some .stopping) (early : world.now < due)
    (planned : due = table.begun + table.delay component)
    (begun : told ++ events.map (Prod.mk world.now) = (table.course component).take 1) :
    world.StopStep table site component stop me profile last told events := by
  have sleeps : (world.resume stop).tasks[stop]? = some { found with stage := .sleeping due } := by
    have here : between.tasks[stop]? = some found := by
      rw [beside.tasks]
      exact mine
    rw [resumes, getElem?_setStage]
    show (if stop = stop then Option.map _ between.tasks[stop]? else _) = _
    rw [if_pos rfl, here]
    rfl
  refine ⟨?_, journal, same, about, fun task differ => ?_, ?_, fun _ settled => ?_⟩
  · rw [resumes]
    exact seen
  · rw [resumes]
    have taken : LeftAlone task world { world with ready := world.ready.erase stop } :=
      leftAlone_taken differ
    have started := taken.trans (beside.leftAlone task)
    exact (started.trans (leftAlone_setTimer _ task stop due)).trans (leftAlone_setStage differ _)
  · rw [begun]
    refine .stopping sleeps (congrArg Stage.sleeping planned) ?_ state
    rw [← planned, resumes]
    have later : between.now < due := by
      rw [beside.now]
      exact early
    exact awaits_setTimer later
  · rw [isOver_eq sleeps] at settled
    exact absurd settled Bool.false_ne_true

/-- A stop that takes no time is over as soon as it has begun. -/
theorem stopStep_whole {taken : World} (mine : world.tasks[stop]? = some found)
    (beside : Beside { world with ready := world.ready.erase stop } taken)
    (takes : taken.profile? site = some ((profile.release component).enter component .stopping))
    (resumes : world.resume stop = taken.endComponentStop stop found.actor site component me)
    (running : profile.state? component = some .running) (instant : world.now = table.begun)
    (immediate : table.delay component = 0) :
    ∃ last events, world.StopStep table site component stop me profile last [] events := by
  obtain ⟨ended, later, ends, form⟩ := endComponentStop_seen takes stop found.actor component me
  have told := Profile.journal_wholeStop running
  refine ⟨_, _, stopStep_ends mine (beside.trans later) ends (resumes.trans form) told ?_ ?_ ?_ ?_⟩
  · intro other differ
    rw [Profile.state?_enter_of_ne differ]
    exact Profile.beginStop_of_ne differ
  · intro event member
    obtain rfl | rfl : event = _ ∨ event = _ := by simpa using member
    · exact ⟨.running, .stopping, rfl⟩
    · exact ⟨.stopping, .stopped, rfl⟩
  · rw [Timetable.course, immediate, instant]
    rfl
  · rw [immediate, instant]
    exact Nat.le_refl _

/-- A stop that takes some time sleeps when it has begun. -/
theorem stopStep_begins {taken : World} (mine : world.tasks[stop]? = some found)
    (beside : Beside { world with ready := world.ready.erase stop } taken)
    (takes : taken.profile? site = some ((profile.release component).enter component .stopping))
    (resumes : world.resume stop = (taken.setTimer stop
      (world.now + table.delay component)).setStage stop
        (.sleeping (world.now + table.delay component)))
    (running : profile.state? component = some .running) (instant : world.now = table.begun)
    (delayed : table.delay component ≠ 0) :
    ∃ last events, world.StopStep table site component stop me profile last [] events := by
  refine ⟨_, _, stopStep_sleeps mine beside takes resumes (Profile.journal_beginStop running)
    (fun other differ => Profile.beginStop_of_ne differ) ?_ Profile.state?_enter_self ?_ ?_ ?_⟩
  · intro event member
    exact ⟨.running, .stopping, List.mem_singleton.mp member⟩
  · exact Nat.lt_add_of_pos_right (Nat.pos_of_ne_zero delayed)
  · rw [instant]
  · rw [instant]
    rfl

/-- A stop task that has not run keeps to the timetable in its step. -/
theorem stopStep_unrun (sturdy : world.script.stopFaults = [])
    (seen : world.profile? site = some profile) (delays : world.delays site = table.delay)
    (mine : world.tasks[stop]? = some found)
    (stops : found.purpose = .stopComponent site component me) (fresh : found.stage = .fresh)
    (instant : world.now = table.begun) (held : profile.holds component = true)
    (running : profile.state? component = some .running) :
    ∃ last events, world.StopStep table site component stop me profile last [] events := by
  obtain ⟨place, there, shown⟩ := exists_site_of_profile? seen
  have duration : world.script.stopDelay place.gateway.task.text component =
      table.delay component := by
    rw [← delays, World.delays, there]
    rfl
  have holds : place.gateway.holds component = true := by
    rw [← held, ← shown]
    rfl
  have begins := resume_fresh_stop mine stops fresh there
  have firm : ({ world with ready := world.ready.erase stop } : World).script.stopFaults = [] :=
    sturdy
  obtain ⟨taken, beside, takes, form⟩ :=
    beginComponentStop_seen firm there holds stop found.actor me
  rw [shown] at takes
  rw [duration] at form
  have resumes := begins.trans form
  by_cases immediate : table.delay component = 0
  · rw [if_pos immediate] at resumes
    exact stopStep_whole mine beside takes resumes running instant immediate
  · rw [if_neg immediate] at resumes
    exact stopStep_begins mine beside takes resumes running instant immediate

/-- A stop task that sleeps keeps to the timetable in its step. -/
theorem stopStep_stopping (seen : world.profile? site = some profile)
    (mine : world.tasks[stop]? = some found)
    (stops : found.purpose = .stopComponent site component me)
    (sleeps : found.stage = .sleeping (table.begun + table.delay component))
    (awaits : world.AwaitsTime (stop ∈ world.ready) stop (table.begun + table.delay component))
    (state : profile.state? component = some .stopping) :
    ∃ last events, world.StopStep table site component stop me profile last
      ((table.course component).take 1) events := by
  have course : world.StopCourse table component stop profile ((table.course component).take 1) :=
    .stopping mine sleeps awaits state
  have resumes := resume_sleeping_stop mine stops sleeps
  by_cases late : table.begun + table.delay component ≤ world.now
  · rw [if_pos late] at resumes
    have here : ({ world with ready := world.ready.erase stop } : World).profile? site =
        some profile := seen
    obtain ⟨ended, beside, ends, form⟩ := endComponentStop_seen here stop found.actor component me
    have now : world.now = table.begun + table.delay component := Nat.le_antisymm awaits.le late
    refine ⟨_, _, stopStep_ends mine beside ends (resumes.trans form) (Profile.journal_enter state)
      ?_ ?_ ?_ late⟩
    · exact fun other differ => Profile.enter_of_ne differ
    · intro event member
      exact ⟨.stopping, .stopped, List.mem_singleton.mp member⟩
    · rw [now]
      rfl
  · rw [if_neg late] at resumes
    obtain waits | ⟨due, -⟩ := awaits
    · exact ⟨profile, [],
        course.idle seen resumes (.inr (.stopping mine sleeps (.inl waits) state))⟩
    · exact absurd (Nat.le_of_eq due.symm) late

/-- A stop task keeps to the timetable in its step. -/
theorem StopCourse.resume (course : world.StopCourse table component stop profile told)
    (sturdy : world.script.stopFaults = []) (seen : world.profile? site = some profile)
    (delays : world.delays site = table.delay) (mine : world.tasks[stop]? = some found)
    (stops : found.purpose = .stopComponent site component me) :
    ∃ last events, world.StopStep table site component stop me profile last told events := by
  by_cases settled : world.isOver stop = true
  · exact ⟨profile, [], course.idle seen (resume_of_over mine settled) (.inl settled)⟩
  · cases course with
    | unrun there fresh ready instant held running =>
      obtain rfl := Option.some.inj (mine.symm.trans there)
      exact stopStep_unrun sturdy seen delays mine stops fresh instant held running
    | stopping there sleeps awaits state =>
      obtain rfl := Option.some.inj (mine.symm.trans there)
      exact stopStep_stopping seen mine stops sleeps awaits state
    | stopped over_now => exact absurd over_now settled

/-- The stop tasks of different components are different. -/
theorem ClosingDown.lane_ne {woken : Prop} {another : Component}
    (underway : world.ClosingDown woken me table site lane profile middle phase)
    (serving : component ∈ Component.serving) (also : another ∈ Component.serving)
    (differ : another ≠ component) : lane another ≠ lane component := by
  intro same
  obtain ⟨found, there, purpose⟩ := underway.lanes component serving
  obtain ⟨twin, here, twin_purpose⟩ := underway.lanes another also
  rw [same, there] at here
  obtain rfl : found = twin := Option.some.inj here
  rw [purpose] at twin_purpose
  exact differ (Purpose.stopComponent.inj twin_purpose).2.1.symm

/-- The shutdown of a gateway is underway after the step of a stop task if it keeps to its
timetable. -/
theorem ClosingDown.of_stopStep {woken later : Prop} (sound : world.Sound)
    (underway : world.ClosingDown woken me table site lane profile middle phase)
    (unowned : lane component ≠ me) (serving : component ∈ Component.serving)
    (ready : lane component ∈ world.ready)
    (step : world.StopStep table site component (lane component) me profile last
      (middle.filter (tells component)) events)
    (onTime : (∀ another ∈ Component.serving,
      (world.resume (lane component)).StopCourse table another (lane another) last
        ((middle ++ events.map (Prod.mk world.now)).filter (tells another))) →
          (world.resume (lane component)).OnTime later me table lane last phase) :
    (world.resume (lane component)).ClosingDown later me table site lane last
      (middle ++ events.map (Prod.mk world.now)) phase := by
  have free : world.isOpen (.resume (lane component)) = true := by
    simpa [isOpen] using ready
  have stops : ∀ another ∈ Component.serving,
      (world.resume (lane component)).StopCourse table another (lane another) last
        ((middle ++ events.map (Prod.mk world.now)).filter (tells another)) := by
    intro another also
    rw [List.filter_append]
    by_cases same : another = component
    · rw [same, filter_tells_own world.now step.about]
      exact step.course
    · rw [filter_tells_other world.now step.about same, List.append_nil]
      obtain ⟨found, there, -⟩ := underway.lanes another also
      have spared := step.others (lane another) (underway.lane_ne serving also same)
      exact (underway.stops another also).leftAlone there spared (step.same another same).1
        (step.same another same).2
  refine ⟨step.seen, ?_, ?_, ?_, stops, ?_, onTime stops⟩
  · have same := delays_apply sound underway.seen (.resume (lane component))
    exact same.trans underway.delays
  · intro another also
    obtain ⟨found, there, purpose⟩ := underway.lanes another also
    obtain ⟨stage, kept, -⟩ := kept_apply sound (.resume (lane component)) there
    exact ⟨_, kept, purpose⟩
  · intro task found another there purpose
    obtain born | ⟨earlier, here, same⟩ := born_or_kept sound free there
    · have stopping : found.purpose.StopsFor me := ⟨site, another, purpose⟩
      exact absurd (Move.resume.inj (born.stopsFor stopping).1) unowned
    · exact underway.only task earlier another here (same.trans purpose)
  · intro entry member
    obtain old | new := List.mem_append.mp member
    · exact underway.serving entry old
    · obtain ⟨event, there, rfl⟩ := List.mem_map.mp new
      obtain ⟨first, second, rfl⟩ := step.about event there
      refine ⟨component, serving, ?_⟩
      rw [tells_stateChanged]
      exact decide_eq_true rfl

/-- A shutdown waits for its stop tasks as long as one of them runs. -/
theorem OnTime.phase_of_runs {woken : Prop}
    (onTime : world.OnTime woken me table lane profile phase)
    (serving : component ∈ Component.serving) (runs : world.isOver (lane component) = false) :
    phase = .joining (Component.serving.map lane) := by
  have waits : ¬ ∀ another ∈ Component.serving, world.isOver (lane another) = true := by
    intro settled
    rw [settled component serving] at runs
    exact Bool.false_ne_true runs.symm
  cases onTime with
  | joining => rfl
  | offsets settled => exact absurd settled waits
  | client settled => exact absurd settled waits
  | finished settled => exact absurd settled waits

/-- A shutdown goes on when the last of its stop tasks has ended. -/
theorem OnTime.stop_runs {woken later : Prop} {shown : Component → List (Nat × LifecycleEvent)}
    (onTime : world.OnTime woken me table lane profile (.joining (Component.serving.map lane)))
    (serving : component ∈ Component.serving)
    (early : world.now ≤ table.begun + table.delay component) (still : after.now = world.now)
    (same : ∀ other, other ≠ component →
      last.holds other = profile.holds other ∧ last.state? other = profile.state? other)
    (stops : ∀ another ∈ Component.serving,
      after.StopCourse table another (lane another) last (shown another))
    (wakes : after.isOver (lane component) = true → later) :
    after.OnTime later me table lane last (.joining (Component.serving.map lane)) := by
  cases onTime with
  | joining whole joins =>
    refine .joining ?_ fun settled => ?_
    · intro another closing
      have apart : another ≠ component := by
        rintro rfl
        revert serving closing
        cases another <;> decide
      rw [(same another apart).1, (same another apart).2]
      exact whole another closing
    · have times : table.joined ≤ after.now := table.joined_le fun another also =>
        ((stops another also).of_over (settled another also)).2
      have most := table.le_joined serving
      refine ⟨?_, wakes (settled component serving)⟩
      omega

/-- The shutdown of a gateway keeps to its timetable in the step of a stop task, which announces
what the timetable says. -/
theorem ClosingDown.resume_stop (sound : world.Sound) (sturdy : world.script.stopFaults = [])
    (underway : world.ClosingDown (me ∈ world.ready) me table site lane profile middle phase)
    (unowned : lane component ≠ me) (serving : component ∈ Component.serving)
    (ready : lane component ∈ world.ready) :
    ∃ last events, last.journal = profile.journal ++ events ∧
      (events = [] ∨ table.closing phase = []) ∧
      (world.resume (lane component)).ClosingDown (me ∈ (world.resume (lane component)).ready) me
        table site lane last (middle ++ events.map (Prod.mk world.now)) phase := by
  obtain ⟨found, mine, purpose⟩ := underway.lanes component serving
  have course := underway.stops component serving
  by_cases settled : world.isOver (lane component) = true
  · have resumes := resume_of_over mine settled
    have step : world.StopStep table site component (lane component) me profile profile
        (middle.filter (tells component)) [] :=
      course.idle underway.seen resumes (.inl settled)
    refine ⟨profile, [], step.journal, .inl rfl,
      underway.of_stopStep sound unowned serving ready step ?_⟩
    intro _
    have spared := step.others me (Ne.symm unowned)
    refine underway.onTime.elsewhere ?_ (fun _ => spared.awaits) spared.ready spared.now
    intro another _
    rw [resumes]
    rfl
  · have runs : world.isOver (lane component) = false := by simpa using settled
    obtain ⟨last, events, step⟩ :=
      course.resume sturdy underway.seen underway.delays mine purpose
    have free : world.isOpen (.resume (lane component)) = true := by
      simpa [isOpen] using ready
    have still : (world.resume (lane component)).now = world.now :=
      now_apply_of_ready sound free ready
    have onTime := underway.onTime
    obtain rfl := onTime.phase_of_runs serving runs
    refine ⟨last, events, step.journal, .inr rfl,
      underway.of_stopStep sound unowned serving ready step fun stops => ?_⟩
    exact onTime.stop_runs serving (course.le_of_runs runs) still step.same stops (step.wakes runs)

end ClusterGateway.World
