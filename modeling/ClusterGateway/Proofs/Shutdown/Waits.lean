import ClusterGateway.Proofs.Shutdown.Advances
import ClusterGateway.Proofs.World.Waking

/-!
# What a shutdown waits for comes

Every shutdown and every stop task that is not over is ready, or has a timer set, or, if it is
a shutdown, waits for a stop task that is not over and will wake it (`Wakeful`). All open
moves keep this, whoever makes calls and cancels them. So no shutdown is ever stuck: when
no task is ready and no timer is set, all of them are over. Main statement:
`over_of_still`.
-/

namespace ClusterGateway

/-- Tasks of a purpose shut gateways down, or stop a component for a task that does. -/
def Purpose.IsTeardown : Purpose → Prop
  | .request _ .stop => True
  | .stopComponent _ _ _ => True
  | .shutdown _ _ => True
  | _ => False

/-- Tasks of a purpose stop a component for a shutdown. -/
def Purpose.StopsFor (purpose : Purpose) (parent : TaskId) : Prop :=
  ∃ site component, purpose = .stopComponent site component parent

namespace World

variable {start world before after : World} {me task : TaskId} {actor : Option String}
  {found running : Task} {phase later : ShutdownPhase} {move : Move}

/-- A timer of a task is set for a time to come, or the time has come and the task is ready. -/
def Alarmed (world : World) (task : TaskId) (due : Nat) : Prop :=
  world.now < due ∧ ⟨due, task⟩ ∈ world.timers ∨ due ≤ world.now ∧ task ∈ world.ready

/-- All tasks of a list stop a component for a shutdown. -/
def AllStop (world : World) (task : TaskId) (stops : List TaskId) : Prop :=
  ∀ stop ∈ stops, ∃ found, world.tasks[stop]? = some found ∧ found.purpose.StopsFor task

/-- All tasks of a list stop a component of one gateway for a shutdown. -/
def StopsAt (world : World) (site : SiteId) (task : TaskId) (stops : List TaskId) : Prop :=
  ∀ stop ∈ stops, ∃ found component, world.tasks[stop]? = some found ∧
    found.purpose = .stopComponent site component task

/-- What a shutdown task waits for in the phase of one gateway will wake it. -/
def WillAdvance (world : World) (task : TaskId) : ShutdownPhase → Prop
  | .opening => False
  | .joining stops => world.AllStop task stops ∧
      ((∃ stop ∈ stops, world.isOver stop = false) ∨ task ∈ world.ready)
  | .stoppingOffsets due => world.Alarmed task due
  | .closingClient due => world.Alarmed task due
  | .finished => True
  | .broken => False

/-- What a task waits for in a stage will wake it. -/
def WillWake (world : World) (task : TaskId) : Stage → Prop
  | .fresh => task ∈ world.ready
  | .sleeping due => world.Alarmed task due
  | .shuttingDown parts => (∃ part ∈ parts, part.phase ≠ .finished) ∧
      ∀ part ∈ parts, world.WillAdvance task part.phase
  | _ => True

/-- Every shutdown and every stop task will be woken until it is over. -/
def Wakeful (world : World) : Prop :=
  ∀ (task : TaskId) (found : Task), world.tasks[task]? = some found → found.purpose.IsTeardown →
    world.WillWake task found.stage

/-- A shutdown task that runs finds what it needs to go on in the phase of one gateway. -/
def MayGo (world : World) (task : TaskId) : ShutdownPhase → Prop
  | .opening => True
  | .joining stops => world.AllStop task stops
  | .stoppingOffsets due => world.now < due → ⟨due, task⟩ ∈ world.timers
  | .closingClient due => world.now < due → ⟨due, task⟩ ∈ world.timers
  | .finished => True
  | .broken => False

/-- A shutdown task that has run waits for something in the phase of one gateway. -/
def Held (world : World) (task : TaskId) : ShutdownPhase → Prop
  | .opening => False
  | .joining stops => world.AllStop task stops ∧ ∃ stop ∈ stops, world.isOver stop = false
  | .stoppingOffsets due => world.now < due ∧ ⟨due, task⟩ ∈ world.timers
  | .closingClient due => world.now < due ∧ ⟨due, task⟩ ∈ world.timers
  | .finished => True
  | .broken => False

/-- Tasks and timers are added, and none goes. -/
structure Grows (before after : World) : Prop where
  now : after.now = before.now
  tasks : ∀ (task : TaskId) (found : Task), before.tasks[task]? = some found →
    after.tasks[task]? = some found
  timers : ∀ timer ∈ before.timers, timer ∈ after.timers

/-- Nothing is added. -/
theorem Grows.refl (world : World) : Grows world world :=
  ⟨rfl, fun _ _ there => there, fun _ set => set⟩

/-- More is added. -/
theorem Grows.trans {between : World} (first : Grows before between)
    (second : Grows between after) : Grows before after where
  now := second.now.trans first.now
  tasks := fun task found there => second.tasks task found (first.tasks task found there)
  timers := fun timer set => second.timers timer (first.timers timer set)

/-- Nothing is added to the tasks and the timers beside them. -/
theorem Beside.grows (beside : Beside before after) : Grows before after :=
  ⟨beside.now, fun _ _ there => by rw [beside.tasks]; exact there,
    fun _ set => by rw [beside.timers]; exact set⟩

/-- A timer is added. -/
theorem grows_setTimer (world : World) (task : TaskId) (due : Nat) :
    Grows world (world.setTimer task due) :=
  ⟨rfl, fun _ _ there => there, fun _ set => List.mem_append_left _ set⟩

/-- Stop tasks are added. -/
theorem grows_spawnStops (world : World) (parent : TaskId) (site : SiteId) (path : TaskPath)
    (components : List Component) :
    Grows world (world.spawnStops parent site path components).1 where
  now := by
    induction components generalizing world with
    | nil => rfl
    | cons component rest ih => exact ih _
  tasks := fun _ _ there => spawnStops_old parent path components there
  timers := by
    induction components generalizing world with
    | nil => exact fun timer set => set
    | cons component rest ih =>
      exact ih (world.spawn (some (path.child component.stopTaskName).text)
        (.stopComponent site component parent)).1

/-- The tasks that were started to stop components are stop tasks of their gateway. -/
theorem stopsAt_spawnStops (world : World) (parent : TaskId) (site : SiteId) (path : TaskPath)
    (components : List Component) :
    (world.spawnStops parent site path components).1.StopsAt site parent
      (world.spawnStops parent site path components).2 := by
  induction components generalizing world with
  | nil => exact fun stop there => absurd there List.not_mem_nil
  | cons component rest ih =>
    intro stop there
    obtain rfl | later := List.mem_cons.mp there
    · exact ⟨_, component, spawnStops_old parent path rest (getElem?_spawn_self world _ _), rfl⟩
    · exact ih _ stop later

/-- Stop tasks of one gateway are stop tasks. -/
theorem StopsAt.allStop {site : SiteId} {stops : List TaskId}
    (all : world.StopsAt site task stops) : world.AllStop task stops := by
  intro stop there
  obtain ⟨found, component, here, stopping⟩ := all stop there
  exact ⟨found, here, site, component, stopping⟩

/-- Stop tasks of a gateway stay so. -/
theorem StopsAt.grows {site : SiteId} {stops : List TaskId}
    (all : before.StopsAt site task stops) (grows : Grows before after) :
    after.StopsAt site task stops := by
  intro stop there
  obtain ⟨found, component, here, stopping⟩ := all stop there
  exact ⟨found, component, grows.tasks stop found here, stopping⟩

/-- Stop tasks stay stop tasks. -/
theorem AllStop.grows {stops : List TaskId} (all : before.AllStop task stops)
    (grows : Grows before after) : after.AllStop task stops := by
  intro stop there
  obtain ⟨found, here, stopping⟩ := all stop there
  exact ⟨found, grows.tasks stop found here, stopping⟩

/-- A stop task that is not over stays so. -/
theorem isOver_grows (there : before.tasks[task]? = some found) (grows : Grows before after) :
    after.isOver task = before.isOver task := by
  unfold isOver
  rw [there, grows.tasks task found there]

/-- A shutdown finds what it needs as well after tasks and timers were added. -/
theorem MayGo.grows (goes : before.MayGo task phase) (grows : Grows before after) :
    after.MayGo task phase := by
  cases phase with
  | joining stops => exact AllStop.grows goes grows
  | stoppingOffsets due =>
    intro early
    exact grows.timers _ (goes (grows.now ▸ early))
  | closingClient due =>
    intro early
    exact grows.timers _ (goes (grows.now ▸ early))
  | _ => exact goes

/-- A shutdown waits as well after tasks and timers were added. -/
theorem Held.grows (held : before.Held task phase) (grows : Grows before after) :
    after.Held task phase := by
  cases phase with
  | joining stops =>
    obtain ⟨all, stop, there, runs⟩ := held
    obtain ⟨found, here, -⟩ := all stop there
    exact ⟨all.grows grows, stop, there, (isOver_grows here grows).trans runs⟩
  | stoppingOffsets due => exact ⟨grows.now ▸ held.1, grows.timers _ held.2⟩
  | closingClient due => exact ⟨grows.now ▸ held.1, grows.timers _ held.2⟩
  | _ => exact held

/-- A shutdown of a gateway adds tasks and timers. -/
theorem Advance.grows (advance : Advance me before phase after later) : Grows before after := by
  cases advance with
  | stays => exact .refl before
  | opens beside site path => exact beside.grows.trans (grows_spawnStops _ me site path _)
  | offsets beside => exact beside.grows.trans (grows_setTimer _ me _)
  | client early beside => exact beside.grows.trans (grows_setTimer _ me _)
  | finishes beside => exact beside.grows
  | breaks beside => exact beside.grows

/-- A shutdown of a gateway that finds what it needs waits for something, or has broken down. -/
theorem Advance.held (advance : Advance me before phase after later)
    (goes : before.MayGo me phase) : later = .broken ∨ after.Held me later := by
  cases advance with
  | stays pends =>
    right
    cases phase with
    | opening => exact pends
    | joining stops => exact ⟨goes, pends⟩
    | stoppingOffsets due => exact ⟨pends, goes pends⟩
    | closingClient due => exact ⟨pends, goes pends⟩
    | finished => trivial
    | broken => exact goes
  | @opens between beside site path =>
    right
    refine ⟨(stopsAt_spawnStops between me site path Component.serving).allStop, ?_⟩
    have serving : Component.producer ∈ Component.serving := by decide
    obtain ⟨stop, there, actor, fresh⟩ := spawnStops_all site me path serving between
    exact ⟨stop, there, by simp only [isOver, fresh]⟩
  | @offsets stops between due beside early =>
    right
    exact ⟨beside.now.symm ▸ early, List.mem_append_right _ (List.mem_singleton.mpr rfl)⟩
  | @client _ between due _ beside early =>
    right
    exact ⟨beside.now.symm ▸ early, List.mem_append_right _ (List.mem_singleton.mpr rfl)⟩
  | finishes => exact .inr trivial
  | breaks => exact .inl rfl

/-- A shutdown of several gateways adds tasks and timers. -/
theorem grows_advanceShutdowns (world : World) (me : TaskId) (actor : Option String)
    (parts : List Shutdown) : Grows world (world.advanceShutdowns me actor parts).1 := by
  induction parts generalizing world with
  | nil => exact .refl world
  | cons first rest ih => exact (advance_advanceShutdown world me actor first).grows.trans (ih _)

/-- A shutdown of several gateways that finds what it needs for each of them waits for something
at each of them, or has broken down there. -/
theorem held_advanceShutdowns (actor : Option String) (parts : List Shutdown)
    (goes : ∀ part ∈ parts, world.MayGo me part.phase) :
    ∀ part ∈ (world.advanceShutdowns me actor parts).2,
      part.phase = .broken ∨ (world.advanceShutdowns me actor parts).1.Held me part.phase := by
  induction parts generalizing world with
  | nil => exact fun part there => absurd there List.not_mem_nil
  | cons first rest ih =>
    have advance := advance_advanceShutdown world me actor first
    intro part there
    obtain rfl | late := List.mem_cons.mp there
    · have held := advance.held (goes first List.mem_cons_self)
      exact held.imp id fun holds => holds.grows (grows_advanceShutdowns _ me actor rest)
    · have still (part : Shutdown) (there : part ∈ rest) :
          (world.advanceShutdown me actor first).1.MayGo me part.phase :=
        (goes part (List.mem_cons_of_mem _ there)).grows advance.grows
      exact ih still part late

/-- What a shutdown waits for will wake it. -/
theorem Held.willAdvance (held : world.Held me phase) (parts : List Shutdown) :
    (world.setStage me (.shuttingDown parts)).WillAdvance me phase := by
  cases phase with
  | joining stops =>
    obtain ⟨all, stop, there, runs⟩ := held
    refine ⟨fun other member => ?_, .inl ⟨stop, there, ?_⟩⟩
    · obtain ⟨found, here, stopping⟩ := all other member
      rw [getElem?_setStage, here]
      split
      · exact ⟨_, rfl, stopping⟩
      · exact ⟨found, rfl, stopping⟩
    · obtain ⟨found, here, -⟩ := all stop there
      unfold isOver at runs ⊢
      rw [getElem?_setStage]
      by_cases mine : me = stop
      · simp only [mine, here, if_true, Option.map_some]
      · rw [if_neg mine]
        exact runs
  | stoppingOffsets due => exact .inl held
  | closingClient due => exact .inl held
  | _ => exact held

/-- A shutdown task that finds what it needs will be woken until it is over. -/
theorem willWake_continueShutdown (mine : world.tasks[me]? = some running)
    (actor : Option String) (logged : Bool) (parts : List Shutdown)
    (goes : ∀ part ∈ parts, world.MayGo me part.phase) :
    ∃ stage, (world.continueShutdown me actor logged parts).tasks[me]? =
        some { running with stage := stage } ∧
      (world.continueShutdown me actor logged parts).WillWake me stage := by
  have held := held_advanceShutdowns actor parts goes
  have still := (grows_advanceShutdowns world me actor parts).tasks me running mine
  unfold continueShutdown
  generalize world.advanceShutdowns me actor parts = result at still held ⊢
  obtain ⟨after, advanced⟩ := result
  dsimp only at still held ⊢
  have ended (ending : World) (tasks : ending.tasks = after.tasks) (outcome : Outcome) :
      ∃ stage, (ending.finish me outcome).tasks[me]? = some { running with stage := stage } ∧
        (ending.finish me outcome).WillWake me stage := by
    refine ⟨.ended outcome, ?_, trivial⟩
    rw [getElem?_finish, tasks, still]
    exact if_pos rfl
  split
  · exact ended after rfl .broken
  · rename_i unbroken
    split
    · split
      · exact ended _ rfl _
      · exact ended after rfl _
    · rename_i unfinished
      refine ⟨.shuttingDown advanced, ?_, ?_, fun part there => ?_⟩
      · rw [getElem?_setStage, still]
        exact if_pos rfl
      · simpa using unfinished
      · obtain broken | waits := held part there
        · refine absurd (List.any_eq_true.mpr ⟨part, there, ?_⟩) unbroken
          rw [broken]
          decide
        · exact waits.willAdvance advanced

/-- What a shutdown task waits for it finds when it runs. -/
theorem WillAdvance.mayGo (advances : world.WillAdvance task phase) (line : List TaskId) :
    ({ world with ready := line } : World).MayGo task phase := by
  have timer {due : Nat} (alarmed : world.Alarmed task due) (early : world.now < due) :
      ⟨due, task⟩ ∈ world.timers := by
    obtain ⟨-, set⟩ | ⟨late, -⟩ := alarmed
    · exact set
    · omega
  cases phase with
  | opening => trivial
  | joining stops => exact advances.1
  | stoppingOffsets due => exact timer advances
  | closingClient due => exact timer advances
  | finished => trivial
  | broken => exact advances

/-- A shutdown that runs goes on with its gateways, all of them at first. Only one that is over,
or whose gateway is missing, does not. -/
theorem resume_shutdown_forms (mine : world.tasks[me]? = some running)
    (fits : running.stage.Fits running.purpose) (teardown : running.purpose.IsTeardown)
    (whole : ∀ parent, ¬ running.purpose.StopsFor parent) {taken : World}
    (takes : { world with ready := world.ready.erase me } = taken) :
    (∃ outcome, running.stage = .ended outcome ∧ world.resume me = taken) ∨
    ((∃ site, running.purpose = .request site .stop ∧ world.sites[site]? = none) ∧
      running.stage = .fresh ∧ world.resume me = taken.finish me .broken) ∨
    ∃ logged parts, world.resume me = taken.continueShutdown me running.actor logged parts ∧
      (running.stage = .shuttingDown parts ∨ running.stage = .fresh ∧
        parts = running.purpose.shutsDown.map fun site => ⟨site, world.now, .opening⟩) := by
  rw [resume_eq mine, takes]
  have now : taken.now = world.now := by rw [← takes]
  obtain ⟨name, purpose, stage⟩ := running
  cases purpose with
  | request site request =>
    cases request with
    | stop =>
      cases stage with
      | fresh =>
        simp only [proceed, start]
        split
        · rename_i absent
          rw [← takes] at absent
          exact .inr (.inl ⟨⟨site, rfl, absent⟩, trivial, rfl⟩)
        · exact .inr (.inr ⟨false, _, rfl, .inr ⟨trivial, by rw [now]; rfl⟩⟩)
      | shuttingDown parts => exact .inr (.inr ⟨false, parts, rfl, .inl rfl⟩)
      | ended outcome => exact .inl ⟨outcome, rfl, rfl⟩
      | _ => exact fits.elim
    | _ => exact teardown.elim
  | shutdown sites logged =>
    cases stage with
    | fresh => exact .inr (.inr ⟨logged, _, rfl, .inr ⟨rfl, by rw [now]; rfl⟩⟩)
    | shuttingDown parts => exact .inr (.inr ⟨logged, parts, rfl, .inl rfl⟩)
    | ended outcome => exact .inl ⟨outcome, rfl, rfl⟩
    | _ => exact fits.elim
  | stopComponent site component parent => exact absurd ⟨site, component, rfl⟩ (whole parent)
  | _ => exact teardown.elim

/-- A shutdown that runs will be woken until it is over. -/
theorem willWake_shutdown (mine : world.tasks[me]? = some running)
    (fits : running.stage.Fits running.purpose) (teardown : running.purpose.IsTeardown)
    (whole : ∀ parent, ¬ running.purpose.StopsFor parent)
    (wakes : world.WillWake me running.stage) :
    ∃ stage, (world.resume me).tasks[me]? = some { running with stage := stage } ∧
      (world.resume me).WillWake me stage := by
  obtain ⟨outcome, ended, same⟩ | ⟨-, -, same⟩ | ⟨logged, parts, same, waits⟩ :=
    resume_shutdown_forms mine fits teardown whole rfl
  · exact ⟨running.stage, by rw [same]; exact mine, by rw [ended]; trivial⟩
  · refine ⟨.ended .broken, ?_, trivial⟩
    rw [same, getElem?_finish]
    show (if me = me then Option.map _ world.tasks[me]? else _) = _
    rw [mine]
    exact if_pos rfl
  · rw [same]
    have here : ({ world with ready := world.ready.erase me } : World).tasks[me]? = some running :=
      mine
    refine willWake_continueShutdown here running.actor logged parts fun part there => ?_
    obtain stage | ⟨-, rfl⟩ := waits
    · rw [stage] at wakes
      exact (wakes.2 part there).mayGo _
    · obtain ⟨site, -, rfl⟩ := List.mem_map.mp there
      trivial

/-- A stop task that runs ends and wakes its shutdown, or goes to sleep. Only one that is over, or
sleeps on, does not. -/
theorem resume_stop_forms (mine : world.tasks[me]? = some running) {parent : TaskId}
    (fits : running.stage.Fits running.purpose) (stops : running.purpose.StopsFor parent)
    {taken : World} (takes : { world with ready := world.ready.erase me } = taken) :
    (∃ outcome, running.stage = .ended outcome ∧ world.resume me = taken) ∨
    (∃ due, running.stage = .sleeping due ∧ world.now < due ∧ world.resume me = taken) ∨
    (∃ after outcome, (running.stage = .fresh ∨ ∃ due, running.stage = .sleeping due) ∧
      Beside taken after ∧ world.resume me = (after.finish me outcome).wake parent) ∨
    ∃ after due, running.stage = .fresh ∧ Beside taken after ∧ world.now < due ∧
      world.resume me = (after.setTimer me due).setStage me (.sleeping due) := by
  rw [resume_eq mine, takes]
  have now : taken.now = world.now := by rw [← takes]
  obtain ⟨name, purpose, stage⟩ := running
  obtain ⟨site, component, rfl⟩ : purpose.StopsFor parent := stops
  cases stage with
  | fresh =>
    simp only [proceed, start]
    split
    · exact .inr (.inr (.inl ⟨taken, .broken, .inl trivial, .refl taken, rfl⟩))
    · rename_i place there
      obtain ⟨after, beside, ⟨outcome, form⟩ | ⟨due, early, form⟩⟩ :=
        beginComponentStop_forms taken me name site place component parent
      · exact .inr (.inr (.inl ⟨after, outcome, .inl trivial, beside, form⟩))
      · exact .inr (.inr (.inr ⟨after, due, trivial, beside, now ▸ early, form⟩))
  | sleeping due =>
    simp only [proceed, awaken]
    split
    · obtain ⟨after, beside, form⟩ := endComponentStop_form taken me name site component parent
      exact .inr (.inr (.inl ⟨after, _, .inr ⟨due, rfl⟩, beside, form⟩))
    · rename_i early
      exact .inr (.inl ⟨due, rfl, by rw [← now]; exact Nat.lt_of_not_le early, rfl⟩)
  | ended outcome => exact .inl ⟨outcome, rfl, rfl⟩
  | _ => exact fits.elim

/-- A stop task that runs ends and wakes its shutdown, or sleeps until a timer. -/
theorem resume_stop (mine : world.tasks[me]? = some running) {parent : TaskId}
    (fits : running.stage.Fits running.purpose) (stops : running.purpose.StopsFor parent)
    (lasts : world.isOver me = false) (wakes : world.WillWake me running.stage) :
    (∃ outcome, (world.resume me).tasks[me]? = some { running with stage := .ended outcome } ∧
      parent ∈ (world.resume me).ready) ∨
    ∃ due, (world.resume me).tasks[me]? = some { running with stage := .sleeping due } ∧
      (world.resume me).now < due ∧ ⟨due, me⟩ ∈ (world.resume me).timers := by
  have still {after : World}
      (beside : Beside { world with ready := world.ready.erase me } after) :
      after.tasks[me]? = some running := by
    rw [beside.tasks]
    exact mine
  obtain ⟨outcome, ended, -⟩ | ⟨due, sleeps, early, same⟩ | ⟨after, outcome, -, beside, same⟩ |
    ⟨after, due, -, beside, early, same⟩ := resume_stop_forms mine fits stops rfl
  · simp [isOver, mine, ended] at lasts
  · right
    rw [sleeps] at wakes
    obtain ⟨-, set⟩ | ⟨late, -⟩ := wakes
    · rw [same]
      exact ⟨due, by rw [← sleeps]; exact mine, early, set⟩
    · omega
  · left
    refine ⟨outcome, ?_, ?_⟩
    · obtain ⟨ready, woken⟩ := exists_wake (after.finish me outcome) parent
      rw [same, woken]
      show (after.finish me outcome).tasks[me]? = _
      rw [getElem?_finish, still beside]
      exact if_pos rfl
    · rw [same]
      exact mem_ready_wake_self _ parent
  · right
    rw [same]
    refine ⟨due, ?_, ?_, List.mem_append_right _ (List.mem_singleton.mpr rfl)⟩
    · rw [getElem?_setStage]
      show (if me = me then Option.map _ after.tasks[me]? else _) = _
      rw [still beside]
      exact if_pos rfl
    · show after.now < due
      rw [beside.now]
      exact early

/-- A task that is over has an outcome. -/
theorem exists_outcome (there : world.tasks[task]? = some found)
    (settled : world.isOver task = true) : ∃ outcome, found.stage = .ended outcome := by
  unfold isOver at settled
  rw [there] at settled
  dsimp only at settled
  split at settled
  · exact ⟨_, ‹_›⟩
  · simp at settled

/-- A shutdown or a stop task that runs will be woken until it is over. -/
theorem willWake_resume (sound : world.Sound) (mine : world.tasks[me]? = some running)
    (teardown : running.purpose.IsTeardown) (wakes : world.WillWake me running.stage) :
    ∃ stage, (world.resume me).tasks[me]? = some { running with stage := stage } ∧
      (world.resume me).WillWake me stage := by
  have fits := (sound me running mine).1
  by_cases stops : ∃ parent, running.purpose.StopsFor parent
  · obtain ⟨parent, stops⟩ := stops
    by_cases settled : world.isOver me = true
    · obtain ⟨outcome, ended⟩ := exists_outcome mine settled
      refine ⟨running.stage, ?_, by rw [ended]; trivial⟩
      rw [resume_eq mine]
      simp only [proceed, ended]
      rw [← ended]
      exact mine
    · obtain ⟨outcome, ends, -⟩ | ⟨due, sleeps, early, set⟩ :=
        resume_stop mine fits stops (by simpa using settled) wakes
      · exact ⟨_, ends, trivial⟩
      · exact ⟨_, sleeps, .inl ⟨early, set⟩⟩
  · exact willWake_shutdown mine fits teardown (fun parent stopping => stops ⟨parent, stopping⟩)
      wakes

/-- A task that is cancelled has ended, unless nothing happens to it. -/
theorem cancel_ends (there : world.tasks[task]? = some found) : world.cancel task = world ∨
    (world.cancel task).tasks[task]? = some { found with stage := .ended .cancelled } := by
  obtain same | ⟨ended, rfl, same | ⟨place, session, same⟩ | ⟨parent, same⟩⟩ :=
    cancel_forms world task
  · exact .inl same
  all_goals
    right
    have tasks : (world.cancel task).tasks = (world.setStage task (.ended .cancelled)).tasks := by
      rw [same]
      first
        | rfl
        | rw [giveUpSend, tasks_onSession]; rfl
        | obtain ⟨ready, woken⟩ := exists_wake _ parent; rw [woken]; rfl
    rw [tasks, getElem?_setStage, there]
    exact if_pos rfl

/-- A timer that is set, or that has fired, stays so in the moves of others. -/
theorem Alarmed.apply (sound : world.Sound) (free : world.isOpen move = true)
    (foreign : ¬ move.IsOwn task) {due : Nat} (alarmed : world.Alarmed task due) :
    (world.apply move).Alarmed task due := by
  obtain ⟨early, set⟩ | ⟨late, ready⟩ := alarmed
  · obtain waits | ⟨fired, ready⟩ := mem_timers_apply sound free foreign early set
    · exact .inl waits
    · exact .inr ⟨Nat.le_of_eq fired.symm, ready⟩
  · have clock := now_apply_of_ready sound free ready
    exact .inr ⟨clock.symm ▸ late, mem_ready_apply sound foreign ready⟩

/-- Stop tasks stay stop tasks in all moves. -/
theorem AllStop.apply {stops : List TaskId} (sound : world.Sound) (move : Move)
    (all : world.AllStop task stops) : (world.apply move).AllStop task stops := by
  intro stop there
  obtain ⟨found, here, stopping⟩ := all stop there
  obtain ⟨stage, later, -⟩ := kept_apply sound move here
  exact ⟨_, later, stopping⟩

/-- What a shutdown waits for will wake it after the moves of others, too: a stop task that ends
wakes it. -/
theorem WillAdvance.apply (sound : world.Sound) (wakeful : world.Wakeful)
    (free : world.isOpen move = true) (foreign : ¬ move.IsOwn task)
    (advances : world.WillAdvance task phase) : (world.apply move).WillAdvance task phase := by
  cases phase with
  | joining stops =>
    obtain ⟨all, ⟨stop, there, runs⟩ | ready⟩ := advances
    · refine ⟨all.apply sound move, ?_⟩
      obtain ⟨found, here, stopping⟩ := all stop there
      have teardown : found.purpose.IsTeardown := by
        obtain ⟨site, component, same⟩ := stopping
        rw [same]
        trivial
      -- the stop task that is waited for keeps its place, or runs: then it goes to sleep, or its
      -- end wakes the shutdown
      obtain ⟨stage, later, stays | ⟨alike, -⟩ | ⟨rfl | rfl, -⟩⟩ := kept_apply sound move here
      · refine .inl ⟨stop, there, ?_⟩
        unfold isOver at runs ⊢
        rw [here] at runs
        rw [later]
        dsimp only at runs ⊢
        rw [stays]
        exact runs
      · refine .inl ⟨stop, there, ?_⟩
        unfold isOver
        rw [later]
        unfold Stage.AwaitsAlike at alike
        split at alike
        · rfl
        · rfl
        · exact alike.elim
      · obtain ⟨outcome, -, ready⟩ | ⟨due, sleeps, -⟩ := resume_stop here (sound stop found here).1
          stopping runs (wakeful stop found here teardown)
        · exact .inr ready
        · refine .inl ⟨stop, there, ?_⟩
          unfold isOver
          rw [World.apply, sleeps]
      · obtain ⟨site, component, same⟩ := stopping
        obtain ⟨actor, purpose, stage⟩ := found
        obtain rfl : purpose = .stopComponent site component task := same
        simp [isOpen, isCall, here] at free
    · exact ⟨all.apply sound move, .inr (mem_ready_apply sound foreign ready)⟩
  | stoppingOffsets due => exact Alarmed.apply sound free foreign advances
  | closingClient due => exact Alarmed.apply sound free foreign advances
  | _ => exact advances

/-- What a task waits for will wake it after the moves of others, too. -/
theorem WillWake.apply {stage : Stage} (sound : world.Sound) (wakeful : world.Wakeful)
    (free : world.isOpen move = true) (foreign : ¬ move.IsOwn task)
    (wakes : world.WillWake task stage) : (world.apply move).WillWake task stage := by
  cases stage with
  | fresh => exact mem_ready_apply sound foreign wakes
  | sleeping due => exact Alarmed.apply sound free foreign wakes
  | shuttingDown parts =>
    exact ⟨wakes.1, fun part there => (wakes.2 part there).apply sound wakeful free foreign⟩
  | _ => trivial

/-- A task that a stroke has started is ready. -/
theorem Stroke.born_ready {purpose : Purpose} {sends hands : Prop}
    (stroke : Stroke me purpose sends hands before after) (absent : before.tasks[task]? = none)
    (there : after.tasks[task]? = some found) : task ∈ after.ready := by
  have moved {target : TaskId} {stage : Stage}
      (there : (before.setStage target stage).tasks[task]? = some found) : task ∈ after.ready := by
    rw [getElem?_setStage, absent] at there
    simp at there
  have same (tasks : after.tasks = before.tasks) : task ∈ after.ready := by
    simp [tasks, absent] at there
  cases stroke with
  | spawn actor child =>
    obtain ⟨here, -⟩ := getElem?_spawn_of_none before absent there
    exact List.mem_append_right _ (List.mem_singleton.mpr here)
  | handOn actor child =>
    obtain ⟨here, -⟩ := getElem?_spawn_of_none before absent there
    exact List.mem_append_right _ (List.mem_singleton.mpr here)
  | setStage stage => exact moved there
  | finish outcome => exact moved there
  | wake other =>
    obtain ⟨ready, woken⟩ := exists_wake before other
    exact same (by rw [woken])
  | tell target answer =>
    obtain unchanged | ⟨found, -, -, told⟩ := tellAnswer_cases before target answer
    · exact same (by rw [unchanged])
    · obtain ⟨ready, woken⟩ := exists_wake (before.setStage target (.told answer)) target
      rw [told, woken] at there
      exact moved there
  | setState site actor component state =>
    exact same (setState_fields before site actor component state).2.2.1
  | touch site session change => exact same (tasks_onSession before site session change)
  | _ => exact same rfl

/-- Tasks that strokes have started are ready. -/
theorem Strokes.born_ready {purpose : Purpose} {sends hands : Prop}
    (strokes : Strokes me purpose sends hands before after) (absent : before.tasks[task]? = none)
    (there : after.tasks[task]? = some found) : task ∈ after.ready := by
  have born : (task ∈ before.ready → task ∈ after.ready) ∧
      (before.tasks[task]? = none → after.tasks[task]? ≠ none → task ∈ after.ready) := by
    refine strokes.keeps (P := fun before after => (task ∈ before.ready → task ∈ after.ready) ∧
      (before.tasks[task]? = none → after.tasks[task]? ≠ none → task ∈ after.ready))
      (fun world => ⟨id, fun absent there => absurd absent there⟩) ?_ ?_
    · rintro first middle last ⟨ready, born⟩ ⟨ready', born'⟩
      refine ⟨fun there => ready' (ready there), fun absent there => ?_⟩
      by_cases between : middle.tasks[task]? = none
      · exact born' between there
      · exact ready' (born absent between)
    · intro before after stroke
      refine ⟨stroke.mem_ready, fun absent there => ?_⟩
      obtain ⟨found, here⟩ := Option.ne_none_iff_exists'.mp there
      exact stroke.born_ready absent here
  exact born.2 absent (by simp [there])

/-- A task that a move has started is ready. -/
theorem mem_ready_of_born (sound : world.Sound) (absent : world.tasks[task]? = none)
    (there : (world.apply move).tasks[task]? = some found) : task ∈ (world.apply move).ready := by
  have same {after : World} (tasks : after.tasks = world.tasks)
      (there : after.tasks[task]? = some found) : task ∈ after.ready := by
    simp [tasks, absent] at there
  have spawned {actor : Option String} {purpose : Purpose}
      (there : (world.spawn actor purpose).1.tasks[task]? = some found) :
      task ∈ (world.spawn actor purpose).1.ready := by
    obtain ⟨here, -⟩ := getElem?_spawn_of_none world absent there
    exact List.mem_append_right _ (List.mem_singleton.mpr here)
  cases move with
  | resume me =>
    cases mine : world.tasks[me]? with
    | none => exact same (by rw [apply, resume_absent mine]) there
    | some running => exact (strokes_resume mine (sound me running mine).1).born_ready absent there
  | pass moment => exact same (tasks_passTo world moment) there
  | request site request => exact spawned there
  | shutdown sites logged => exact spawned there
  | cancel other =>
    obtain tasks | tasks := tasks_cancel world other
    · exact same tasks there
    · have here : (world.setStage other (.ended .cancelled)).tasks[task]? = some found :=
        tasks ▸ there
      rw [getElem?_setStage, absent] at here
      simp at here
  | enqueue site group topic items => exact same rfl there
  | read site session limit => exact same (tasks_onSession ..) there
  | close site session => exact same (tasks_onSession ..) there
  | renew site key => exact same rfl there

/-- Open moves keep the world wakeful. -/
theorem Wakeful.apply (wakeful : world.Wakeful) (sound : world.Sound)
    (free : world.isOpen move = true) : (world.apply move).Wakeful := by
  intro task later there teardown
  cases before : world.tasks[task]? with
  | none =>
    rw [(born_apply sound free before there).1]
    exact mem_ready_of_born sound before there
  | some found =>
    obtain ⟨stage, after, moved⟩ := kept_apply sound move before
    obtain rfl := Option.some.inj (after.symm.trans there)
    have wakes := wakeful task found before teardown
    have own {other : Stage}
        (here : (world.apply move).tasks[task]? = some { found with stage := other })
        (waits : (world.apply move).WillWake task other) :
        (world.apply move).WillWake task stage := by
      obtain rfl : other = stage :=
        congrArg Task.stage (Option.some.inj (here.symm.trans after))
      exact waits
    by_cases resumed : move = .resume task
    · subst resumed
      obtain ⟨other, here, waits⟩ := willWake_resume sound before teardown wakes
      exact own here waits
    by_cases cancelled : move = .cancel task
    · subst cancelled
      obtain same | ended := cancel_ends before
      · have still : (world.apply (.cancel task)).tasks[task]? = some found := by
          rw [World.apply, same]
          exact before
        refine own still ?_
        rw [World.apply, same]
        exact wakes
      · exact own ended trivial
    obtain rfl | ⟨alike, -⟩ | ⟨mine | mine, -⟩ := moved
    · exact wakes.apply sound wakeful free fun own => own.elim resumed cancelled
    · show (world.apply move).WillWake task stage
      unfold Stage.AwaitsAlike at alike
      split at alike
      · trivial
      · trivial
      · exact alike.elim
    · exact absurd mine resumed
    · exact absurd mine cancelled

/-- A world without tasks is wakeful. -/
theorem Opened.wakeful (opened : start.Opened) : start.Wakeful := by
  intro task found there
  simp [opened.untouched.1] at there

/-- Along a run the world stays wakeful. -/
theorem Wakeful.reaches (wakeful : start.Wakeful) (sound : start.Sound)
    (reaches : start.Reaches world) : world.Wakeful :=
  sound.keeps (fun _ _ sound free wakeful => wakeful.apply sound free) wakeful reaches

/-- When no task is ready and no timer is set, a stop task is over. -/
theorem Wakeful.stop_over (wakeful : world.Wakeful) (sound : world.Sound)
    (idle : world.ready = []) (quiet : world.timers = []) {parent : TaskId}
    (there : world.tasks[task]? = some found) (stops : found.purpose.StopsFor parent) :
    world.isOver task = true := by
  obtain ⟨actor, purpose, stage⟩ := found
  obtain ⟨site, component, rfl⟩ : purpose.StopsFor parent := stops
  have wakes := wakeful task _ there trivial
  have fits := (sound task _ there).1
  cases stage with
  | fresh => simp [WillWake, idle] at wakes
  | sleeping due => simp [WillWake, Alarmed, idle, quiet] at wakes
  | ended outcome => simp only [isOver, there]
  | _ => exact fits.elim

/-- When no task is ready and no timer is set, every shutdown is over. -/
theorem Wakeful.isOver (wakeful : world.Wakeful) (sound : world.Sound)
    (idle : world.ready = []) (quiet : world.timers = [])
    (there : world.tasks[task]? = some found) (teardown : found.purpose.IsTeardown) :
    world.isOver task = true := by
  by_cases stops : ∃ parent, found.purpose.StopsFor parent
  · obtain ⟨parent, stops⟩ := stops
    exact wakeful.stop_over sound idle quiet there stops
  have wakes := wakeful task found there teardown
  have fits := (sound task found there).1
  -- shutdowns wait for stop tasks, and these wait for timers only, so no circle can close
  have stuck (parts : List Shutdown) : ¬ world.WillWake task (.shuttingDown parts) := by
    rintro ⟨⟨part, member, unfinished⟩, waits⟩
    have advances := waits part member
    cases phase : part.phase with
    | joining tasks =>
      rw [phase] at advances
      obtain ⟨all, ⟨stop, named, runs⟩ | ready⟩ := advances
      · obtain ⟨other, here, stopping⟩ := all stop named
        rw [wakeful.stop_over sound idle quiet here stopping] at runs
        simp at runs
      · simp [idle] at ready
    | finished => exact unfinished phase
    | _ => simp [phase, WillAdvance, Alarmed, idle, quiet] at advances
  obtain ⟨actor, purpose, stage⟩ := found
  cases stage with
  | fresh => simp [WillWake, idle] at wakes
  | shuttingDown parts => exact absurd wakes (stuck parts)
  | ended outcome => simp only [World.isOver, there]
  | sleeping due => simp [WillWake, Alarmed, idle, quiet] at wakes
  | _ =>
    cases purpose with
    | request site request => cases request <;> first | exact teardown.elim | exact fits.elim
    | shutdown sites logged => exact fits.elim
    | stopComponent site component parent => exact absurd ⟨parent, site, component, rfl⟩ stops
    | _ => exact teardown.elim

/-- No shutdown is ever stuck: along any run from the opening of the gateways, with any calls at
any time, when no task is ready and no timer is set, every shutdown and every stop task is
over. -/
theorem over_of_still (opened : start.Opened) (reaches : start.Reaches world)
    (idle : world.ready = []) (quiet : world.timers = [])
    (there : world.tasks[task]? = some found) (teardown : found.purpose.IsTeardown) :
    world.isOver task = true :=
  (opened.wakeful.reaches opened.sound reaches).isOver (opened.sound.reaches reaches) idle quiet
    there teardown

end World

end ClusterGateway
