import ClusterGateway.Proofs.Delivery.Turn

/-!
# Where the tasks wait that wait for room

A task that waits for room stands in the line of its session and nowhere else, unless it has
been granted room or turned away, and then it is ready; and as long as it is given time it
has a timer, which has not fired. `World.Waits` says so of all tasks and sessions. Main
statements: `Opened.waits`, `Waits.reaches`; it holds of every world that can be reached.
-/

namespace ClusterGateway

/-- A session is where a task stands in line, or the task is woken to find that it has been
granted room or turned away. -/
def Session.Keeps (session : Session) (task : TaskId) (woken : Prop) : Prop :=
  session.closed = true ∧ woken ∨
    session.closed = false ∧ (task ∈ session.waiting ∨ task ∈ session.granted ∧ woken)

/-- A session keeps a task through what another task does to it. -/
theorem Session.Keeps.shift {me other : TaskId} {served : List TaskId} {before after : Session}
    {early late : Prop} (keeps : before.Keeps other early) (shift : Shift me served before after)
    (differ : other ≠ me) (later : early → late) (named : other ∈ served → late) :
    after.Keeps other late := by
  obtain ⟨closed, woken⟩ | ⟨-, waits | ⟨granted, woken⟩⟩ := keeps
  · exact .inl ⟨shift.shut closed, later woken⟩
  · obtain ⟨closed, told⟩ | ⟨unclosed, still | ⟨granted, told⟩⟩ := shift.moved other differ waits
    · exact .inl ⟨closed, named told⟩
    · exact .inr ⟨unclosed, .inl still⟩
    · exact .inr ⟨unclosed, .inr ⟨granted, named told⟩⟩
  · by_cases closed : after.closed = true
    · exact .inl ⟨closed, later woken⟩
    · have unclosed : after.closed = false := Bool.eq_false_iff.mpr closed
      exact .inr ⟨unclosed, .inr ⟨shift.kept other differ granted unclosed, later woken⟩⟩

/-- In an open session that has not granted it room a task stands in line. -/
theorem Session.Keeps.waiting {session : Session} {task : TaskId} {woken : Prop}
    (keeps : session.Keeps task woken) (unclosed : session.closed = false)
    (ungranted : task ∉ session.granted) : task ∈ session.waiting := by
  obtain ⟨closed, -⟩ | ⟨-, inLine | ⟨granted, -⟩⟩ := keeps
  · exact absurd (unclosed.symm.trans closed) (by simp)
  · exact inLine
  · exact absurd granted ungranted

/-- A session keeps a task that has not been woken in line, and is open. -/
theorem Session.Keeps.asleep {session : Session} {task : TaskId} {woken : Prop}
    (keeps : session.Keeps task woken) (asleep : ¬ woken) :
    session.closed = false ∧ task ∈ session.waiting := by
  obtain ⟨-, awake⟩ | ⟨unclosed, inLine | ⟨-, awake⟩⟩ := keeps
  · exact absurd awake asleep
  · exact ⟨unclosed, inLine⟩
  · exact absurd awake asleep

namespace World

/-- A task is where it should be: in line only where it waits for room, and either in line or
woken there, with a timer set or due if it is given time. -/
structure Placed (world : World) (task : TaskId) : Prop where
  lines : ∀ site number session, world.session? site number = some session →
    session.InLine task → ∃ dispatch, world.dispatch? task = some dispatch ∧
      dispatch.site = site ∧ dispatch.session = number
  place : ∀ dispatch, world.dispatch? task = some dispatch → ∃ session,
    world.session? dispatch.site dispatch.session = some session ∧
      session.Keeps task (task ∈ world.ready)
  timed : ∀ dispatch due, world.dispatch? task = some dispatch → dispatch.due = some due →
    world.now ≤ due ∧ (⟨due, task⟩ ∈ world.timers ∨ due ≤ world.now ∧ task ∈ world.ready)

/-- All sessions are sound. -/
def Healthy (world : World) : Prop :=
  ∀ (site : SiteId) (number : SessionId) (session : Session),
    world.session? site number = some session → session.Sound

/-- What holds of the tasks and the sessions of every world that can be reached. -/
structure Waits (world : World) : Prop where
  sound : world.Sound
  healthy : world.Healthy
  placed : ∀ task, world.Placed task

/-- What a change made by the task `me` does to a session, if there is one. -/
inductive SessionFrame (me : TaskId) (ready : List TaskId) : Option Session → Option Session → Prop
  | same (session : Option Session) : SessionFrame me ready session session
  | new (capacity : Nat) : SessionFrame me ready none (some (.new capacity))
  | shift {served : List TaskId} {before after : Session}
    (shift : Session.Shift me served before after) (woken : ∀ task ∈ served, task ∈ ready) :
    SessionFrame me ready (some before) (some after)

/-- A change made by the task `me` as far as all other tasks are concerned. -/
structure Spares (me : TaskId) (before after : World) : Prop where
  dispatch : ∀ other ≠ me, after.dispatch? other = before.dispatch? other
  clock : after.now = before.now
  ready : ∀ other ≠ me, other ∈ before.ready → other ∈ after.ready
  timers : ∀ timer : Timer, timer.task ≠ me → timer ∈ before.timers → timer ∈ after.timers
  sessions : ∀ site number, SessionFrame me after.ready (before.session? site number)
    (after.session? site number)

variable {world before after : World} {me task other : TaskId}

/-- Sessions stay sound. -/
theorem Healthy.spares (healthy : before.Healthy) (spares : Spares me before after) :
    after.Healthy := by
  intro site number session there
  have frame := spares.sessions site number
  rw [there] at frame
  generalize old : before.session? site number = earlier at frame
  cases frame with
  | same => exact healthy site number session old
  | new capacity => exact Session.sound_new capacity
  | shift shift => exact shift.sound

/-- All other tasks stay where they should be. -/
theorem Placed.spares (placed : before.Placed other) (spares : Spares me before after)
    (differ : other ≠ me) : after.Placed other where
  lines := by
    intro site number session there inside
    rw [spares.dispatch other differ]
    have frame := spares.sessions site number
    rw [there] at frame
    generalize old : before.session? site number = earlier at frame
    cases frame with
    | same => exact placed.lines site number session old inside
    | new capacity => exact absurd inside (by simp [Session.InLine, Session.new])
    | shift shift => exact placed.lines site number _ old (shift.lines other differ inside)
  place := by
    intro dispatch pending
    rw [spares.dispatch other differ] at pending
    obtain ⟨session, there, keeps⟩ := placed.place dispatch pending
    have frame := spares.sessions dispatch.site dispatch.session
    rw [there] at frame
    generalize new : after.session? dispatch.site dispatch.session = later at frame
    cases frame with
    | same =>
      refine ⟨session, rfl, ?_⟩
      obtain ⟨closed, woken⟩ | ⟨unclosed, waits | ⟨granted, woken⟩⟩ := keeps
      · exact .inl ⟨closed, spares.ready other differ woken⟩
      · exact .inr ⟨unclosed, .inl waits⟩
      · exact .inr ⟨unclosed, .inr ⟨granted, spares.ready other differ woken⟩⟩
    | @shift served before next shift woken =>
      exact ⟨next, rfl, keeps.shift shift differ (spares.ready other differ) (woken other)⟩
  timed := by
    intro dispatch due pending timed
    rw [spares.dispatch other differ] at pending
    obtain ⟨early, set⟩ := placed.timed dispatch due pending timed
    rw [spares.clock]
    exact ⟨early, set.imp (spares.timers ⟨due, other⟩ differ)
      (.imp_right (spares.ready other differ))⟩

/-- A task that waits for nothing is where it should be if it stands in no line. -/
theorem Placed.of_idle (idle : world.dispatch? task = none)
    (away : ∀ site number session, world.session? site number = some session →
      ¬ session.InLine task) : world.Placed task where
  lines := fun site number session there inside => absurd inside (away site number session there)
  place := fun dispatch pending => by simp [idle] at pending
  timed := fun dispatch due pending => by simp [idle] at pending

/-- A task that waits for nothing stands in no line. -/
theorem Placed.away (placed : world.Placed task) (idle : world.dispatch? task = none)
    {site : SiteId} {number : SessionId} {session : Session}
    (there : world.session? site number = some session) : ¬ session.InLine task := by
  intro inside
  obtain ⟨dispatch, pending, -⟩ := placed.lines site number session there inside
  simp [idle] at pending

/-- A task stands in no line but the one it waits in. -/
theorem Placed.away_of_ne (placed : world.Placed task) {dispatch : Dispatch}
    (pending : world.dispatch? task = some dispatch) {site : SiteId} {number : SessionId}
    {session : Session} (there : world.session? site number = some session)
    (differ : ¬ (dispatch.site = site ∧ dispatch.session = number)) : ¬ session.InLine task := by
  intro inside
  obtain ⟨found, waits, place⟩ := placed.lines site number session there inside
  obtain rfl := Option.some.inj (pending.symm.trans waits)
  exact differ place

/-- Nothing changes. -/
theorem Spares.refl (world : World) : Spares me world world :=
  ⟨fun _ _ => rfl, rfl, fun _ _ => id, fun _ _ => id, fun _ _ => .same _⟩

/-- Tasks, clock and sessions stay, and ready tasks and timers of all others. -/
theorem Spares.of_same (tasks : after.tasks = before.tasks) (clock : after.now = before.now)
    (sites : after.sites = before.sites)
    (ready : ∀ other ≠ me, other ∈ before.ready → other ∈ after.ready)
    (timers : ∀ timer : Timer, timer.task ≠ me → timer ∈ before.timers → timer ∈ after.timers) :
    Spares me before after where
  dispatch := fun other _ => by simp only [dispatch?, tasks]
  clock := clock
  ready := ready
  timers := timers
  sessions := fun site number => by
    simp only [session?, sites]
    exact .same _

/-- A task leaves the line of ready tasks. -/
theorem spares_erase (world : World) (me : TaskId) :
    Spares me world { world with ready := world.ready.erase me } := by
  refine .of_same rfl rfl rfl ?_ fun _ _ => id
  intro other differ ready
  exact (List.mem_erase_of_ne differ).mpr ready

/-- A task that waits elsewhere spares all others. -/
theorem spares_setStage (world : World) (me : TaskId) (stage : Stage) :
    Spares me world (world.setStage me stage) where
  dispatch := by
    intro other differ
    unfold dispatch?
    rw [getElem?_setStage, if_neg (Ne.symm differ)]
  clock := rfl
  ready := fun _ _ => id
  timers := fun _ _ => id
  sessions := fun _ _ => .same _

/-- A task that ends spares all others. -/
theorem spares_finish (world : World) (me : TaskId) (outcome : Outcome) :
    Spares me world (world.finish me outcome) where
  dispatch := (spares_setStage world me (.ended outcome)).dispatch
  clock := rfl
  ready := fun _ _ => id
  timers := by
    intro timer foreign set
    exact List.mem_filter.mpr ⟨set, by simpa using foreign⟩
  sessions := fun _ _ => .same _

/-- A deadline spares all others. -/
theorem spares_setDeadline (world : World) (me : TaskId) (due : Option Nat) :
    Spares me world (world.setDeadline me due) := by
  cases due with
  | none => exact .refl world
  | some due =>
    exact .of_same rfl rfl rfl (fun _ _ => id) fun _ _ set => List.mem_append_left _ set

/-- What a task does to a session spares all others. -/
theorem spares_onSession {site : SiteId} {number : SessionId} {session : Session}
    (change : Session → Session × List TaskId)
    (there : world.session? site number = some session)
    (shift : Session.Shift me (change session).2 session (change session).1) :
    Spares me world (world.onSession site number change) where
  dispatch := fun other _ => by simp only [dispatch?, tasks_onSession]
  clock := now_onSession world site number change
  ready := by
    intro other _ ready
    obtain ⟨-, same⟩ | ⟨found, -, same⟩ := onSession_cases world site number change
    · rw [same]
      exact ready
    · rw [same]
      exact mem_ready_wakeAll _ ready
  timers := by
    obtain ⟨ready, same⟩ := exists_onSession world site number change
    rw [same]
    exact fun _ _ => id
  sessions := by
    intro place other
    by_cases here : site = place ∧ number = other
    · obtain ⟨rfl, rfl⟩ := here
      rw [session?_onSession_self world site there, there]
      exact .shift shift fun served named => mem_ready_onSession world site there change named
    · rw [session?_onSession_of_ne world site change here]
      exact .same _

/-- A step that leaves the sessions alone spares all others. -/
theorem Strokes.spares {purpose : Purpose} {hands : Prop}
    (strokes : Strokes me purpose False hands before after) : Spares me before after where
  dispatch := fun other differ => by
    have frame := strokes.taskFrame
    unfold dispatch?
    cases there : before.tasks[other]? with
    | none =>
      cases later : after.tasks[other]? with
      | none => rfl
      | some found =>
        obtain ⟨fresh, -⟩ := frame.born other found there later differ
        simp [Task.dispatch?, fresh]
    | some found =>
      obtain ⟨stage, later, moved⟩ := frame.kept other found there
      rw [later]
      obtain rfl | ⟨alike, -⟩ | ⟨mine, -⟩ := moved
      · rfl
      · obtain ⟨actor, purpose, old⟩ := found
        cases old <;> cases stage <;> simp_all [Stage.AwaitsAlike, Task.dispatch?]
      · exact absurd mine differ
  clock := strokes.now_eq
  ready := fun other _ => strokes.mem_ready
  timers := fun timer foreign => strokes.mem_timers foreign
  sessions := by
    intro site number
    obtain same | ⟨absent, new⟩ := strokes.session?_cases site number
    · rw [same]
      exact .same _
    · rw [absent, new]
      exact .new _

/-- All sessions are sound, and all tasks but one are where they should be. -/
structure Steady (me : TaskId) (world : World) : Prop where
  healthy : world.Healthy
  placed : ∀ other ≠ me, world.Placed other

/-- A change that spares all others keeps the world steady. -/
theorem Steady.spares (steady : Steady me before) (spares : Spares me before after) :
    Steady me after where
  healthy := steady.healthy.spares spares
  placed := fun other differ => (steady.placed other differ).spares spares differ

/-- A task stands in no line. -/
def Away (world : World) (me : TaskId) : Prop :=
  ∀ site number session, world.session? site number = some session → ¬ session.InLine me

/-- A task that stands in no line stands in none after a step that sends nothing. -/
theorem Away.strokes {purpose : Purpose} {hands : Prop} (away : before.Away me)
    (strokes : Strokes me purpose False hands before after) : after.Away me := by
  intro site number session there
  obtain same | ⟨-, new⟩ := strokes.session?_cases site number
  · exact away site number session (same.symm.trans there)
  · obtain rfl := Option.some.inj (new.symm.trans there)
    simp [Session.InLine, Session.new]

/-- A task stands in no line after a session where it does not was changed. -/
theorem away_onSession {site : SiteId} {number : SessionId} {session : Session}
    {change : Session → Session × List TaskId} (there : world.session? site number = some session)
    (out : ¬ (change session).1.InLine me)
    (elsewhere : ∀ place other found, ¬ (site = place ∧ number = other) →
      world.session? place other = some found → ¬ found.InLine me) :
    (world.onSession site number change).Away me := by
  intro place other found here
  by_cases same : site = place ∧ number = other
  · obtain ⟨rfl, rfl⟩ := same
    rw [session?_onSession_self world site there] at here
    obtain rfl := Option.some.inj here
    exact out
  · rw [session?_onSession_of_ne world site change same] at here
    exact elsewhere place other found same here

/-- A world is as it should be if all but one task are, and that one is. -/
theorem Steady.waits (steady : Steady me world) (sound : world.Sound) (mine : world.Placed me) :
    world.Waits where
  sound := sound
  healthy := steady.healthy
  placed := by
    intro task
    by_cases here : task = me
    · exact here ▸ mine
    · exact steady.placed task here

/-- A task that ends, after a note to the log, spares all others. -/
theorem Steady.conclude (steady : Steady me world) (actor : Option String)
    (entries : List LogEntry) (outcome : Outcome) :
    Steady me ((world.note actor entries).finish me outcome) := by
  have noted : Spares me world (world.note actor entries) :=
    .of_same rfl rfl rfl (fun _ _ => id) fun _ _ => id
  exact (steady.spares noted).spares (spares_finish _ me outcome)

/-- A task that ends outside all lines is where it should be. -/
theorem Away.conclude (away : world.Away me) (actor : Option String) (entries : List LogEntry)
    (outcome : Outcome) : ((world.note actor entries).finish me outcome).Placed me :=
  .of_idle (dispatch?_finish _ me outcome) away

/-- A deadline leaves all but the timers alone. -/
theorem setDeadline_fields (world : World) (me : TaskId) (due : Option Nat) :
    (world.setDeadline me due).tasks = world.tasks ∧
      (world.setDeadline me due).sites = world.sites ∧
      (world.setDeadline me due).now = world.now := by
  cases due <;> exact ⟨rfl, rfl, rfl⟩

/-- A deadline sets a timer. -/
theorem mem_timers_setDeadline (world : World) (me : TaskId) {due : Nat} {deadline : Option Nat}
    (timed : deadline = some due) : ⟨due, me⟩ ∈ (world.setDeadline me deadline).timers := by
  subst timed
  exact List.mem_append_right _ (List.mem_singleton.mpr rfl)

/-- A task that got in line waits for room. -/
theorem dispatch?_queued {found : Task} {pending : Dispatch} {stage : Stage}
    (there : world.tasks[me]? = some found)
    (waiting : ({ found with stage := stage } : Task).dispatch? = some pending) :
    (((world.onSession pending.site pending.session fun session =>
      (session.await me, [])).setDeadline me pending.due).setStage me stage).dispatch? me =
        some pending := by
  unfold dispatch?
  rw [getElem?_setStage, if_pos rfl, (setDeadline_fields _ me pending.due).1, tasks_onSession,
    there]
  exact waiting

/-- A task that got in line is where it should be. -/
theorem placed_queued {found : Task} {pending : Dispatch} {session : Session} {stage : Stage}
    (there : world.tasks[me]? = some found) (out : world.Away me)
    (here : world.session? pending.site pending.session = some session)
    (unclosed : session.closed = false)
    (waiting : ({ found with stage := stage } : Task).dispatch? = some pending)
    (early : ∀ due, pending.due = some due → world.now ≤ due) :
    (((world.onSession pending.site pending.session fun session =>
      (session.await me, [])).setDeadline me pending.due).setStage me stage).Placed me := by
  have dispatch := dispatch?_queued there waiting
  generalize queued_eq : (world.onSession pending.site pending.session fun session =>
    (session.await me, [])) = queued at dispatch ⊢
  obtain ⟨tasks, sites, now⟩ := setDeadline_fields queued me pending.due
  have set (due : Nat) (timed : pending.due = some due) := mem_timers_setDeadline queued me timed
  generalize queued.setDeadline me pending.due = timed at dispatch tasks sites now set ⊢
  have sessions (site : SiteId) (number : SessionId) :
      (timed.setStage me stage).session? site number = queued.session? site number := by
    show (timed.sites[site]?).bind _ = _
    rw [sites]
    rfl
  refine ⟨?_, ?_, ?_⟩
  · intro site number found at_site inside
    refine ⟨pending, dispatch, ?_⟩
    by_cases same : pending.site = site ∧ pending.session = number
    · exact same
    · rw [sessions, ← queued_eq, session?_onSession_of_ne world _ _ same] at at_site
      exact absurd inside (out site number found at_site)
  · intro other waits
    obtain rfl := Option.some.inj (dispatch.symm.trans waits)
    refine ⟨session.await me, ?_, .inr ⟨unclosed, .inl ?_⟩⟩
    · rw [sessions, ← queued_eq, session?_onSession_self world _ here]
    · exact List.mem_append_right _ (List.mem_singleton.mpr rfl)
  · intro other due waits timed_at
    obtain rfl := Option.some.inj (dispatch.symm.trans waits)
    refine ⟨?_, .inl (set due timed_at)⟩
    show timed.now ≤ due
    rw [now, ← queued_eq, now_onSession]
    exact early due timed_at

/-- A task that has just left the line of ready tasks: all others are where they should be, and
it stands in line only where it waits for room and has not been granted any. -/
structure Departs (me : TaskId) (found : Task) (left : World) : Prop where
  there : left.tasks[me]? = some found
  steady : Steady me left
  away : found.dispatch? = none → left.Away me
  elsewhere : ∀ pending, found.dispatch? = some pending → ∀ site number session,
    ¬ (pending.site = site ∧ pending.session = number) →
      left.session? site number = some session → ¬ session.InLine me
  inLine : ∀ pending session, found.dispatch? = some pending →
    left.session? pending.site pending.session = some session → session.closed = false →
      me ∉ session.granted → me ∈ session.waiting
  timed : ∀ pending due, found.dispatch? = some pending → pending.due = some due →
    left.now ≤ due ∧ (⟨due, me⟩ ∈ left.timers ∨ due ≤ left.now)

/-- A task that is resumed leaves the line of ready tasks first. -/
theorem Waits.departs {found : Task} (waits : world.Waits)
    (there : world.tasks[me]? = some found) :
    Departs me found { world with ready := world.ready.erase me } := by
  have mine := waits.placed me
  have dispatch : world.dispatch? me = found.dispatch? := by
    simp only [dispatch?, there, Option.bind_some]
  refine ⟨there, ?_, ?_, ?_, ?_, ?_⟩
  · exact Steady.spares ⟨waits.healthy, fun other _ => waits.placed other⟩ (spares_erase world me)
  · exact fun idle site number session here => mine.away (dispatch.trans idle) here
  · exact fun pending waiting site number session differ here =>
      mine.away_of_ne (dispatch.trans waiting) here differ
  · intro pending session waiting here unclosed ungranted
    obtain ⟨inside, same, keeps⟩ := mine.place pending (dispatch.trans waiting)
    obtain rfl := Option.some.inj (here.symm.trans same)
    exact keeps.waiting unclosed ungranted
  · intro pending due waiting timed
    obtain ⟨early, set⟩ := mine.timed pending due (dispatch.trans waiting) timed
    exact ⟨early, set.imp id And.left⟩

/-- The task that takes a turn keeps all others where they should be, and is there itself. -/
theorem Turn.placed {found : Task} {left : World} (turn : Turn me found left after)
    (departs : Departs me found left) : Steady me after ∧ after.Placed me := by
  have steady := departs.steady
  have dispatch : left.dispatch? me = found.dispatch? := by
    simp only [dispatch?, departs.there, Option.bind_some]
  cases turn with
  | quiet strokes alive idle rests =>
    exact ⟨steady.spares strokes.spares, .of_idle rests ((departs.away idle).strokes strokes)⟩
  | settled ended =>
    have idle : found.dispatch? = none := by simp [Task.dispatch?, ended]
    exact ⟨steady, .of_idle (dispatch.trans idle) (departs.away idle)⟩
  | @sent middle pending session outcome actor entries strokes alive idle begins here room =>
    have before := steady.spares strokes.spares
    have out := (departs.away idle).strokes strokes
    have shift : Session.Shift me [] session (session.accept ⟨some me, pending.offset⟩) :=
      (before.healthy _ _ session here).accept room _
    have sent := before.spares (spares_onSession
      (fun session => (session.accept ⟨some me, pending.offset⟩, [])) here shift)
    refine ⟨sent.conclude actor entries outcome, Away.conclude ?_ actor entries outcome⟩
    refine away_onSession here (out _ _ session here) ?_
    exact fun place other found _ => out place other found
  | @dropped middle pending outcome actor entries strokes alive idle begins shut concludes =>
    have before := steady.spares strokes.spares
    have out := (departs.away idle).strokes strokes
    exact ⟨before.conclude actor entries outcome, out.conclude actor entries outcome⟩
  | @queued middle pending session stage strokes alive idle begins here full waiting =>
    have before := steady.spares strokes.spares
    have out := (departs.away idle).strokes strokes
    have shift := (before.healthy _ _ session here).await full (out _ _ session here)
    have queued := before.spares
      (spares_onSession (fun session => (session.await me, [])) here shift)
    have timed := queued.spares (spares_setDeadline _ me pending.due)
    refine ⟨timed.spares (spares_setStage _ me stage), ?_⟩
    obtain ⟨early, still, -⟩ := strokes.taskFrame.kept me found departs.there
    refine placed_queued still out here (Session.of_full full).1 waiting ?_
    intro due given
    rw [strokes.now_eq]
    exact begins.le_due given
  | @refused pending outcome actor entries waiting shut =>
    refine ⟨steady.conclude actor entries outcome, Away.conclude ?_ actor entries outcome⟩
    intro place number session here
    by_cases same : pending.site = place ∧ pending.session = number
    · obtain ⟨rfl, rfl⟩ := same
      exact (steady.healthy _ _ session here).not_inLine (shut session here)
    · exact departs.elsewhere pending waiting place number session same here
  | @filled pending session outcome actor entries waiting here unclosed granted =>
    obtain ⟨shift, out⟩ := (steady.healthy _ _ session here).fill granted pending.offset
    have filled := steady.spares
      (spares_onSession (fun session => (session.fill me pending.offset, [])) here shift)
    refine ⟨filled.conclude actor entries outcome, Away.conclude ?_ actor entries outcome⟩
    exact away_onSession here out (departs.elsewhere pending waiting)
  | @gaveUp pending session outcome due actor entries waiting here unclosed ungranted timed late =>
    obtain ⟨shift, out⟩ := (steady.healthy _ _ session here).withdraw me
    have gone := steady.spares (spares_onSession (·.withdraw me) here shift)
    refine ⟨gone.conclude actor entries outcome, Away.conclude ?_ actor entries outcome⟩
    exact away_onSession here out (departs.elsewhere pending waiting)
  | @stays pending session waiting here unclosed ungranted early =>
    have inLine := departs.inLine pending session waiting here unclosed ungranted
    refine ⟨steady, ?_, ?_, ?_⟩
    · intro site number found at_place inside
      refine ⟨pending, dispatch.trans waiting, ?_⟩
      by_cases same : pending.site = site ∧ pending.session = number
      · exact same
      · exact absurd inside (departs.elsewhere pending waiting site number found same at_place)
    · intro other found
      obtain rfl := Option.some.inj (waiting.symm.trans (dispatch.symm.trans found))
      exact ⟨session, here, .inr ⟨unclosed, .inl inLine⟩⟩
    · intro other due found timed
      obtain rfl := Option.some.inj (waiting.symm.trans (dispatch.symm.trans found))
      have short := early due timed
      obtain ⟨-, set | settled⟩ := departs.timed pending due waiting timed
      · exact ⟨Nat.le_of_lt short, .inl set⟩
      · exact absurd short (Nat.not_lt.mpr settled)

/-- Moves that nobody makes keep all tasks where they should be. -/
theorem Waits.spares (waits : before.Waits) (sound : after.Sound)
    (spares : ∀ me, before.tasks.length ≤ me → Spares me before after) : after.Waits where
  sound := sound
  healthy := waits.healthy.spares (spares _ (Nat.le_refl _))
  placed := by
    intro task
    -- a change that concerns nobody may as well be made by any task that does not exist
    have nobody := spares (max before.tasks.length (task + 1)) (Nat.le_max_left _ _)
    refine (waits.placed task).spares nobody (Nat.ne_of_lt ?_)
    exact Nat.lt_of_lt_of_le (Nat.lt_succ_self task) (Nat.le_max_right _ _)

/-- A new task waits for nothing. -/
theorem spares_spawn (world : World) (me : TaskId) (actor : Option String) (purpose : Purpose) :
    Spares me world (world.spawn actor purpose).1 where
  dispatch := by
    intro other _
    unfold dispatch?
    cases there : world.tasks[other]? with
    | some found => rw [getElem?_spawn_of_some world there]
    | none =>
      cases later : (world.spawn actor purpose).1.tasks[other]? with
      | none => rfl
      | some found =>
        obtain ⟨-, rfl⟩ := getElem?_spawn_of_none world there later
        rfl
  clock := rfl
  ready := fun _ _ ready => List.mem_append_left _ ready
  timers := fun _ _ => id
  sessions := fun _ _ => .same _

/-- A change of a cluster that leaves its sessions alone spares everybody. -/
theorem spares_onBroker (world : World) (me : TaskId) (site : SiteId) (change : Broker → Broker)
    (same : ∀ broker, (change broker).sessions = broker.sessions) :
    Spares me world (world.onBroker site change) where
  dispatch := fun _ _ => rfl
  clock := rfl
  ready := fun _ _ => id
  timers := fun _ _ => id
  sessions := by
    intro place number
    rw [session?_onBroker_of_same world site same]
    exact .same _

/-- A change of a session that nobody makes keeps all tasks where they should be. -/
theorem Waits.onSession (waits : world.Waits) (site : SiteId) (number : SessionId)
    (change : Session → Session × List TaskId)
    (sound : (world.onSession site number change).Sound)
    (shift : ∀ me session, world.session? site number = some session →
      Session.Shift me (change session).2 session (change session).1) :
    (world.onSession site number change).Waits := by
  refine waits.spares sound fun me _ => ?_
  cases there : world.session? site number with
  | none =>
    have same : world.onSession site number change = world := by simp only [World.onSession, there]
    rw [same]
    exact .refl world
  | some session => exact spares_onSession change there (shift me session there)

/-- Time that passes wakes all tasks whose time has come. -/
theorem Waits.passTo (waits : world.Waits) {moment : Nat} (free : world.mayPass moment = true)
    (sound : (world.passTo moment).Sound) : (world.passTo moment).Waits := by
  obtain ⟨ready, same⟩ := exists_passTo world moment
  simp only [mayPass, Bool.and_eq_true, List.isEmpty_iff, List.all_eq_true,
    decide_eq_true_eq] at free
  obtain ⟨idle, early⟩ := free
  have dispatch (task : TaskId) : (world.passTo moment).dispatch? task = world.dispatch? task := by
    simp only [dispatch?, tasks_passTo]
  have session (site : SiteId) (number : SessionId) :
      (world.passTo moment).session? site number = world.session? site number := by
    rw [same]
    rfl
  refine ⟨sound, ?_, ?_⟩
  · intro site number found there
    rw [session] at there
    exact waits.healthy site number found there
  · intro task
    have placed := waits.placed task
    refine ⟨?_, ?_, ?_⟩
    · intro site number found there inside
      rw [session] at there
      rw [dispatch]
      exact placed.lines site number found there inside
    · intro pending waiting
      rw [dispatch] at waiting
      obtain ⟨found, there, keeps⟩ := placed.place pending waiting
      rw [idle] at keeps
      obtain ⟨unclosed, inLine⟩ := keeps.asleep List.not_mem_nil
      exact ⟨found, (session _ _).trans there, .inr ⟨unclosed, .inl inLine⟩⟩
    · intro pending due waiting timed
      rw [dispatch] at waiting
      obtain ⟨now, set | ⟨-, woken⟩⟩ := placed.timed pending due waiting timed
      · have later : moment ≤ due := early ⟨due, task⟩ set
        have clock : (world.passTo moment).now = max world.now moment := by rw [same]
        refine ⟨clock ▸ Nat.max_le.mpr ⟨now, later⟩, ?_⟩
        by_cases settled : due ≤ moment
        · right
          refine ⟨clock ▸ Nat.le_trans settled (Nat.le_max_right _ _), ?_⟩
          refine mem_ready_wakeAll_self _ (List.mem_map.mpr ⟨⟨due, task⟩, ?_, rfl⟩)
          exact List.mem_filter.mpr ⟨set, decide_eq_true settled⟩
        · left
          rw [same]
          exact List.mem_filter.mpr ⟨set, decide_eq_true (Nat.lt_of_not_le settled)⟩
      · rw [idle] at woken
        exact absurd woken List.not_mem_nil

/-- A task that is cancelled leaves all others where they should be. -/
theorem Waits.cancel (waits : world.Waits) (sound : (world.cancel me).Sound)
    (there : ∃ found, world.tasks[me]? = some found) : (world.cancel me).Waits := by
  obtain ⟨found, there⟩ := there
  have dispatch : world.dispatch? me = found.dispatch? := by
    simp only [dispatch?, there, Option.bind_some]
  have mine := waits.placed me
  have erased : Steady me { world with ready := world.ready.erase me } :=
    Steady.spares ⟨waits.healthy, fun other _ => waits.placed other⟩ (spares_erase world me)
  have ended := erased.spares (spares_finish _ me .cancelled)
  obtain ⟨-, same⟩ | ⟨-, idle, ready, same, woken⟩ | ⟨pending, waiting, same⟩ :=
    cancel_cases there (waits.sound me found there).1
  · rw [same]
    exact waits
  · rw [same] at sound ⊢
    refine Steady.waits (?_ : Steady me _) sound (.of_idle ?_ ?_)
    · exact ended.spares (.of_same rfl rfl rfl (fun other _ => woken other) fun _ _ => id)
    · exact dispatch?_finish _ me .cancelled
    · exact fun site number session here => mine.away (dispatch.trans idle) here
  · rw [same] at sound ⊢
    obtain ⟨session, here, -⟩ := mine.place pending (dispatch.trans waiting)
    obtain ⟨shift, out⟩ := (waits.healthy _ _ session here).withdraw me
    refine Steady.waits (?_ : Steady me _) sound (.of_idle ?_ ?_)
    · exact ended.spares (spares_onSession (·.withdraw me) here shift)
    · unfold giveUpSend dispatch?
      rw [tasks_onSession]
      exact dispatch?_finish _ me .cancelled
    · refine away_onSession here out fun place number found differ at_place => ?_
      exact mine.away_of_ne (dispatch.trans waiting) at_place differ

/-- Open moves keep all tasks where they should be. -/
theorem Waits.apply (waits : world.Waits) {move : Move} (free : world.isOpen move = true) :
    (world.apply move).Waits := by
  have sound := waits.sound.apply free
  cases move with
  | resume me =>
    cases there : world.tasks[me]? with
    | none =>
      rw [World.apply, resume_absent there] at sound ⊢
      have idle : world.dispatch? me = none := by simp [dispatch?, there]
      have steady : Steady me world := ⟨waits.healthy, fun other _ => waits.placed other⟩
      refine (steady.spares (spares_erase world me)).waits sound (.of_idle idle ?_)
      exact fun site number session here => (waits.placed me).away idle here
    | some found =>
      obtain ⟨steady, placed⟩ :=
        (turn_resume there (waits.sound me found there).1).placed (waits.departs there)
      exact steady.waits sound placed
  | pass moment => exact waits.passTo free sound
  | request site request => exact waits.spares sound fun me _ => spares_spawn world me _ _
  | shutdown sites logged => exact waits.spares sound fun me _ => spares_spawn world me _ _
  | cancel me =>
    refine waits.cancel sound ?_
    simp only [isOpen, isCall] at free
    cases there : world.tasks[me]? with
    | none => simp [there] at free
    | some found => exact ⟨found, rfl⟩
  | enqueue site group topic items =>
    exact waits.spares sound fun me _ =>
      spares_onBroker world me site (·.enqueue group topic items) fun _ => rfl
  | read site number limit =>
    refine waits.onSession site number _ sound fun me session there => ?_
    exact ((waits.healthy site number session there).take limit me).1
  | close site number =>
    refine waits.onSession site number _ sound fun me session there => ?_
    exact ((waits.healthy site number session there).close me).1
  | renew site key =>
    exact waits.spares sound fun me _ =>
      spares_onBroker world me site (fun broker => (broker.renewSession key).1) fun _ => rfl

/-- There are no sessions in a world that has just been opened. -/
theorem Opened.session?_eq_none (opened : world.Opened) (site : SiteId) (number : SessionId) :
    world.session? site number = none := by
  unfold session?
  cases there : world.sites[site]? with
  | none => rfl
  | some found =>
    have fresh := (opened.untouched.2.2.2 found (List.mem_of_getElem? there)).broker
    simp [fresh]

/-- In a world that has just been opened nobody waits. -/
theorem Opened.waits (opened : world.Opened) : world.Waits where
  sound := opened.sound
  healthy := fun site number session there => by simp [opened.session?_eq_none] at there
  placed := by
    intro task
    refine .of_idle ?_ fun site number session there => ?_
    · simp [dispatch?, opened.untouched.1]
    · simp [opened.session?_eq_none] at there

/-- In every world that can be reached, all tasks are where they should be. -/
theorem Waits.reaches {last : World} (waits : world.Waits) (reaches : world.Reaches last) :
    last.Waits :=
  reaches.keeps (P := Waits) (fun _ _ waits free => waits.apply free) waits

/-- What open moves keep where all tasks are where they should be holds along a run. -/
theorem Waits.keeps {P : World → Prop} {last : World} (waits : world.Waits)
    (step : ∀ world move, world.Waits → world.isOpen move = true → P world → P (world.apply move))
    (holds : P world) (reaches : world.Reaches last) : P last := by
  have both : last.Waits ∧ P last := by
    refine reaches.keeps (P := fun world => world.Waits ∧ P world) ?_ ⟨waits, holds⟩
    rintro world move ⟨waits, holds⟩ free
    exact ⟨waits.apply free, step world move waits free holds⟩
  exact both.2

end World

end ClusterGateway
