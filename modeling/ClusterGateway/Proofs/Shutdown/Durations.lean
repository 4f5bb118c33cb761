import ClusterGateway.Proofs.Shutdown.Courses
import ClusterGateway.Proofs.Shutdown.Once
import ClusterGateway.Proofs.Shutdown.Standing
import Mathlib.Data.List.MinMax
import Mathlib.Order.Nat

/-!
# How long a shutdown takes

The serving components of a gateway stop at the same time, then the offset manager, and then the
client. Gateways that are shut down together are shut down at the same time. So a shutdown of
gateways that nobody has asked to be stopped before takes exactly as long as the slowest of them,
whatever requests run alongside, and each gateway announces exactly the events of its timetable.
Main statement: `stop_takes`.
-/

namespace ClusterGateway

/-- A shutdown announces its beginning, then the stops of the serving components, each at its own
times and all of them in one order or another, then the rest of its timetable, and nothing else. -/
def Timetable.IsTold (table : Timetable) (told : List (Nat × LifecycleEvent)) : Prop :=
  ∃ middle, told = (table.begun, .shutdownInitiated) :: (middle ++ table.closing .finished) ∧
    (∀ component ∈ Component.serving, middle.filter (tells component) = table.course component) ∧
    ∀ entry ∈ middle, ∃ component ∈ Component.serving, tells component entry = true

namespace World

variable {script : BrokerScript} {start world before after opened last : World} {me task : TaskId}
  {site : SiteId} {sites : List SiteId} {begun due : Nat} {delay : SiteId → Component → Nat}
  {told : SiteId → List (Nat × LifecycleEvent)} {move : Move} {moves : List Move}
  {table : Timetable} {component : Component} {phase : ShutdownPhase}
  {shown : List (Nat × LifecycleEvent)}

/-- A time has not passed, and it does not pass before something has happened: a task is ready, or a
timer is due by then. -/
def ActsBy (world : World) (due : Nat) : Prop :=
  world.now ≤ due ∧ (world.ready ≠ [] ∨ ∃ timer ∈ world.timers, timer.due ≤ due)

/-- What has to happen by a time has to happen by a later one. -/
theorem ActsBy.mono {later : Nat} (acts : world.ActsBy due) (most : due ≤ later) :
    world.ActsBy later :=
  ⟨Nat.le_trans acts.1 most, acts.2.imp_right fun ⟨timer, set, early⟩ =>
    ⟨timer, set, Nat.le_trans early most⟩⟩

/-- Where a task is ready, something has to happen now. -/
theorem actsBy_of_ready (ready : task ∈ world.ready) : world.ActsBy world.now :=
  ⟨Nat.le_refl _, .inl (List.ne_nil_of_mem ready)⟩

/-- Where a task waits for a time, something has to happen by then. -/
theorem AwaitsTime.actsBy (awaits : world.AwaitsTime (task ∈ world.ready) me due) :
    world.ActsBy due := by
  refine ⟨awaits.le, ?_⟩
  obtain ⟨-, set⟩ | ⟨-, ready⟩ := awaits
  · exact .inr ⟨⟨due, me⟩, set, Nat.le_refl _⟩
  · exact .inl (List.ne_nil_of_mem ready)

/-- As long as the stop of a component is not over, something has to happen by its end. -/
theorem StopCourse.actsBy {stop : TaskId} {profile : Profile}
    (course : world.StopCourse table component stop profile shown)
    (runs : world.isOver stop = false) : world.ActsBy (table.begun + table.delay component) := by
  cases course with
  | unrun _ _ ready instant =>
    refine (actsBy_of_ready ready).mono ?_
    rw [instant]
    exact Nat.le_add_right _ _
  | stopping _ _ awaits => exact awaits.actsBy
  | stopped settled => exact absurd (settled.symm.trans runs) (by decide)

/-- As long as the shutdown of a gateway is not over, something has to happen by the end of its
timetable. -/
theorem Proceeds.actsBy
    (proceeds : world.Proceeds (me ∈ world.ready) me table site shown phase)
    (unfinished : phase ≠ .finished) : world.ActsBy table.closed := by
  obtain ⟨lane, profile, middle, underway, -⟩ := proceeds
  have early : table.joined ≤ table.settled := Nat.le_add_right _ _
  have late : table.settled ≤ table.closed := by
    rw [Timetable.closed_eq]
    exact Nat.le_add_right _ _
  cases underway.onTime with
  | joining whole joins =>
    by_cases settled : world.AllOver lane
    · obtain ⟨instant, ready⟩ := joins settled
      refine (actsBy_of_ready ready).mono ?_
      omega
    · obtain ⟨component, serving, runs⟩ : ∃ component ∈ Component.serving,
          world.isOver (lane component) = false := by
        simpa [AllOver] using settled
      have acts := (underway.stops component serving).actsBy runs
      have most := table.le_joined serving
      exact acts.mono (by omega)
  | offsets _ _ _ _ awaits => exact awaits.actsBy.mono late
  | client _ _ awaits => exact awaits.actsBy
  | finished => exact absurd rfl unfinished

/-- The shutdown of a gateway is not over before the end of its timetable. -/
theorem Proceeds.late {woken : Prop}
    (proceeds : world.Proceeds woken me table site shown .finished) :
    table.closed ≤ world.now := by
  obtain ⟨lane, profile, middle, underway, -⟩ := proceeds
  cases underway.onTime with
  | finished _ late => exact late

/-- How long the shutdown of several gateways takes: as long as the slowest of them. -/
def longest (sites : List SiteId) (delay : SiteId → Component → Nat) : Nat :=
  (sites.map fun site => shutdownTime (delay site)).foldr max 0

/-- No gateway takes longer. -/
theorem le_longest (member : site ∈ sites) : shutdownTime (delay site) ≤ longest sites delay :=
  List.le_max_of_le (List.mem_map.mpr ⟨site, member, rfl⟩) (Nat.le_refl _)

/-- Some gateway takes so long, if there is one. -/
theorem longest_le {most : Nat} (bound : ∀ site ∈ sites, shutdownTime (delay site) ≤ most) :
    longest sites delay ≤ most := by
  refine List.max_le_of_forall_le _ _ fun time member => ?_
  obtain ⟨site, there, rfl⟩ := List.mem_map.mp member
  exact bound site there

/-- As long as a call is not over, something has to happen by the end of its timetables. -/
theorem ShutdownCourse.actsBy (course : world.ShutdownCourse me sites begun delay told)
    (runs : world.isOver me = false) : world.ActsBy (begun + longest sites delay) := by
  obtain ⟨running, mine, -, standing⟩ := course.stands
  rw [isOver_eq mine] at runs
  generalize running.stage = stage at standing runs
  cases standing with
  | unrun ready instant =>
    refine (actsBy_of_ready ready).mono ?_
    rw [instant]
    exact Nat.le_add_right _ _
  | underway same unfinished proceeds =>
    obtain ⟨part, member, unfinished⟩ := unfinished
    have place : part.site ∈ sites := same ▸ List.mem_map_of_mem member
    exact ((proceeds part member).2.actsBy unfinished).mono
      (Nat.add_le_add_left (le_longest place) begun)
  | settled => exact absurd runs (by decide)

/-- A call that is over has returned, not before the end of its timetables, and all is announced. -/
theorem ShutdownCourse.returned (course : world.ShutdownCourse me sites begun delay told)
    (settled : world.isOver me = true) :
    world.outcome? me = some (.returned (.ok .done)) ∧
      begun + longest sites delay ≤ world.now ∧
      ∀ site ∈ sites, world.Proceeds (me ∈ world.ready) me ⟨begun, delay site⟩ site (told site)
        .finished := by
  obtain ⟨running, mine, -, standing⟩ := course.stands
  rw [isOver_eq mine] at settled
  generalize stands_at : running.stage = stage at standing settled
  cases standing with
  | unrun => exact absurd settled Bool.false_ne_true
  | underway => exact absurd settled Bool.false_ne_true
  | settled proceeds =>
    have late := course.late
    have most : longest sites delay ≤ world.now - begun := by
      refine longest_le fun site member => ?_
      have closed := (proceeds site member).late
      rw [Timetable.closed] at closed
      exact Nat.le_sub_of_add_le' closed
    exact ⟨outcome?_eq_some_iff.mpr ⟨running, mine, stands_at⟩, by omega, proceeds⟩

/-- A call ends at the end of its timetables. -/
theorem ShutdownCourse.ends (course : world.ShutdownCourse me sites begun delay told)
    (further : (world.apply move).ShutdownCourse me sites begun delay
      (toldAfter told world (world.apply move)))
    (runs : world.isOver me = false) (settled : (world.apply move).isOver me = true) :
    world.now = begun + longest sites delay := by
  have early := (course.actsBy runs).1
  have late := (further.returned settled).2.1
  have still : (world.apply move).now = world.now := by
    obtain same | ⟨moment, rfl, -⟩ := now_apply course.sound move
    · exact same
    · have same : (world.apply (.pass moment)).isOver me = world.isOver me := by
        unfold isOver
        rw [show (world.apply (.pass moment)).tasks = world.tasks from tasks_passTo world moment]
      rw [same, runs] at settled
      exact absurd settled Bool.false_ne_true
  omega

/-- What a gateway announces in a move, and when. -/
def announced (site : SiteId) (world : World) (move : Move) : List (Nat × LifecycleEvent) :=
  (announcements world (world.apply move) site).map (Prod.mk world.now)

/-- The moves of others leave a call alone: it is not cancelled, and no other call shuts its
gateways down. -/
structure Undisturbed (me : TaskId) (sites : List SiteId) (moves : List Move) : Prop where
  kept : .cancel me ∉ moves
  single : ∀ move ∈ moves, ∀ site ∈ sites, site ∉ move.shutsDown

/-- Along a run that leaves it alone, a call keeps to its timetables. -/
theorem ShutdownCourse.play? (course : start.ShutdownCourse me sites begun delay told)
    (alone : Undisturbed me sites moves) (played : start.play? moves = some last) :
    last.ShutdownCourse me sites begun delay
      fun site => told site ++ start.chronicle (announced site) moves := by
  induction moves generalizing start told with
  | nil =>
    obtain rfl := Option.some.inj played
    simpa [chronicle] using course
  | cons move rest ih =>
    simp only [World.play?, Option.ite_none_right_eq_some] at played
    have kept : move ≠ .cancel me := fun same => alone.kept (same ▸ List.mem_cons_self)
    have onward : Undisturbed me sites rest :=
      ⟨fun member => alone.kept (List.mem_cons_of_mem _ member),
        fun other member => alone.single other (List.mem_cons_of_mem _ member)⟩
    have next := course.apply played.1 kept (alone.single move List.mem_cons_self)
    have further := ih next onward played.2
    simp only [toldAfter, List.append_assoc] at further
    exact further

/-- Nobody has asked for a gateway to be stopped: no task shuts it down, or ever has. -/
def Unasked (world : World) (site : SiteId) : Prop :=
  ∀ (task : TaskId) (found : Task), world.tasks[task]? = some found → site ∉ found.purpose.tearsDown

/-- A gateway that nobody has asked to be stopped is seen as before after whatever has happened. -/
theorem profile?_happens (happens : Happens before after) (sound : before.Sound)
    (inside : site < before.sites.length) (unasked : after.Unasked site) :
    before.Unasked site ∧ after.profile? site = before.profile? site := by
  cases happens with
  | attempt parent name config =>
    have alone := leavesAlone_openGateway before parent name config
    refine ⟨?_, ?_⟩
    · rw [Unasked, ← alone.tasks]
      exact unasked
    · exact profile?_congr (alone.others site inside)
  | note actor entries => exact ⟨unasked, rfl⟩
  | @move move free named =>
    have earlier : before.Unasked site := by
      intro task found there
      obtain ⟨stage, later, -⟩ := kept_apply sound move there
      have foreign := unasked task _ later
      exact foreign
    exact ⟨earlier, profile?_apply sound fun task found _ there => earlier task found there⟩

/-- As long as nobody asks for a gateway to be stopped, it is seen as when it was opened. -/
theorem profile?_leads (tended : opened.Tended site) (leads : opened.Leads last)
    (unasked : last.Unasked site) : last.profile? site = opened.profile? site := by
  induction leads with
  | refl => rfl
  | tail leads happens ih =>
    have known := tended.leads leads
    obtain ⟨earlier, same⟩ := profile?_happens happens known.sound known.inside unasked
    exact same.trans (ih earlier)

/-- A gateway was opened in the history of a world. -/
def OpenedIn (script : BrokerScript) (world : World) (site : SiteId) : Prop :=
  ∃ start parent name config opened, Leads { script := script } start ∧
    start.openGateway parent name config = (opened, .ok site) ∧ opened.Leads world

/-- The history goes on. -/
theorem OpenedIn.happens (raised : OpenedIn script before site) (happens : Happens before after) :
    OpenedIn script after site := by
  obtain ⟨start, parent, name, config, opened, past, opens, leads⟩ := raised
  exact ⟨start, parent, name, config, opened, past, opens, leads.tail happens⟩

/-- A gateway that was opened in a history was opened in what it leads to. -/
theorem OpenedIn.leads (raised : OpenedIn script start site) (leads : start.Leads last) :
    OpenedIn script last site := by
  obtain ⟨first, parent, name, config, opened, past, opens, further⟩ := raised
  exact ⟨first, parent, name, config, opened, past, opens, further.trans leads⟩

/-- The history in which a gateway was opened. -/
theorem OpenedIn.past (raised : OpenedIn script world site) :
    Leads { script := script } world := by
  obtain ⟨start, parent, name, config, opened, past, opens, leads⟩ := raised
  have attempt := Happens.attempt start parent name config
  rw [opens] at attempt
  exact (past.tail attempt).trans leads

/-- A gateway that was opened is there. -/
theorem OpenedIn.inside (raised : OpenedIn script world site) : site < world.sites.length := by
  obtain ⟨start, parent, name, config, opened, past, opens, leads⟩ := raised
  exact ((tended_openGateway ((sited_empty script).leads past) opens).leads leads).inside

/-- A gateway that was opened is whole as long as nobody asks for it to be stopped. -/
theorem OpenedIn.whole (raised : OpenedIn script world site) (unasked : world.Unasked site) :
    ∃ profile, world.profile? site = some profile ∧ ∀ component,
      profile.holds component = true ∧ profile.state? component = some .running := by
  obtain ⟨start, parent, name, config, opened, past, opens, leads⟩ := raised
  have tended := tended_openGateway ((sited_empty script).leads past) opens
  obtain ⟨found, there, untouched⟩ := untouched_openGateway opens
  refine ⟨found.gateway.profile, ?_, fun component => ⟨untouched.holds component, ?_⟩⟩
  · rw [profile?_leads tended leads unasked]
    exact profile?_of_site there
  · have running := state?_openGateway opens component
    rw [state?, gateway?, there] at running
    exact running

/-- A call that shuts down gateways which are whole begins its timetables. -/
theorem shutdownCourse_of_whole {purpose : Purpose} (sound : world.Sound)
    (sturdy : world.script.stopFaults = []) (distinct : sites.Nodup) (shuts : purpose.Shuts sites)
    (free : world.isOpen move = true) (calls : world.apply move = (world.spawn none purpose).1)
    (unasked : ∀ site ∈ sites, world.Unasked site)
    (whole : ∀ site ∈ sites, ∃ profile, world.profile? site = some profile ∧ ∀ component,
      profile.holds component = true ∧ profile.state? component = some .running) :
    (world.apply move).ShutdownCourse world.tasks.length sites world.now world.delays
      fun _ => [] := by
  have there := getElem?_spawn_self world none purpose
  have later := sound.apply free
  have idle (site : SiteId) (member : site ∈ sites) (task : TaskId) (found : Task)
      (here : (world.spawn none purpose).1.tasks[task]? = some found)
      (tears : site ∈ found.purpose.tearsDown) : task = world.tasks.length := by
    cases old : world.tasks[task]? with
    | none => exact (getElem?_spawn_of_none world old here).1
    | some earlier =>
      have same := (getElem?_spawn_of_some world old).symm.trans here
      obtain rfl := Option.some.inj same
      exact absurd tears (unasked site member task earlier old)
  rw [calls] at later ⊢
  refine ⟨later, sturdy, fun task found here site member tears =>
    .inl (idle site member task found here tears), distinct, Nat.le_refl _, _, there, shuts, ?_⟩
  refine .unrun (List.mem_append_right _ (List.mem_singleton.mpr rfl)) rfl (fun _ _ => rfl)
    fun site member => ?_
  obtain ⟨profile, seen, all⟩ := whole site member
  refine ⟨profile, seen, rfl, all, fun task found component here stops => ?_, rfl⟩
  have tears : site ∈ found.purpose.tearsDown := by
    rw [stops]
    exact List.mem_singleton.mpr rfl
  obtain rfl := idle site member task found here tears
  obtain rfl := Option.some.inj (there.symm.trans here)
  exact shuts.not_stopsFor _ ⟨site, component, stops⟩

/-- A call that shuts down opened gateways that nobody has asked to be stopped begins its
timetables. -/
theorem shutdownCourse_of_opened {purpose : Purpose} (past : Leads { script := script } world)
    (sturdy : script.stopFaults = []) (distinct : sites.Nodup) (shuts : purpose.Shuts sites)
    (free : world.isOpen move = true) (calls : world.apply move = (world.spawn none purpose).1)
    (raised : ∀ site ∈ sites, OpenedIn script world site)
    (unasked : ∀ site ∈ sites, world.Unasked site) :
    (world.apply move).ShutdownCourse world.tasks.length sites world.now world.delays
      fun _ => [] := by
  have sited := (sited_empty script).leads past
  have firm : world.script.stopFaults = [] := by
    rw [(sited_empty script).script_leads past]
    exact sturdy
  exact shutdownCourse_of_whole sited.sound firm distinct shuts free calls unasked
    fun site member => (raised site member).whole (unasked site member)

/-- A call ends at a time, and has returned when it has ended; until then something goes on that has
to happen by that time. -/
structure EndsAt (start : World) (me : TaskId) (moves : List Move) (last : World) (due : Nat) :
    Prop where
  ends : ∀ move before, start.Makes moves move before → before.isOver me = false →
    (before.apply move).isOver me = true → before.now = due
  returned : last.isOver me = true → last.outcome? me = some (.returned (.ok .done)) ∧ due ≤ last.now
  waits : last.isOver me = false → last.ActsBy due

/-- A call that keeps to its timetables ends when the slowest of its gateways is shut down. -/
theorem ShutdownCourse.endsAt (course : start.ShutdownCourse me sites begun delay fun _ => [])
    (alone : Undisturbed me sites moves) (played : start.play? moves = some last) :
    EndsAt start me moves last (begun + longest sites delay) where
  ends move before makes runs settled := by
    obtain ⟨early, late, rfl, first⟩ := makes
    have before_alone : Undisturbed me sites early :=
      ⟨fun member => alone.kept (List.mem_append_left _ member),
        fun other member => alone.single other (List.mem_append_left _ member)⟩
    have here : move ∈ early ++ move :: late := by simp
    have kept : move ≠ .cancel me := fun same => alone.kept (same ▸ here)
    have stands := course.play? before_alone first
    obtain ⟨-, free, -⟩ := Makes.free ⟨early, late, rfl, first⟩ played
    exact stands.ends (stands.apply free kept (alone.single move here)) runs settled
  returned settled := by
    obtain ⟨outcome, late, -⟩ := (course.play? alone played).returned settled
    exact ⟨outcome, late⟩
  waits runs := (course.play? alone played).actsBy runs

/-- When a call is over, its gateways have announced what their timetables say. -/
theorem ShutdownCourse.isTold (course : start.ShutdownCourse me sites begun delay fun _ => [])
    (alone : Undisturbed me sites moves) (played : start.play? moves = some last)
    (settled : last.isOver me = true) (member : site ∈ sites) :
    Timetable.IsTold ⟨begun, delay site⟩ (start.chronicle (announced site) moves) := by
  obtain ⟨-, -, proceeds⟩ := (course.play? alone played).returned settled
  obtain ⟨lane, profile, middle, underway, complete⟩ := proceeds site member
  refine ⟨middle, complete, fun component serving => ?_, underway.serving⟩
  cases underway.onTime with
  | finished stopped =>
    exact ((underway.stops component serving).of_over (stopped component serving)).1

end World

namespace Registry

open World

variable {script : BrokerScript} {start world after : World} {config : AppConfig}
  {registry : Registry}

/-- Gateways that are opened one after the other are distinct, and each of them was opened in the
history of the last. -/
theorem openedIn_openAll (opened : List (String × SiteId))
    {configs : List (String × GatewayConfig)} {all : List (String × SiteId)}
    (past : Leads { script := script } world)
    (distinct : (opened.map (·.2)).Nodup)
    (raised : ∀ site ∈ opened.map (·.2), OpenedIn script world site)
    (opens : openAll world opened configs = (after, .ok all)) :
    Leads { script := script } after ∧ (all.map (·.2)).Nodup ∧
      ∀ site ∈ all.map (·.2), OpenedIn script after site := by
  induction configs generalizing world opened with
  | nil =>
    obtain ⟨rfl, same⟩ := Prod.mk.inj opens
    obtain rfl := Except.ok.inj same
    exact ⟨past, distinct, raised⟩
  | cons config rest ih =>
    obtain ⟨name, config⟩ := config
    have attempt := Happens.attempt world (.root "proxy") name config
    unfold openAll at opens
    split at opens
    · rename_i later new raises
      rw [raises] at attempt
      refine ih _ (past.tail attempt) ?_ ?_ opens
      · exact nodup_sites_concat distinct (fun site member => (raised site member).inside) raises
      · intro site member
        rw [List.map_append, List.mem_append] at member
        obtain old | added := member
        · exact (raised site old).happens attempt
        · obtain rfl := List.mem_singleton.mp added
          exact ⟨world, _, _, _, later, past, raises, .refl⟩
    · exact absurd (Prod.mk.inj opens).2 nofun

/-- The gateways of a registry are distinct, and each of them was opened in the history of the
registry. -/
theorem openedIn_openFrom (past : Leads { script := script } start)
    (opens : openFrom start config = (after, .ok registry)) :
    Leads { script := script } after ∧ registry.sites.Nodup ∧
      ∀ site ∈ registry.sites, OpenedIn script after site := by
  unfold openFrom at opens
  split at opens
  · split at opens
    · rename_i later clusters all
      obtain ⟨leads, distinct, raised⟩ :=
        openedIn_openAll [] past List.nodup_nil
          (fun site member => absurd member List.not_mem_nil) all
      obtain ⟨rfl, same⟩ := Prod.mk.inj opens
      obtain rfl := Except.ok.inj same
      have noted := Happens.note later none
        [⟨.info, "all cluster proxies started", [("clusters", toString clusters.length),
          ("default_cluster", config.defaultCluster)]⟩]
      exact ⟨leads.tail noted, distinct, fun site member => (raised site member).happens noted⟩
    · exact absurd (Prod.mk.inj opens).2 nofun
  · exact absurd (Prod.mk.inj opens).2 nofun

end Registry

namespace World

variable {script : BrokerScript}

/-- Where no stop breaks down: the stop of a gateway that was opened, and that nobody has asked to be
stopped before, takes exactly as long as its slowest serving component, its offset manager and its
client together, whatever requests run alongside; and it announces exactly the events of its
timetable. The stop of a registry of such gateways takes as long as that of the slowest of them. -/
theorem stop_takes (sturdy : script.stopFaults = []) :
    (∀ world site moves last, OpenedIn script world site → world.Unasked site →
      Undisturbed world.tasks.length [site] moves →
        (world.apply (.request site .stop)).play? moves = some last →
          EndsAt (world.apply (.request site .stop)) world.tasks.length moves last
              (world.now + shutdownTime (world.delays site)) ∧
            (last.isOver world.tasks.length = true → Timetable.IsTold ⟨world.now, world.delays site⟩
              ((world.apply (.request site .stop)).chronicle (announced site) moves))) ∧
    ∀ start config opened registry world logged moves last, Leads { script := script } start →
      Registry.openFrom start config = (opened, .ok registry) → opened.Leads world →
        (∀ site ∈ registry.sites, world.Unasked site) →
          Undisturbed world.tasks.length registry.sites moves →
            (world.apply (.shutdown registry.sites logged)).play? moves = some last →
              EndsAt (world.apply (.shutdown registry.sites logged)) world.tasks.length moves last
                  (world.now + longest registry.sites world.delays) ∧
                (last.isOver world.tasks.length = true → ∀ site ∈ registry.sites,
                  Timetable.IsTold ⟨world.now, world.delays site⟩
                    ((world.apply (.shutdown registry.sites logged)).chronicle (announced site)
                      moves)) := by
  refine ⟨fun world site moves last raised unasked alone played => ?_,
    fun start config opened registry world logged moves last past opens leads unasked alone played =>
      ?_⟩
  · have course : (world.apply (.request site .stop)).ShutdownCourse world.tasks.length [site]
        world.now world.delays fun _ => [] := by
      refine shutdownCourse_of_opened raised.past sturdy (by simp)
        (.inl ⟨site, rfl, rfl⟩) rfl rfl ?_ ?_
      · intro place member
        rw [List.mem_singleton.mp member]
        exact raised
      · intro place member
        rw [List.mem_singleton.mp member]
        exact unasked
    have single : longest [site] world.delays = shutdownTime (world.delays site) := Nat.max_zero _
    rw [← single]
    exact ⟨course.endsAt alone played, fun settled =>
      course.isTold alone played settled (List.mem_singleton.mpr rfl)⟩
  · obtain ⟨first, distinct, raised⟩ := Registry.openedIn_openFrom past opens
    have course : (world.apply (.shutdown registry.sites logged)).ShutdownCourse world.tasks.length
        registry.sites world.now world.delays fun _ => [] :=
      shutdownCourse_of_opened (first.trans leads) sturdy distinct (.inr ⟨logged, rfl⟩)
        (world.isOpen_shutdown distinct logged) rfl
        (fun site member => (raised site member).leads leads) unasked
    exact ⟨course.endsAt alone played, fun settled site member =>
      course.isTold alone played settled member⟩

/-- Clusters whose producers take some time to stop, and one whose consumer takes even longer. -/
def unevenStops : BrokerScript where
  stopDelays := [(.producer, 100), (.offsets, 20)]
  ownStopDelays := [(("proxy/b", .consumer), 300)]

/-- A registry of two gateways before those clusters. -/
def unevenRegistry : World := (Registry.openFrom { script := unevenStops } twoClusters).1

/-- The first of the gateways is stopped. -/
def stopOfOne : List Move :=
  [.resume 0, .resume 1, .resume 2, .resume 3, .resume 0, .pass 100, .resume 1, .resume 0, .pass 120,
    .resume 0]

/-- Both of the gateways are stopped. -/
def stopOfBoth : List Move :=
  [.resume 0, .resume 1, .resume 2, .resume 3, .resume 4, .resume 5, .resume 6, .resume 0, .pass 100,
    .resume 1, .resume 4, .resume 0, .pass 120, .resume 0, .pass 300, .resume 5, .resume 0, .pass 320,
    .resume 0]

/-- The first gateway alone takes as long as its producer and its offset manager together; the
registry takes as long as the consumer of the second and its offset manager. -/
theorem stop_takes_uneven : ∃ registry last final,
    Registry.openFrom { script := unevenStops } twoClusters = (unevenRegistry, .ok registry) ∧
    (unevenRegistry.apply (.request 0 .stop)).play? stopOfOne = some last ∧
    last.isOver 0 = true ∧
    EndsAt (unevenRegistry.apply (.request 0 .stop)) 0 stopOfOne last 120 ∧
    Timetable.IsTold ⟨0, unevenRegistry.delays 0⟩
      ((unevenRegistry.apply (.request 0 .stop)).chronicle (announced 0) stopOfOne) ∧
    (unevenRegistry.apply (.shutdown registry.sites true)).play? stopOfBoth = some final ∧
    final.isOver 0 = true ∧
    EndsAt (unevenRegistry.apply (.shutdown registry.sites true)) 0 stopOfBoth final 320 := by
  obtain ⟨registry, opens, sites⟩ : ∃ registry,
      Registry.openFrom { script := unevenStops } twoClusters = (unevenRegistry, .ok registry) ∧
        registry.sites = [0, 1] := ⟨_, rfl, rfl⟩
  have past : Leads { script := unevenStops } { script := unevenStops } := .refl
  obtain ⟨-, -, raised⟩ := Registry.openedIn_openFrom past opens
  have idle : unevenRegistry.tasks = [] := rfl
  have now : unevenRegistry.now = 0 := rfl
  have unasked (site : SiteId) : unevenRegistry.Unasked site := by
    intro task found there
    simp [idle] at there
  have one : ((unevenRegistry.apply (.request 0 .stop)).play? stopOfOne).map
      (fun last => last.isOver 0) = some true := by decide +kernel
  have both : ((unevenRegistry.apply (.shutdown [0, 1] true)).play? stopOfBoth).map
      (fun last => last.isOver 0) = some true := by decide +kernel
  obtain ⟨last, played, settled⟩ := Option.map_eq_some_iff.mp one
  obtain ⟨final, played_both, settled_both⟩ := Option.map_eq_some_iff.mp both
  have first : shutdownTime (unevenRegistry.delays 0) = 120 := by decide +kernel
  have slowest : longest [0, 1] unevenRegistry.delays = 320 := by decide +kernel
  obtain ⟨single, several⟩ := @stop_takes unevenStops rfl
  have alone : Undisturbed unevenRegistry.tasks.length [0] stopOfOne :=
    ⟨by simp [stopOfOne], by decide⟩
  have together : Undisturbed unevenRegistry.tasks.length registry.sites stopOfBoth := by
    rw [sites]
    exact ⟨by simp [stopOfBoth], by decide⟩
  have member : 0 ∈ registry.sites := by simp [sites]
  obtain ⟨ends, told⟩ := single unevenRegistry 0 stopOfOne last (raised 0 member) (unasked 0) alone
    played
  rw [← sites] at played_both slowest
  obtain ⟨ends_both, -⟩ := several _ _ _ registry unevenRegistry true stopOfBoth final past opens
    .refl (fun site _ => unasked site) together played_both
  rw [first, now] at ends
  rw [slowest, now] at ends_both
  exact ⟨registry, last, final, opens, played, settled, ends, told settled, played_both, settled_both,
    ends_both⟩

end World

end ClusterGateway
