import ClusterGateway.Proofs.Serving.Calls
import ClusterGateway.Proofs.Shutdown.Bare

/-!
# Shutting a gateway down again

When a shutdown of a gateway has returned, every further one finds all components gone. Its
stop tasks end in their first step, so no time passes while it waits for them; it leaves the
gateway and the cluster as they are, but announces once more that a shutdown has begun, and
that it is completed. So a subscriber is told of nothing exactly as long as no further
shutdown runs. Main statement: `later_shutdown_announces_only`.
-/

namespace ClusterGateway.World

variable {start world last : World} {me call task : TaskId} {site : SiteId}
  {found running : Task} {part : Shutdown} {move : Move} {moves : List Move}
  {said events : List LifecycleEvent}

/-- Some shutdown of a gateway has returned. -/
def HasStopped (world : World) (site : SiteId) : Prop :=
  ∃ task found result, world.tasks[task]? = some found ∧ site ∈ found.purpose.shutsDown ∧
    world.outcome? task = some (.returned result)

/-- A call has not run: it has not been made yet, or still stands in line. -/
def Unbegun (world : World) (call : TaskId) : Prop :=
  ∀ found, world.tasks[call]? = some found → found.stage = .fresh

/-- The tasks that stop components of a gateway for a call have not run, or have ended. -/
def Brief (world : World) (call : TaskId) (site : SiteId) : Prop :=
  ∀ (task : TaskId) (found : Task) component, world.tasks[task]? = some found →
    found.purpose = .stopComponent site component call →
      found.stage = .fresh ∨ ∃ outcome, found.stage = .ended outcome

/-- A shutdown that goes on has run. -/
theorem ran_continueShutdown (mine : world.tasks[me]? = some running) (actor : Option String)
    (logged : Bool) (parts : List Shutdown) :
    (world.continueShutdown me actor logged parts).Ran me := by
  have still := (grows_advanceShutdowns world me actor parts).tasks me running mine
  unfold continueShutdown
  generalize world.advanceShutdowns me actor parts = result at still ⊢
  dsimp only at still ⊢
  split
  · exact ran_setStage still nofun
  · split
    · split <;> exact ran_setStage still nofun
    · exact ran_setStage still nofun

/-- A shutdown that is resumed has run. -/
theorem ran_resume_shutdown (sound : world.Sound) (mine : world.tasks[me]? = some running)
    (shuts : running.purpose.shutsDown ≠ []) : (world.resume me).Ran me := by
  obtain ⟨teardown, whole⟩ := isTeardown_of_shutsDown shuts
  have here : ({ world with ready := world.ready.erase me } : World).tasks[me]? = some running :=
    mine
  obtain ⟨outcome, ended, -⟩ | ⟨-, -, same⟩ | ⟨logged, parts, same, -⟩ :=
    resume_shutdown_forms mine (sound me running mine).1 teardown whole rfl
  · exact Ran.apply sound ⟨running, mine, by simp [ended]⟩ (.resume me)
  · rw [same]
    exact ran_setStage here nofun
  · rw [same]
    exact ran_continueShutdown here _ _ _

/-- A stop task is started in a step of the shutdown that it belongs to. -/
theorem Born.stopsFor {purpose : Purpose} (born : world.Born move purpose)
    (stops : purpose.StopsFor call) : move = .resume call ∧ ∃ parent,
      world.tasks[call]? = some parent ∧ parent.purpose.shutsDown ≠ [] := by
  obtain ⟨site, component, rfl⟩ := stops
  cases born with
  | @borne me parent _ mine bears =>
    unfold Purpose.Bears at bears
    split at bears
    · simp_all
    · simp_all
    · simp_all [Purpose.shutsDown]
    · have some_ := List.ne_nil_of_mem bears.1
      simp_all [Purpose.shutsDown]
    · exact bears.elim
  | @handed me parent _ mine hands =>
    unfold Purpose.HandsOn at hands
    split at hands <;> simp_all

/-- In every world that can be reached, a shutdown that has stop tasks has run. -/
theorem Opened.attended (opened : start.Opened) (reaches : start.Reaches world)
    (there : world.tasks[task]? = some found) (stops : found.purpose.StopsFor call) :
    world.Ran call := by
  have all : ∀ (task : TaskId) (found : Task) call, world.tasks[task]? = some found →
      found.purpose.StopsFor call → world.Ran call := by
    refine opened.sound.keeps (P := fun world => ∀ (task : TaskId) (found : Task) call,
      world.tasks[task]? = some found → found.purpose.StopsFor call → world.Ran call) ?_ ?_ reaches
    · intro world move sound free ran task found call there stops
      obtain born | ⟨earlier, before, same⟩ := born_or_kept sound free there
      · obtain ⟨rfl, parent, mine, shuts⟩ := born.stopsFor stops
        exact ran_resume_shutdown sound mine shuts
      · exact (ran task earlier call before (same ▸ stops)).apply sound move
    · intro task found call there
      simp [opened.untouched.1] at there
  exact all task found call there stops

/-- A call that has not run has no stop tasks. -/
theorem Opened.brief (opened : start.Opened) (reaches : start.Reaches world)
    (unbegun : world.Unbegun call) : world.Brief call site := by
  intro task found component there stops
  obtain ⟨running, mine, aged⟩ := opened.attended reaches there ⟨site, component, stops⟩
  exact absurd (unbegun running mine) aged

/-- A stop task that finds its gateway without components ends, and does nothing to it. -/
theorem resume_stop_of_bare (bare : world.Bare site) (mine : world.tasks[me]? = some running)
    {component : Component} (stops : running.purpose = .stopComponent site component call)
    (brief : running.stage = .fresh ∨ ∃ outcome, running.stage = .ended outcome) :
    (world.resume me).sites = world.sites ∧ ∃ outcome,
      (world.resume me).tasks[me]? = some { running with stage := .ended outcome } := by
  obtain ⟨place, there, gone⟩ := bare
  obtain ⟨actor, purpose, stage⟩ := running
  obtain rfl : purpose = .stopComponent site component call := stops
  rw [resume_eq mine]
  obtain rfl | ⟨outcome, rfl⟩ : stage = .fresh ∨ ∃ outcome, stage = .ended outcome := brief
  · have idle : ({ world with ready := world.ready.erase me } : World).proceed me
        ⟨actor, .stopComponent site component call, .fresh⟩ =
        (({ world with ready := world.ready.erase me } : World).finish me
          (.returned (.ok .done))).wake call := by
      simp only [proceed, World.start, there, beginComponentStop, gone, Bool.false_eq_true, if_false]
    obtain ⟨ready, woken⟩ := exists_wake (({ world with ready := world.ready.erase me } :
      World).finish me (.returned (.ok .done))) call
    rw [idle, woken]
    refine ⟨rfl, .returned (.ok .done), ?_⟩
    show (({ world with ready := world.ready.erase me } : World).finish me _).tasks[me]? = _
    rw [getElem?_finish]
    exact (if_pos rfl).trans (congrArg _ mine)
  · exact ⟨rfl, outcome, mine⟩

/-- The stop tasks of a call that find their gateway without components stay brief. -/
theorem Brief.apply (brief : world.Brief call site) (sound : world.Sound)
    (bare : world.Bare site) (free : world.isOpen move = true) :
    (world.apply move).Brief call site := by
  intro task found component there stops
  cases before : world.tasks[task]? with
  | none => exact .inl (born_apply sound free before there).1
  | some earlier =>
    obtain ⟨stage, later, moved⟩ := kept_apply sound move before
    obtain rfl := Option.some.inj (later.symm.trans there)
    have early := brief task earlier component before stops
    obtain rfl | ⟨alike, -⟩ | ⟨rfl | rfl, -⟩ := moved
    · exact early
    · obtain fresh | ⟨outcome, ended⟩ := early
      · rw [fresh] at alike
        exact alike.elim
      · rw [ended] at alike
        exact alike.elim
    · obtain ⟨-, outcome, ended⟩ := resume_stop_of_bare bare before stops early
      obtain same := Option.some.inj (ended.symm.trans later)
      exact .inr ⟨outcome, (congrArg Task.stage same).symm⟩
    · -- nobody can cancel a stop task
      obtain ⟨actor, purpose, waits⟩ := earlier
      obtain rfl : purpose = .stopComponent site component call := stops
      simp [isOpen, isCall, before] at free

/-- How far a further call has come with a gateway, and what it has announced there. -/
inductive Course (world : World) (call : TaskId) (site : SiteId) : List LifecycleEvent → Prop
  | unbegun (unbegun : world.Unbegun call) : Course world call site []
  | stands {found : Task} {parts : List Shutdown} {part : Shutdown} {said : List LifecycleEvent}
    (there : world.tasks[call]? = some found) (waits : found.stage = .shuttingDown parts)
    (member : part ∈ parts) (begun : part.phase ≠ .opening)
    (stands : world.Stands call site part said) : Course world call site said
  | ended {outcome : Outcome} {said : List LifecycleEvent}
    (ended : world.outcome? call = some outcome) (told : said <+: idleShutdown)
    (complete : ∀ result, outcome = .returned result → said = idleShutdown)
    (silent : said = [] → outcome = .cancelled) : Course world call site said

/-- A further shutdown that has told something is over once its task has ended. -/
theorem Course.finish {outcome : Outcome} (mine : world.tasks[me]? = some running)
    (told : said <+: idleShutdown) (spoken : said ≠ [])
    (complete : ∀ result, outcome = .returned result → said = idleShutdown) :
    Course (world.finish me outcome) me site said := by
  refine .ended ?_ told complete fun silent => absurd silent spoken
  refine outcome?_eq_some_iff.mpr ⟨{ running with stage := .ended outcome }, ?_, rfl⟩
  rw [getElem?_finish, mine]
  exact if_pos rfl

/-- A further shutdown that goes on at a gateway without components announces itself and its end,
and nothing else happens there. -/
theorem Stands.continueShutdown {parts : List Shutdown}
    (mine : world.tasks[me]? = some running) (actor : Option String) (logged : Bool)
    (distinct : (parts.map (·.site)).Nodup) (member : part ∈ parts)
    (stands : world.Stands me site part said) (bare : world.Bare site) :
    ∃ events, Echoes site events world (world.continueShutdown me actor logged parts) ∧
      Course (world.continueShutdown me actor logged parts) me site (said ++ events) := by
  obtain ⟨events, echoes, later, there, begun, after⟩ :=
    stands.advanceShutdowns actor distinct member bare
  have still := (grows_advanceShutdowns world me actor parts).tasks me running mine
  refine ⟨events, ?_⟩
  unfold World.continueShutdown
  generalize world.advanceShutdowns me actor parts = result at echoes there after still ⊢
  obtain ⟨middle, advanced⟩ := result
  dsimp only at echoes there after still ⊢
  have told := after.told
  split
  · exact ⟨echoes, .finish still told.prefix_idleShutdown (told.ne_nil begun) nofun⟩
  · split
    · rename_i finished
      have past : later.phase = .finished := by simpa using List.all_eq_true.mp finished later there
      have whole : said ++ events = idleShutdown := by
        rw [Shutdown.Told, past] at told
        exact told
      split <;>
        exact ⟨echoes, .finish still told.prefix_idleShutdown (told.ne_nil begun) fun _ _ => whole⟩
    · have waits : (middle.setStage me (.shuttingDown advanced)).tasks[me]? =
          some { running with stage := .shuttingDown advanced } := by
        rw [getElem?_setStage, still]
        exact if_pos rfl
      refine ⟨echoes, .stands waits rfl there begun ⟨after.here, told, fun stops joining => ?_⟩⟩
      intro stop named
      obtain ⟨other, component, here, stopping⟩ := after.stops stops joining stop named
      rw [getElem?_setStage, here]
      split
      · exact ⟨_, component, rfl, stopping⟩
      · exact ⟨other, component, rfl, stopping⟩

/-- A task that shuts gateways down has a part for each of them. -/
theorem sites_of_fits {purpose : Purpose} {parts : List Shutdown}
    (fits : (Stage.shuttingDown parts).Fits purpose) : parts.map (·.site) = purpose.shutsDown := by
  unfold Stage.Fits at fits
  split at fits <;> first | exact fits.elim | skip
  all_goals simp_all [Purpose.shutsDown]

/-- A further call that runs announces itself or its end, and does nothing else to a gateway
without components. -/
theorem Course.resume (course : Course world me site said) (sound : world.Sound)
    (mine : world.tasks[me]? = some running) (shuts : site ∈ running.purpose.shutsDown)
    (bare : world.Bare site) : ∃ events, Echoes site events world (world.resume me) ∧
      Course (world.resume me) me site (said ++ events) := by
  obtain ⟨teardown, whole⟩ := isTeardown_of_shutsDown (List.ne_nil_of_mem shuts)
  obtain ⟨fits, distinct⟩ := sound me running mine
  have here : ({ world with ready := world.ready.erase me } : World).tasks[me]? = some running :=
    mine
  obtain ⟨outcome, past, same⟩ | ⟨⟨place, asks, absent⟩, -, -⟩ | ⟨logged, parts, same, waits⟩ :=
    resume_shutdown_forms mine fits teardown whole rfl
  · refine ⟨[], .of_eq (by rw [same]), ?_⟩
    rw [List.append_nil]
    cases course with
    | unbegun unbegun => simp [unbegun running mine] at past
    | stands there waits =>
      obtain rfl := Option.some.inj (mine.symm.trans there)
      simp [waits] at past
    | ended ended told complete silent =>
      exact .ended (outcome?_apply sound (.resume me) ended) told complete silent
  · obtain ⟨found, there, -⟩ := bare
    obtain rfl : site = place := by simpa [asks, Purpose.shutsDown] using shuts
    simp [absent] at there
  · rw [same]
    obtain stage | ⟨fresh, rfl⟩ := waits
    · cases course with
      | unbegun unbegun => simp [unbegun running mine] at stage
      | stands there waits member begun stands =>
        obtain rfl := Option.some.inj (mine.symm.trans there)
        obtain rfl := Stage.shuttingDown.inj (waits.symm.trans stage)
        rw [waits] at fits
        have separate := sites_of_fits fits ▸ distinct
        exact Stands.continueShutdown here running.actor logged separate member
          ⟨stands.here, stands.told, stands.stops⟩ bare
      | ended ended =>
        obtain ⟨found, there, past⟩ := outcome?_eq_some_iff.mp ended
        obtain rfl := Option.some.inj (mine.symm.trans there)
        simp [stage] at past
    · cases course with
      | unbegun unbegun =>
        have separate : ((running.purpose.shutsDown.map fun site =>
            (⟨site, world.now, .opening⟩ : Shutdown)).map (·.site)).Nodup := by
          simpa [Function.comp_def] using distinct
        exact Stands.continueShutdown here running.actor logged separate
          (List.mem_map_of_mem shuts) ⟨rfl, ⟨rfl, rfl⟩, by simp⟩ bare
      | stands there waits =>
        obtain rfl := Option.some.inj (mine.symm.trans there)
        simp [waits] at fresh
      | ended ended =>
        obtain ⟨found, there, past⟩ := outcome?_eq_some_iff.mp ended
        obtain rfl := Option.some.inj (mine.symm.trans there)
        simp [fresh] at past

/-- While a further call waits for its stop tasks, the clock stands. -/
theorem Stands.instant {parts : List Shutdown} {stops : List TaskId}
    (stands : world.Stands call site part said) (sound : world.Sound) (wakeful : world.Wakeful)
    (brief : world.Brief call site) (free : world.isOpen move = true)
    (there : world.tasks[call]? = some found) (shuts : site ∈ found.purpose.shutsDown)
    (waits : found.stage = .shuttingDown parts) (member : part ∈ parts)
    (joining : part.phase = .joining stops) : (world.apply move).now = world.now := by
  have teardown := (isTeardown_of_shutsDown (List.ne_nil_of_mem shuts)).1
  have wakes := wakeful call found there teardown
  rw [waits] at wakes
  have advances := wakes.2 part member
  rw [joining] at advances
  obtain ⟨-, ⟨stop, named, runs⟩ | ready⟩ := advances
  · obtain ⟨other, component, here, stopping⟩ := stands.stops stops joining stop named
    obtain fresh | ⟨outcome, past⟩ := brief stop other component here stopping
    · have ready := wakeful stop other here (by rw [stopping]; trivial)
      rw [fresh] at ready
      exact now_apply_of_ready sound free ready
    · simp [isOver, here, past] at runs
  · exact now_apply_of_ready sound free ready

/-- A further call stays where it is in the moves of others, or is cancelled. -/
theorem Course.apply (course : Course world call site said) (sound : world.Sound)
    (wakeful : world.Wakeful) (brief : world.Brief call site) (free : world.isOpen move = true)
    (shuts : ∀ found, world.tasks[call]? = some found → site ∈ found.purpose.shutsDown)
    (foreign : ∀ found, world.tasks[call]? = some found → move ≠ .resume call) :
    Course (world.apply move) call site said := by
  cases course with
  | unbegun unbegun =>
    cases before : world.tasks[call]? with
    | none => exact .unbegun fun found there => (born_apply sound free before there).1
    | some found =>
      have fresh := unbegun found before
      obtain ⟨stage, later, rfl | ⟨alike, -⟩ | ⟨own | rfl, -⟩⟩ := kept_apply sound move before
      · refine .unbegun fun other there => ?_
        obtain rfl := Option.some.inj (later.symm.trans there)
        exact fresh
      · rw [fresh] at alike
        exact alike.elim
      · exact absurd own (foreign found before)
      · exact .ended (outcome?_cancel_of_fresh sound before fresh) List.nil_prefix nofun
          fun _ => rfl
  | @stands found parts part said there waits member begun stands =>
    obtain ⟨stage, later, rfl | ⟨alike, -⟩ | ⟨own | rfl, -⟩⟩ := kept_apply sound move there
    · refine .stands later waits member begun ⟨stands.here, ?_, fun stops joining => ?_⟩
      · exact stands.told.congr begun fun stops joining =>
          stands.instant sound wakeful brief free there (shuts found there) waits member joining
      · intro stop named
        obtain ⟨other, component, here, stopping⟩ := stands.stops stops joining stop named
        obtain ⟨stage, kept, -⟩ := kept_apply sound move here
        exact ⟨_, component, kept, stopping⟩
    · rw [waits] at alike
      exact alike.elim
    · exact absurd own (foreign found there)
    · obtain same | ended := cancel_ends there
      · rw [World.apply, same]
        exact .stands there waits member begun stands
      · refine .ended (outcome?_eq_some_iff.mpr ⟨_, ended, rfl⟩) stands.told.prefix_idleShutdown
          nofun fun silent => absurd silent (stands.told.ne_nil begun)
  | ended ended told complete silent =>
    exact .ended (outcome?_apply sound move ended) told complete silent

/-- The events that a gateway has announced. -/
def journal (world : World) (site : SiteId) : List LifecycleEvent :=
  (world.sites[site]?).elim [] (·.gateway.lifecycle.journal)

/-- A task acts for a call: it is the call itself, or stops a component for it. -/
def actsFor (world : World) (call task : TaskId) : Bool :=
  task == call ||
    match world.tasks[task]? with
    | some ⟨_, .stopComponent _ _ parent, _⟩ => parent == call
    | _ => false

/-- The events that a gateway announces when a task runs that acts for a call. -/
def announcedFor (site : SiteId) (call : TaskId) (world : World) : Move → List LifecycleEvent
  | .resume task =>
    if world.actsFor call task then
      ((world.resume task).journal site).drop (world.journal site).length
    else []
  | _ => []

/-- A task that acts for a call is the call, or one of its stop tasks. -/
theorem actsFor_iff : world.actsFor call task = true ↔ task = call ∨
    ∃ found, world.tasks[task]? = some found ∧ found.purpose.StopsFor call := by
  unfold actsFor
  rw [Bool.or_eq_true, beq_iff_eq]
  refine or_congr_right ⟨fun acts => ?_, ?_⟩
  · split at acts
    · rename_i actor site component parent stage there
      obtain rfl : parent = call := by simpa using acts
      exact ⟨_, there, site, component, rfl⟩
    · simp at acts
  · rintro ⟨⟨actor, purpose, stage⟩, there, site, component, rfl⟩
    rw [there]
    simp

/-- Where nothing happens but that events are announced, these are the ones. -/
theorem Echoes.announcedFor_eq (bare : world.Bare site)
    (echoes : Echoes site events world (world.resume task))
    (acts : world.actsFor call task = true) :
    announcedFor site call world (.resume task) = events := by
  obtain ⟨place, there, -⟩ := bare
  rw [Echoes, there] at echoes
  rw [announcedFor, if_pos acts, journal, journal, there, echoes]
  exact List.drop_left

/-- A stop task of a further call does nothing to a gateway without components. -/
theorem site?_resume_of_stopsFor (sound : world.Sound) (brief : world.Brief call site)
    (bare : world.Bare site) (mine : world.tasks[me]? = some running)
    (stops : running.purpose.StopsFor call) :
    (world.resume me).sites[site]? = world.sites[site]? := by
  obtain ⟨place, component, purpose⟩ := stops
  by_cases here : place = site
  · rw [here] at purpose
    rw [(resume_stop_of_bare bare mine purpose (brief me running component mine purpose)).1]
  · have strokes := strokes_resume mine (sound me running mine).1
    rw [purpose] at strokes
    exact strokes.site_eq trivial fun there => here (List.mem_singleton.mp there).symm

/-- What a task does that runs for a further call: nothing to the gateway, but that it announces
the next events of the call. -/
theorem Course.step (course : Course world call site said) (sound : world.Sound)
    (wakeful : world.Wakeful) (brief : world.Brief call site) (bare : world.Bare site)
    (free : world.isOpen move = true)
    (shuts : ∀ found, world.tasks[call]? = some found → site ∈ found.purpose.shutsDown) :
    Course (world.apply move) call site (said ++ world.announcedFor site call move) ∧
      ∀ me, move = .resume me → world.actsFor call me = true →
        Echoes site (world.announcedFor site call move) world (world.apply move) := by
  have quiet (kept : Course (world.apply move) call site said)
      (same : ∀ me, move = .resume me → world.actsFor call me = true →
        (world.apply move).sites[site]? = world.sites[site]?) :
      Course (world.apply move) call site (said ++ world.announcedFor site call move) ∧
        ∀ me, move = .resume me → world.actsFor call me = true →
          Echoes site (world.announcedFor site call move) world (world.apply move) := by
    have silent : world.announcedFor site call move = [] := by
      cases move with
      | resume me =>
        by_cases acts : world.actsFor call me = true
        · exact Echoes.announcedFor_eq bare (.of_eq (same me rfl acts)) acts
        · exact if_neg acts
      | _ => rfl
    rw [silent, List.append_nil]
    exact ⟨kept, fun me resumed acts => .of_eq (same me resumed acts)⟩
  by_cases own : ∃ found, world.tasks[call]? = some found ∧ move = .resume call
  · obtain ⟨running, mine, rfl⟩ := own
    obtain ⟨events, echoes, after⟩ := course.resume sound mine (shuts running mine) bare
    rw [echoes.announcedFor_eq bare (actsFor_iff.mpr (.inl rfl))]
    exact ⟨after, fun me resumed acts => echoes⟩
  · have foreign (found : Task) (there : world.tasks[call]? = some found) : move ≠ .resume call :=
      fun resumed => own ⟨found, there, resumed⟩
    refine quiet (course.apply sound wakeful brief free shuts foreign) ?_
    rintro me rfl acts
    obtain rfl | ⟨running, mine, stops⟩ := actsFor_iff.mp acts
    · cases mine : world.tasks[me]? with
      | none => rw [World.apply, resume_absent mine]
      | some running => exact absurd rfl (foreign running mine)
    · exact site?_resume_of_stopsFor sound brief bare mine stops

/-- When a shutdown of a gateway has returned, the gateway is without components. -/
theorem Tended.bare_of_hasStopped (tended : world.Tended site) (stopped : world.HasStopped site) :
    world.Bare site := by
  obtain ⟨place, there⟩ := tended.exists_site
  obtain ⟨task, found, result, here, shuts, returned⟩ := stopped
  exact ⟨place, there, fun component =>
    (lacks_iff there).mp (tended.lacks_of_returned here shuts returned component)⟩

/-- A gateway without components stays so. -/
theorem Bare.reaches (bare : world.Bare site) (tended : world.Tended site)
    (reaches : world.Reaches last) : last.Bare site := by
  obtain ⟨place, there, gone⟩ := bare
  obtain ⟨later, here⟩ := (tended.reaches reaches).exists_site
  exact ⟨later, here, fun component =>
    (lacks_iff here).mp (tended.lacks_reaches reaches ((lacks_iff there).mpr (gone component)))⟩

/-- Along a run that begins at a gateway without components and before a call, the call only
announces events. -/
theorem course_of_play? (opened : start.Opened) (tended : world.Tended site)
    (reaches : start.Reaches world) (bare : world.Bare site) (unbegun : world.Unbegun call)
    (played : world.play? moves = some last)
    (shuts : ∀ found, last.tasks[call]? = some found → site ∈ found.purpose.shutsDown) :
    Course last call site (world.chronicle (announcedFor site call) moves) ∧
      last.Brief call site ∧ ∀ me before, world.Makes moves (.resume me) before →
        before.actsFor call me = true →
          Echoes site (before.announcedFor site call (.resume me)) before (before.resume me) := by
  induction moves, last, played using run_induction with
  | nil =>
    refine ⟨.unbegun unbegun, opened.brief reaches unbegun, ?_⟩
    rintro me before ⟨early, late, split, -⟩
    simp at split
  | concat moves middle move first free ih =>
    have onward : world.Reaches middle := ⟨moves, first⟩
    have kept := tended.reaches onward
    have early (found : Task) (there : middle.tasks[call]? = some found) :
        site ∈ found.purpose.shutsDown := by
      obtain ⟨stage, later, -⟩ := kept_apply kept.sound move there
      exact shuts { found with stage := stage } later
    obtain ⟨course, brief, quiet⟩ := ih early
    have gone := bare.reaches tended onward
    have wakeful := opened.wakeful.reaches opened.sound (reaches.trans onward)
    obtain ⟨after, echoes⟩ := course.step kept.sound wakeful brief gone free early
    rw [chronicle_concat _ first]
    refine ⟨after, brief.apply kept.sound gone free, fun me before makes acts => ?_⟩
    obtain ⟨rfl, rfl⟩ | before := makes.of_concat first
    · exact echoes me rfl acts
    · exact quiet me _ before acts

/-- When some shutdown of a gateway has returned, whatever further call shuts the gateway down,
among whatever else happens: each step of the call, and of the tasks that it starts, leaves the
gateway and the cluster behind it as they are but for the events that it announces. These are that
a shutdown has begun, and that it is completed in no time: both of them when the call has
returned, and none only as long as it has not run, or if it was cancelled before that. -/
theorem later_shutdown_announces_only (opened : start.Opened) (inside : site < start.sites.length)
    (reaches : start.Reaches world) (stopped : world.HasStopped site)
    (unbegun : world.Unbegun call) (played : world.play? moves = some last)
    (there : last.tasks[call]? = some found) (shuts : site ∈ found.purpose.shutsDown) :
    (∀ me before, world.Makes moves (.resume me) before → before.actsFor call me = true →
      Echoes site (before.announcedFor site call (.resume me)) before (before.resume me)) ∧
    world.chronicle (announcedFor site call) moves <+: idleShutdown ∧
    (∀ result, last.outcome? call = some (.returned result) →
      world.chronicle (announcedFor site call) moves = idleShutdown) ∧
    (last.Unbegun call → world.chronicle (announcedFor site call) moves = []) ∧
    (world.chronicle (announcedFor site call) moves = [] →
      last.Unbegun call ∨ last.outcome? call = some .cancelled) := by
  have tended := (opened.tended inside).reaches reaches
  have same (other : Task) (here : last.tasks[call]? = some other) :
      site ∈ other.purpose.shutsDown := by
    obtain rfl := Option.some.inj (there.symm.trans here)
    exact shuts
  obtain ⟨course, -, quiet⟩ := course_of_play? opened tended reaches
    (tended.bare_of_hasStopped stopped) unbegun played same
  refine ⟨quiet, ?_⟩
  generalize world.chronicle (announcedFor site call) moves = said at course ⊢
  have running (parts : List Shutdown) (waits : found.stage = .shuttingDown parts) :
      (∀ result, last.outcome? call ≠ some (.returned result)) ∧ ¬ last.Unbegun call := by
    refine ⟨fun result returned => ?_, fun unbegun => ?_⟩
    · obtain ⟨other, here, past⟩ := outcome?_eq_some_iff.mp returned
      obtain rfl := Option.some.inj (there.symm.trans here)
      simp [waits] at past
    · simp [unbegun found there] at waits
  cases course with
  | unbegun unbegun =>
    refine ⟨List.nil_prefix, fun result returned => ?_, fun _ => rfl, fun _ => .inl unbegun⟩
    obtain ⟨other, here, past⟩ := outcome?_eq_some_iff.mp returned
    simp [unbegun other here] at past
  | stands here waits member begun stands =>
    obtain rfl := Option.some.inj (there.symm.trans here)
    obtain ⟨unreturned, ran⟩ := running _ waits
    exact ⟨stands.told.prefix_idleShutdown, fun result returned => absurd returned (unreturned result),
      fun unbegun => absurd unbegun ran, fun silent => absurd silent (stands.told.ne_nil begun)⟩
  | @ended outcome _ ended told complete silent =>
    refine ⟨told, fun result returned => ?_, fun unbegun => ?_, fun quiet => .inr ?_⟩
    · exact complete result (Option.some.inj (ended.symm.trans returned))
    · obtain ⟨other, here, past⟩ := outcome?_eq_some_iff.mp ended
      simp [unbegun other here] at past
    · rw [ended, silent quiet]

/-- Somebody stops a gateway, and waits for the end. -/
def wholeStop : List Move :=
  [.request 0 .stop, .resume 0, .resume 1, .resume 2, .resume 3, .resume 0]

/-- Somebody stops it again. -/
def secondStop : List Move :=
  [.request 0 .stop, .resume 4, .resume 5, .resume 6, .resume 7, .resume 4]

/-- The second stop returns, and has announced itself and its end. -/
theorem later_shutdown_announces_only_twice : ∃ world last found result, narrowGateway.Opened ∧
    0 < narrowGateway.sites.length ∧ narrowGateway.Reaches world ∧ world.HasStopped 0 ∧
    world.Unbegun 4 ∧ world.play? secondStop = some last ∧ last.tasks[4]? = some found ∧
    0 ∈ found.purpose.shutsDown ∧ last.outcome? 4 = some (.returned result) ∧
    world.chronicle (announcedFor 0 4) secondStop = idleShutdown := by
  have inside : 0 < narrowGateway.sites.length := by decide +kernel
  have ends : (narrowGateway.play? wholeStop).bind (fun world =>
      (world.play? secondStop).map fun last =>
        (world.tasks[0]?, world.tasks.length, last.tasks[4]?)) =
      some (some ⟨none, .request 0 .stop, .ended (.returned (.ok .done))⟩, 4,
        some ⟨none, .request 0 .stop, .ended (.returned (.ok .done))⟩) := rfl
  obtain ⟨world, first, ends⟩ := Option.bind_eq_some_iff.mp ends
  obtain ⟨last, played, same⟩ := Option.map_eq_some_iff.mp ends
  simp only [Prod.mk.injEq] at same
  obtain ⟨stopped, length, there⟩ := same
  have returned : world.HasStopped 0 :=
    ⟨0, _, .ok .done, stopped, List.mem_singleton_self 0, outcome?_eq_some_iff.mpr ⟨_, stopped, rfl⟩⟩
  have unbegun : world.Unbegun 4 := by
    intro found here
    simp [List.getElem?_eq_none (Nat.le_of_eq length)] at here
  have ended : last.outcome? 4 = some (.returned (.ok .done)) :=
    outcome?_eq_some_iff.mpr ⟨_, there, rfl⟩
  obtain ⟨-, -, complete, -⟩ := later_shutdown_announces_only opened_narrowGateway inside
    ⟨wholeStop, first⟩ returned unbegun played there (List.mem_singleton_self 0)
  exact ⟨world, last, _, _, opened_narrowGateway, inside, ⟨wholeStop, first⟩, returned, unbegun,
    played, there, List.mem_singleton_self 0, ended, complete _ ended⟩

/-- All shutdowns are over when a subscriber joins, and a second stop tells it of a shutdown. -/
theorem later_shutdown_is_told : ∃ start world last before after, Opened start ∧
    start.Reaches world ∧ world.HasStopped 0 ∧ (∀ task, world.isOver task = true) ∧
    world.play? secondStop = some last ∧ world.sites[0]? = some before ∧
    last.sites[0]? = some after ∧
    (after.gateway.lifecycle.receiveAll before.gateway.lifecycle.subscribe).1 =
      [.event .shutdownInitiated, .event (.shutdownCompleted 0)] := by
  have ends : (narrowGateway.play? wholeStop).bind (fun world =>
      (world.play? secondStop).bind fun last => (world.sites[0]?).bind fun before =>
        (last.sites[0]?).map fun after =>
          (world.tasks[0]?, (List.range world.tasks.length).all world.isOver,
            (after.gateway.lifecycle.receiveAll before.gateway.lifecycle.subscribe).1)) =
      some (some ⟨none, .request 0 .stop, .ended (.returned (.ok .done))⟩, true,
        [.event .shutdownInitiated, .event (.shutdownCompleted 0)]) := rfl
  obtain ⟨world, first, ends⟩ := Option.bind_eq_some_iff.mp ends
  obtain ⟨last, played, ends⟩ := Option.bind_eq_some_iff.mp ends
  obtain ⟨before, here, ends⟩ := Option.bind_eq_some_iff.mp ends
  obtain ⟨after, there, same⟩ := Option.map_eq_some_iff.mp ends
  simp only [Prod.mk.injEq] at same
  obtain ⟨stopped, past, read⟩ := same
  refine ⟨narrowGateway, world, last, before, after, opened_narrowGateway, ⟨wholeStop, first⟩,
    ⟨0, _, .ok .done, stopped, List.mem_singleton_self 0,
      outcome?_eq_some_iff.mpr ⟨_, stopped, rfl⟩⟩, fun task => ?_, played, here, there, read⟩
  by_cases inside : task < world.tasks.length
  · exact List.all_eq_true.mp past task (List.mem_range.mpr inside)
  · rw [isOver, List.getElem?_eq_none (Nat.le_of_not_lt inside)]

end ClusterGateway.World
