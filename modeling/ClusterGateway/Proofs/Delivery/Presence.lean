import ClusterGateway.Proofs.Delivery.Precedence
import ClusterGateway.Proofs.Delivery.Waiting
import ClusterGateway.Proofs.World.Waking

/-!
# The line of ready tasks

While a task runs, others join the line at its end, and so do all tasks that it starts
(`Lengthens`). Whoever is in the line, or has a timer, or is to be woken at the end of a task,
is there (`Peopled`); so a task that is started is new in the line. Main statement:
`Opened.peopled`.
-/

namespace ClusterGateway

/-- A task that another has started wakes that one at its end, if any. -/
theorem Purpose.Bears.rouses {parent other : TaskId} {purpose child : Purpose}
    (bears : purpose.Bears parent child) (rouses : child.Rouses other) : other = parent := by
  cases child with
  | stopComponent site component owner =>
    obtain rfl : other = owner := rouses
    unfold Purpose.Bears at bears
    split at bears <;> simp_all
  | _ => exact rouses.elim

/-- A task that delivers an acknowledgement wakes nobody at its end. -/
theorem Purpose.HandsOn.not_rouses {parent other : TaskId} {purpose child : Purpose}
    (handed : purpose.HandsOn parent child) : ¬ child.Rouses other := by
  cases child with
  | deliverAck => exact id
  | _ =>
    unfold Purpose.HandsOn at handed
    split at handed <;> simp_all

namespace World

variable {world before middle after : World} {me : TaskId} {purpose : Purpose}
  {sends hands : Prop} {move : Move} {site : SiteId} {number : SessionId}

/-- A task that is woken stands in the line once. -/
theorem nodup_wake (distinct : world.ready.Nodup) (task : TaskId) :
    (world.wake task).ready.Nodup := by
  unfold wake
  split
  · exact distinct
  · rename_i absent
    have away : task ∉ world.ready := by simpa using absent
    refine List.nodup_append.mpr ⟨distinct, List.pairwise_singleton _ _, ?_⟩
    rintro other old new there rfl
    exact away (List.mem_singleton.mp there ▸ old)

/-- Tasks that are woken stand in the line once. -/
theorem nodup_wakeAll (distinct : world.ready.Nodup) (tasks : List TaskId) :
    (world.wakeAll tasks).ready.Nodup := by
  induction tasks generalizing world with
  | nil => exact distinct
  | cons first rest ih => exact ih (nodup_wake distinct first)

/-- Tasks that are woken join the line at its end. -/
theorem exists_ready_wakeAll (world : World) (tasks : List TaskId) :
    ∃ more, (world.wakeAll tasks).ready = world.ready ++ more ∧ ∀ task ∈ more, task ∈ tasks := by
  induction tasks generalizing world with
  | nil => exact ⟨[], (List.append_nil _).symm, nofun⟩
  | cons first rest ih =>
    obtain ⟨more, joined, named⟩ := ih (world.wake first)
    show ∃ more, ((world.wake first).wakeAll rest).ready = _ ∧ _
    rw [joined]
    unfold wake
    split
    · exact ⟨more, rfl, fun task there => List.mem_cons_of_mem _ (named task there)⟩
    · refine ⟨first :: more, by simp, fun task there => ?_⟩
      rcases List.mem_cons.mp there with rfl | later
      · exact List.mem_cons_self
      · exact List.mem_cons_of_mem _ (named task later)

/-- A task that is woken joins the line at its end, if at all. -/
theorem exists_ready_wake (world : World) (task : TaskId) :
    ∃ more, (world.wake task).ready = world.ready ++ more ∧ ∀ other ∈ more, other = task := by
  obtain ⟨more, joined, named⟩ := exists_ready_wakeAll world [task]
  exact ⟨more, joined, fun other there => List.mem_singleton.mp (named other there)⟩

/-- Woken tasks join a line that one task may have left. -/
theorem joined_wakeAll {line : List TaskId} (tasks : List TaskId)
    (left : world.ready = line ∨ world.ready = line.erase me) :
    Joined me tasks line (world.wakeAll tasks).ready := by
  obtain ⟨more, joined, -⟩ := exists_ready_wakeAll world tasks
  have still {task : TaskId} (differ : task ≠ me) (there : task ∈ line) : task ∈ world.ready := by
    rcases left with same | same
    · rw [same]
      exact there
    · rw [same]
      exact (List.mem_erase_of_ne differ).mpr there
  have absent {task : TaskId} (outside : task ∉ line) : task ∉ world.ready := by
    rcases left with same | same
    · rw [same]
      exact outside
    · rw [same]
      exact fun there => outside (List.mem_of_mem_erase there)
  refine ⟨fun task differ there => ?_, fun first second differ front => ?_,
    fun first second differ there outside => ?_, fun first second outside beyond front => ?_⟩
  · rw [joined]
    exact List.mem_append_left _ (still differ there)
  · rw [joined]
    rcases left with same | same
    · rw [same]
      exact front.append more
    · rw [same]
      exact (front.erase differ).append more
  · rw [joined]
    exact .of_new (still differ there) (absent outside) more
  · obtain ⟨early, late, rfl, there, beyond_early⟩ := front
    have split : world.wakeAll (early ++ late) = (world.wakeAll early).wakeAll late :=
      List.foldl_append ..
    obtain ⟨first_more, first_joined, named⟩ := exists_ready_wakeAll world early
    obtain ⟨rest, rest_joined, -⟩ := exists_ready_wakeAll (world.wakeAll early) late
    rw [split, rest_joined]
    refine .of_new (mem_ready_wakeAll_self world there) ?_ rest
    rw [first_joined]
    intro inside
    rcases List.mem_append.mp inside with old | new
    · exact absent beyond old
    · exact beyond_early (named second new)

/-- Whoever is served by a change of a session joins a line that one task may have left. -/
theorem joined_onSession {line : List TaskId} {session : Session}
    (there : world.session? site number = some session)
    (change : Session → Session × List TaskId)
    (left : world.ready = line ∨ world.ready = line.erase me) :
    Joined me (change session).2 line (world.onSession site number change).ready := by
  obtain ⟨absent, -⟩ | ⟨found, here, same⟩ := onSession_cases world site number change
  · exact absurd (absent.symm.trans there) (by simp)
  · obtain rfl := Option.some.inj (there.symm.trans here)
    rw [same]
    exact joined_wakeAll _ left

/-- Tasks join the line at its end, and all that are started do. -/
structure Lengthens (before after : World) : Prop where
  length : before.tasks.length ≤ after.tasks.length
  ready : ∃ more, after.ready = before.ready ++ more ∧
    ∀ task, before.tasks.length ≤ task → task < after.tasks.length → task ∈ more

/-- Neither the tasks nor the line change. -/
theorem Lengthens.of_eq (length : after.tasks.length = before.tasks.length)
    (ready : after.ready = before.ready) : Lengthens before after := by
  refine ⟨Nat.le_of_eq length.symm, [], by rw [ready, List.append_nil], fun task new there => ?_⟩
  omega

/-- One change after the other. -/
theorem Lengthens.trans (first : Lengthens before middle) (second : Lengthens middle after) :
    Lengthens before after := by
  obtain ⟨more, joined, all⟩ := first.ready
  obtain ⟨rest, then_, others⟩ := second.ready
  refine ⟨Nat.le_trans first.length second.length, more ++ rest, ?_, fun task new there => ?_⟩
  · rw [then_, joined, List.append_assoc]
  · by_cases early : task < middle.tasks.length
    · exact List.mem_append_left _ (all task new early)
    · exact List.mem_append_right _ (others task (Nat.le_of_not_lt early) there)

/-- Woken tasks join the line. -/
theorem lengthens_wakeAll (world : World) (tasks : List TaskId) :
    Lengthens world (world.wakeAll tasks) := by
  obtain ⟨more, joined, -⟩ := exists_ready_wakeAll world tasks
  obtain ⟨ready, same⟩ := exists_wakeAll world tasks
  have length : (world.wakeAll tasks).tasks.length = world.tasks.length := by rw [same]
  refine ⟨Nat.le_of_eq length.symm, more, joined, fun task new there => ?_⟩
  omega

/-- A woken task joins the line. -/
theorem lengthens_wake (world : World) (task : TaskId) : Lengthens world (world.wake task) :=
  lengthens_wakeAll world [task]

/-- A task that is started joins the line. -/
theorem lengthens_spawn (world : World) (actor : Option String) (purpose : Purpose) :
    Lengthens world (world.spawn actor purpose).1 := by
  refine ⟨by simp [spawn], [world.tasks.length], rfl, fun task new there => ?_⟩
  simp only [spawn, List.length_append, List.length_singleton] at there
  exact List.mem_singleton.mpr (by omega)

/-- Whoever is served by a change of a session joins the line. -/
theorem lengthens_onSession (world : World) (site : SiteId) (number : SessionId)
    (change : Session → Session × List TaskId) :
    Lengthens world (world.onSession site number change) := by
  obtain ⟨-, same⟩ | ⟨found, -, same⟩ := onSession_cases world site number change
  · rw [same]
    exact .of_eq rfl rfl
  · rw [same]
    refine Lengthens.trans ?_ (lengthens_wakeAll _ _)
    exact .of_eq rfl rfl

/-- A stroke only adds to the end of the line. -/
theorem Stroke.lengthens (stroke : Stroke me purpose sends hands before after) :
    Lengthens before after := by
  cases stroke with
  | wake other => exact lengthens_wake before other
  | setStage stage => exact .of_eq (List.length_modify ..) rfl
  | finish outcome => exact .of_eq (List.length_modify ..) rfl
  | spawn actor child => exact lengthens_spawn before actor child
  | handOn actor child => exact lengthens_spawn before actor child
  | tell target answer =>
    obtain same | ⟨found, -, -, same⟩ := tellAnswer_cases before target answer
    · rw [same]
      exact .of_eq rfl rfl
    · rw [same]
      refine Lengthens.trans ?_ (lengthens_wake _ target)
      exact .of_eq (List.length_modify ..) rfl
  | setState site actor component state =>
    obtain ⟨-, same⟩ | ⟨entries, same⟩ := setState_cases before site actor component state
    · rw [same]
      exact .of_eq rfl rfl
    · rw [same]
      exact .of_eq rfl rfl
  | touch site session change => exact lengthens_onSession before site session change
  | _ => exact .of_eq rfl rfl

/-- Strokes only add to the end of the line. -/
theorem Strokes.lengthens (strokes : Strokes me purpose sends hands before after) :
    Lengthens before after :=
  strokes.keeps (fun _ => .of_eq rfl rfl) Lengthens.trans Stroke.lengthens

/-- A move takes nobody out of the line but its own task, and only adds to the end. -/
theorem lengthens_apply (sound : world.Sound) (move : Move) : ∃ line,
    (line = world.ready ∨ ∃ task, move.IsOwn task ∧ line = world.ready.erase task) ∧
      Lengthens { world with ready := line } (world.apply move) := by
  cases move with
  | resume me =>
    refine ⟨_, .inr ⟨me, .inl rfl, rfl⟩, ?_⟩
    cases there : world.tasks[me]? with
    | none =>
      rw [apply, resume_absent there]
      exact .of_eq rfl rfl
    | some running => exact (strokes_resume there (sound me running there).1).lengthens
  | pass moment =>
    refine ⟨_, .inl rfl, ?_⟩
    unfold apply passTo
    refine Lengthens.trans ?_ (lengthens_wakeAll _ _)
    exact .of_eq rfl rfl
  | request site request => exact ⟨_, .inl rfl, lengthens_spawn world none _⟩
  | shutdown sites logged => exact ⟨_, .inl rfl, lengthens_spawn world none _⟩
  | cancel me =>
    have ended : Lengthens ({ world with ready := world.ready.erase me } : World)
        (({ world with ready := world.ready.erase me } : World).finish me .cancelled) :=
      .of_eq (List.length_modify ..) rfl
    obtain same | ⟨_, rfl, same | ⟨place, session, same⟩ | ⟨parent, same⟩⟩ :=
      cancel_forms world me
    · refine ⟨_, .inl rfl, ?_⟩
      rw [apply, same]
      exact .of_eq rfl rfl
    · refine ⟨_, .inr ⟨me, .inr rfl, rfl⟩, ?_⟩
      rw [apply, same]
      exact ended
    · refine ⟨_, .inr ⟨me, .inr rfl, rfl⟩, ?_⟩
      rw [apply, same]
      exact ended.trans (lengthens_onSession _ place session (·.withdraw me))
    · refine ⟨_, .inr ⟨me, .inr rfl, rfl⟩, ?_⟩
      rw [apply, same]
      exact ended.trans (lengthens_wake _ parent)
  | enqueue site group topic items => exact ⟨_, .inl rfl, .of_eq rfl rfl⟩
  | read site number limit => exact ⟨_, .inl rfl, lengthens_onSession world site number _⟩
  | close site number => exact ⟨_, .inl rfl, lengthens_onSession world site number Session.close⟩
  | renew site key => exact ⟨_, .inl rfl, .of_eq rfl rfl⟩

/-- Whoever stands in front of another still does after a move that is not its own. -/
theorem inFront_apply (sound : world.Sound) {first second : TaskId}
    (foreign : ¬ move.IsOwn first) (front : InFront world.ready first second) :
    InFront (world.apply move).ready first second := by
  obtain ⟨line, left, longer⟩ := lengthens_apply sound move
  obtain ⟨more, joined, -⟩ := longer.ready
  rw [joined]
  obtain rfl | ⟨task, own, rfl⟩ := left
  · exact front.append more
  · have differ : first ≠ task := fun same => foreign (same ▸ own)
    exact (front.erase differ).append more

/-- A task that a move has started is ready. -/
theorem ready_of_new (sound : world.Sound) {task : TaskId} (new : world.tasks.length ≤ task)
    (there : task < (world.apply move).tasks.length) : task ∈ (world.apply move).ready := by
  obtain ⟨line, -, longer⟩ := lengthens_apply sound move
  obtain ⟨more, joined, all⟩ := longer.ready
  rw [joined]
  exact List.mem_append_right _ (all task new there)

/-- Whoever is in the line, has a timer, or is to be woken by a task that stops a component, is
there, and nobody is in the line twice. -/
structure Peopled (world : World) : Prop where
  distinct : world.ready.Nodup
  ready : ∀ task ∈ world.ready, task < world.tasks.length
  timers : ∀ timer ∈ world.timers, timer.task < world.tasks.length
  parents : ∀ (task : TaskId) found parent, world.tasks[task]? = some found →
    found.purpose.Rouses parent → parent < world.tasks.length

/-- Tasks, timers and ready tasks are those that were there, and others that are there. -/
theorem Peopled.of_more (peopled : before.Peopled)
    (length : before.tasks.length ≤ after.tasks.length) (distinct : after.ready.Nodup)
    (ready : ∀ task ∈ after.ready, task ∈ before.ready ∨ task < after.tasks.length)
    (timers : ∀ timer ∈ after.timers, timer ∈ before.timers ∨ timer.task < after.tasks.length)
    (parents : ∀ (task : TaskId) found, after.tasks[task]? = some found →
      (∃ earlier, before.tasks[task]? = some earlier ∧ earlier.purpose = found.purpose) ∨
        ∀ parent, found.purpose.Rouses parent → parent < after.tasks.length) :
    after.Peopled where
  distinct := distinct
  ready := fun task there => (ready task there).elim
    (fun old => Nat.lt_of_lt_of_le (peopled.ready task old) length) id
  timers := fun timer set => (timers timer set).elim
    (fun old => Nat.lt_of_lt_of_le (peopled.timers timer old) length) id
  parents := by
    intro task found parent there rouses
    obtain ⟨earlier, old, same⟩ | new := parents task found there
    · rw [← same] at rouses
      exact Nat.lt_of_lt_of_le (peopled.parents task earlier parent old rouses) length
    · exact new parent rouses

/-- Tasks keep what they are for. -/
theorem Peopled.of_setStage (peopled : before.Peopled) {target : TaskId} {stage : Stage}
    (tasks : after.tasks = (before.setStage target stage).tasks) (distinct : after.ready.Nodup)
    (ready : ∀ task ∈ after.ready, task ∈ before.ready ∨ task < after.tasks.length)
    (timers : ∀ timer ∈ after.timers, timer ∈ before.timers) : after.Peopled := by
  refine peopled.of_more (by simp [tasks, setStage]) distinct ready
    (fun timer set => .inl (timers timer set)) fun task found there => .inl ?_
  rw [tasks, getElem?_setStage] at there
  split at there
  · obtain ⟨earlier, old, rfl⟩ := Option.map_eq_some_iff.mp there
    exact ⟨earlier, old, rfl⟩
  · exact ⟨found, there, rfl⟩

/-- The tasks are the same. -/
theorem Peopled.of_same (peopled : before.Peopled) (tasks : after.tasks = before.tasks)
    (distinct : after.ready.Nodup)
    (ready : ∀ task ∈ after.ready, task ∈ before.ready ∨ task < before.tasks.length)
    (timers : ∀ timer ∈ after.timers, timer ∈ before.timers ∨ timer.task < before.tasks.length) :
    after.Peopled := by
  refine peopled.of_more (Nat.le_of_eq (by rw [tasks])) distinct (by rwa [tasks])
    (by rwa [tasks]) ?_
  intro task found there
  rw [tasks] at there
  exact .inl ⟨found, there, rfl⟩

/-- A timer of a task that is there keeps the world peopled. -/
theorem Peopled.setTimer (peopled : world.Peopled) (mine : me < world.tasks.length) (due : Nat) :
    (world.setTimer me due).Peopled := by
  refine peopled.of_same rfl peopled.distinct (fun task there => .inl there) fun timer set => ?_
  rcases List.mem_append.mp set with old | new
  · exact .inl old
  · rw [List.mem_singleton.mp new]
    exact .inr mine

/-- A task is started that wakes nobody who is not there. -/
theorem Peopled.spawn (peopled : world.Peopled) (actor : Option String) {child : Purpose}
    (known : ∀ parent, child.Rouses parent → parent < world.tasks.length) :
    (world.spawn actor child).1.Peopled := by
  have length : (world.spawn actor child).1.tasks.length = world.tasks.length + 1 := by
    simp [World.spawn]
  refine peopled.of_more (by omega) ?_ ?_ (fun timer set => .inl set) fun task found there => ?_
  · refine List.nodup_append.mpr ⟨peopled.distinct, List.pairwise_singleton _ _, ?_⟩
    rintro other old new there rfl
    exact Nat.lt_irrefl _ (List.mem_singleton.mp there ▸ peopled.ready other old)
  · intro task there
    rcases List.mem_append.mp there with old | new
    · exact .inl old
    · rw [List.mem_singleton.mp new, length]
      exact .inr (Nat.lt_succ_self _)
  · cases old : world.tasks[task]? with
    | some earlier =>
      rw [getElem?_spawn_of_some world old] at there
      obtain rfl := Option.some.inj there
      exact .inl ⟨earlier, rfl, rfl⟩
    | none =>
      obtain ⟨-, rfl⟩ := getElem?_spawn_of_none world old there
      rw [length]
      exact .inr fun parent rouses => Nat.lt_succ_of_lt (known parent rouses)

/-- A stroke that touches no session keeps the world peopled. -/
theorem Stroke.peopled (stroke : Stroke me purpose False hands before after)
    (mine : me < before.tasks.length)
    (known : ∀ parent, purpose.Rouses parent → parent < before.tasks.length)
    (peopled : before.Peopled) : after.Peopled := by
  cases stroke with
  | wake other rouses =>
    obtain ⟨more, joined, named⟩ := exists_ready_wake before other
    obtain ⟨ready, same⟩ := exists_wake before other
    refine peopled.of_same (by rw [same]) (nodup_wake peopled.distinct other)
      (fun task there => ?_) fun timer set => ?_
    · rw [joined] at there
      rcases List.mem_append.mp there with old | new
      · exact .inl old
      · rw [named task new]
        exact .inr (known other rouses)
    · rw [same] at set
      exact .inl set
  | setTimer due => exact peopled.setTimer mine due
  | setStage stage =>
    exact peopled.of_setStage rfl peopled.distinct (fun task there => .inl there)
      fun timer set => set
  | finish outcome =>
    exact peopled.of_setStage rfl peopled.distinct (fun task there => .inl there)
      fun timer set => (List.mem_filter.mp set).1
  | spawn actor child bears =>
    refine peopled.spawn actor fun parent rouses => ?_
    rw [bears.rouses rouses]
    exact mine
  | handOn actor child allowed handed =>
    exact peopled.spawn actor fun parent rouses => absurd rouses handed.not_rouses
  | tell target answer =>
    obtain same | ⟨found, there, -, same⟩ := tellAnswer_cases before target answer
    · rw [same]
      exact peopled
    · rw [same]
      generalize Stage.told answer = stage
      obtain ⟨more, joined, named⟩ := exists_ready_wake (before.setStage target stage) target
      obtain ⟨ready, woken⟩ := exists_wake (before.setStage target stage) target
      have distinct : (before.setStage target stage).ready.Nodup := peopled.distinct
      refine peopled.of_setStage (by rw [woken]) (nodup_wake distinct target)
        (fun task here => ?_) fun timer set => ?_
      · rw [joined] at here
        rcases List.mem_append.mp here with old | new
        · exact .inl old
        · rw [named task new, woken]
          exact .inr (by simpa [World.setStage] using (List.getElem?_eq_some_iff.mp there).1)
      · rw [woken] at set
        exact set
  | setState site actor component state =>
    obtain ⟨-, same⟩ | ⟨entries, same⟩ := setState_cases before site actor component state
    · rw [same]
      exact peopled
    · rw [same]
      exact peopled.of_same rfl peopled.distinct (fun task there => .inl there)
        fun timer set => .inl set
  | touch site session change never => exact never.elim
  | _ =>
    exact peopled.of_same rfl peopled.distinct (fun task there => .inl there)
      fun timer set => .inl set

/-- Strokes that touch no session keep the world peopled. -/
theorem Strokes.peopled (strokes : Strokes me purpose False hands before after)
    (mine : me < before.tasks.length)
    (known : ∀ parent, purpose.Rouses parent → parent < before.tasks.length)
    (peopled : before.Peopled) : after.Peopled :=
  (strokes.keeps (P := fun before after => me < before.tasks.length →
      (∀ parent, purpose.Rouses parent → parent < before.tasks.length) → before.Peopled →
        me < after.tasks.length ∧
          (∀ parent, purpose.Rouses parent → parent < after.tasks.length) ∧ after.Peopled)
    (fun _ mine known peopled => ⟨mine, known, peopled⟩)
    (fun first second mine known peopled =>
      have ⟨still, heard, kept⟩ := first mine known peopled
      second still heard kept)
    (fun stroke mine known peopled =>
      have longer := stroke.lengthens.length
      ⟨Nat.lt_of_lt_of_le mine longer,
        fun parent rouses => Nat.lt_of_lt_of_le (known parent rouses) longer,
        stroke.peopled mine known peopled⟩) mine known peopled).2.2

/-- Waking tasks that are there keeps the world peopled. -/
theorem Peopled.wakeAll (peopled : world.Peopled) {tasks : List TaskId}
    (there : ∀ task ∈ tasks, task < world.tasks.length) : (world.wakeAll tasks).Peopled := by
  obtain ⟨more, joined, named⟩ := exists_ready_wakeAll world tasks
  obtain ⟨ready, woken⟩ := exists_wakeAll world tasks
  refine peopled.of_same (by rw [woken]) (nodup_wakeAll peopled.distinct tasks)
    (fun task inside => ?_) fun timer set => ?_
  · rw [joined] at inside
    exact (List.mem_append.mp inside).imp id fun new => there task (named task new)
  · rw [woken] at set
    exact .inl set

/-- A change of a session that serves only tasks that are there keeps the world peopled. -/
theorem Peopled.onSession (peopled : world.Peopled) {change : Session → Session × List TaskId}
    (served : ∀ session, world.session? site number = some session →
      ∀ task ∈ (change session).2, task < world.tasks.length) :
    (world.onSession site number change).Peopled := by
  obtain ⟨-, same⟩ | ⟨session, there, same⟩ := onSession_cases world site number change
  · rw [same]
    exact peopled
  · rw [same]
    refine Peopled.wakeAll ?_ (served session there)
    exact peopled.of_same rfl peopled.distinct (fun task there => .inl there)
      fun timer set => .inl set

/-- A task that waits elsewhere keeps the world peopled. -/
theorem Peopled.setStage (peopled : world.Peopled) (task : TaskId) (stage : Stage) :
    (world.setStage task stage).Peopled :=
  peopled.of_setStage rfl peopled.distinct (fun _ there => .inl there) fun _ set => set

/-- A deadline of a task that is there keeps the world peopled. -/
theorem Peopled.setDeadline (peopled : world.Peopled) (mine : me < world.tasks.length)
    (due : Option Nat) : (world.setDeadline me due).Peopled := by
  cases due with
  | none => exact peopled
  | some due => exact peopled.setTimer mine due

/-- A task that ends keeps the world peopled. -/
theorem Peopled.finish (peopled : world.Peopled) (task : TaskId) (outcome : Outcome) :
    (world.finish task outcome).Peopled :=
  peopled.of_setStage rfl peopled.distinct (fun _ there => .inl there) fun _ set =>
    (List.mem_filter.mp set).1

/-- A note to the log keeps the world peopled. -/
theorem Peopled.note (peopled : world.Peopled) (actor : Option String)
    (entries : List LogEntry) : (world.note actor entries).Peopled :=
  peopled.of_same rfl peopled.distinct (fun _ there => .inl there) fun _ set => .inl set

/-- The step of a task keeps the world peopled. -/
theorem Turn.peopled {found : Task} {left : World} (turn : Turn me found left after)
    (there : left.tasks[me]? = some found)
    (lines : ∀ site number session, left.session? site number = some session → ∀ task,
      session.InLine task → task < left.tasks.length)
    (peopled : left.Peopled) : after.Peopled := by
  have mine : me < left.tasks.length := (List.getElem?_eq_some_iff.mp there).1
  have known : ∀ parent, found.purpose.Rouses parent → parent < left.tasks.length :=
    fun parent => peopled.parents me found parent there
  have quiet {middle : World} (strokes : Strokes me found.purpose False True left middle) :
      middle.Peopled := strokes.peopled mine known peopled
  have nobody {world : World} (peopled : world.Peopled) (site : SiteId) (number : SessionId)
      (change : Session → Session) :
      (world.onSession site number fun session => (change session, [])).Peopled :=
    peopled.onSession fun session _ task none_ => absurd none_ List.not_mem_nil
  cases turn with
  | quiet strokes => exact quiet strokes
  | settled => exact peopled
  | sent actor entries strokes =>
    exact ((nobody (quiet strokes) _ _ _).note actor entries).finish me _
  | dropped actor entries strokes => exact ((quiet strokes).note actor entries).finish me _
  | @queued middle dispatch session stage strokes =>
    have waits := nobody (quiet strokes) dispatch.site dispatch.session (·.await me)
    refine (waits.setDeadline ?_ dispatch.due).setStage me stage
    rw [tasks_onSession]
    exact Nat.lt_of_lt_of_le mine strokes.lengthens.length
  | refused actor entries => exact (peopled.note actor entries).finish me _
  | filled actor entries => exact ((nobody peopled _ _ _).note actor entries).finish me _
  | gaveUp actor entries =>
    refine Peopled.finish (.note (peopled.onSession fun session there task served => ?_) ..) me _
    exact lines _ _ session there task
      (.inl (List.mem_of_mem_erase (List.mem_of_mem_take served)))
  | stays => exact peopled

/-- Whoever stands in the line of a session is there. -/
theorem Waits.lt_of_inLine (waits : world.Waits) {session : Session} {task : TaskId}
    (there : world.session? site number = some session) (inLine : session.InLine task) :
    task < world.tasks.length := by
  obtain ⟨dispatch, pending, -⟩ := (waits.placed task).lines site number session there inLine
  obtain ⟨found, here, -⟩ := Option.bind_eq_some_iff.mp pending
  exact (List.getElem?_eq_some_iff.mp here).1

/-- A call that is cancelled has ended, or it ends now and leaves the line; where it stood in the
line of a session, it gives up. -/
theorem cancel_call_cases {found : Task} (call : world.isCall me = true)
    (there : world.tasks[me]? = some found) (fits : found.stage.Fits found.purpose) :
    (∃ outcome, found.stage = .ended outcome) ∧ world.cancel me = world ∨
    found.dispatch? = none ∧ world.cancel me =
      ({ world with ready := world.ready.erase me } : World).finish me .cancelled ∨
    ∃ dispatch, found.dispatch? = some dispatch ∧ world.cancel me =
      (({ world with ready := world.ready.erase me } : World).finish me .cancelled).giveUpSend me
        dispatch.site dispatch.session := by
  obtain ⟨actor, purpose, stage⟩ := found
  unfold isCall at call
  unfold cancel
  rw [there] at call ⊢
  dsimp only at call fits ⊢
  cases purpose with
  | request site request =>
    cases stage with
    | ended outcome => exact .inl ⟨⟨outcome, rfl⟩, rfl⟩
    | acknowledging message =>
      cases request with
      | consume group topic ack =>
        obtain rfl : ack = .auto := fits
        exact .inr (.inr ⟨_, rfl, rfl⟩)
      | _ => exact fits.elim
    | sending session due =>
      cases request with
      | acknowledge group topic ack =>
        obtain ⟨partition, offset, rfl⟩ := fits
        exact .inr (.inr ⟨_, rfl, rfl⟩)
      | _ => exact fits.elim
    | _ => exact .inr (.inl ⟨rfl, rfl⟩)
  | shutdown sites logged =>
    cases stage with
    | ended outcome => exact .inl ⟨⟨outcome, rfl⟩, rfl⟩
    | acknowledging message => exact fits.elim
    | sending session due => exact fits.elim
    | _ => exact .inr (.inl ⟨rfl, rfl⟩)
  | _ => simp at call

/-- Open moves keep the world peopled. -/
theorem Peopled.apply (peopled : world.Peopled) (waits : world.Waits)
    (free : world.isOpen move = true) : (world.apply move).Peopled := by
  have erased (me : TaskId) : ({ world with ready := world.ready.erase me } : World).Peopled :=
    peopled.of_same rfl (peopled.distinct.erase me)
      (fun task there => .inl (List.mem_of_mem_erase there))
      fun timer set => .inl set
  cases move with
  | resume me =>
    cases there : world.tasks[me]? with
    | none =>
      rw [World.apply, resume_absent there]
      exact erased me
    | some found =>
      exact (turn_resume there (waits.sound me found there).1).peopled there
        (fun site number session here task => waits.lt_of_inLine here) (erased me)
  | pass moment =>
    generalize fired_eq : (world.timers.filter (·.due ≤ moment)).map (·.task) = fired
    generalize left_eq : ({ world with
      now := max world.now moment
      timers := world.timers.filter (moment < ·.due) } : World) = left
    have passed : world.apply (.pass moment) = left.wakeAll fired := by
      rw [← left_eq, ← fired_eq]
      rfl
    have still : left.Peopled := by
      rw [← left_eq]
      exact peopled.of_same rfl peopled.distinct (fun task there => .inl there)
        fun timer set => .inl (List.mem_filter.mp set).1
    rw [passed]
    refine still.wakeAll fun task there => ?_
    rw [← fired_eq] at there
    obtain ⟨timer, set, rfl⟩ := List.mem_map.mp there
    rw [← left_eq]
    exact peopled.timers timer (List.mem_filter.mp set).1
  | request site request => exact peopled.spawn none fun parent rouses => rouses.elim
  | shutdown sites logged => exact peopled.spawn none fun parent rouses => rouses.elim
  | cancel me =>
    cases there : world.tasks[me]? with
    | none => simp [isOpen, isCall, there] at free
    | some found =>
      have ended := (erased me).finish me .cancelled
      obtain ⟨-, same⟩ | ⟨-, same⟩ | ⟨dispatch, pending, same⟩ :=
        cancel_call_cases free there (waits.sound me found there).1
      · rw [World.apply, same]
        exact peopled
      · rw [World.apply, same]
        exact ended
      · rw [World.apply, same]
        refine ended.onSession fun session here task served => ?_
        have length : (({ world with ready := world.ready.erase me } : World).finish me
            .cancelled).tasks.length = world.tasks.length := List.length_modify ..
        rw [length]
        exact waits.lt_of_inLine here (.inl (List.mem_of_mem_erase (List.mem_of_mem_take served)))
  | enqueue site group topic items =>
    exact peopled.of_same rfl peopled.distinct (fun task there => .inl there)
      fun timer set => .inl set
  | read site number limit =>
    refine peopled.onSession fun session there task served => waits.lt_of_inLine there ?_
    exact .inl (List.mem_of_mem_take served)
  | close site number =>
    show (world.onSession site number Session.close).Peopled
    exact peopled.onSession fun session there task served => waits.lt_of_inLine there (.inl served)
  | renew site key =>
    exact peopled.of_same rfl peopled.distinct (fun task there => .inl there)
      fun timer set => .inl set

/-- Whoever is ready stands in front of all tasks that a move of another starts. -/
theorem Peopled.inFront_of_new (peopled : world.Peopled) (sound : world.Sound)
    {first second : TaskId} (ready : first ∈ world.ready) (foreign : ¬ move.IsOwn first)
    (new : world.tasks.length ≤ second) : InFront (world.apply move).ready first second := by
  have absent : second ∉ world.ready := fun inside =>
    absurd (peopled.ready second inside) (Nat.not_lt.mpr new)
  obtain ⟨line, left, longer⟩ := lengthens_apply sound move
  obtain ⟨more, joined, -⟩ := longer.ready
  rw [joined]
  obtain rfl | ⟨task, own, rfl⟩ := left
  · exact .of_new ready absent more
  · have differ : first ≠ task := fun same => foreign (same ▸ own)
    exact .of_new ((List.mem_erase_of_ne differ).mpr ready)
      (fun inside => absent (List.mem_of_mem_erase inside)) more

/-- In every world that can be reached, whoever is in the line is there. -/
theorem Opened.peopled {start last : World} (opened : start.Opened)
    (reaches : start.Reaches last) : last.Peopled := by
  obtain ⟨tasks, ready, timers, -⟩ := opened.untouched
  refine opened.waits.keeps (P := Peopled) ?_ ⟨?_, ?_, ?_, ?_⟩ reaches
  · exact fun world move waits free peopled => peopled.apply waits free
  · simp [ready]
  · simp [ready]
  · simp [timers]
  · simp [tasks]

end World

end ClusterGateway
