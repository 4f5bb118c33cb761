import ClusterGateway.Proofs.World.Tasks

/-!
# Waking up

A task that is ready stays ready until it runs or is cancelled, and as long as some task
is ready the clock stands. A timer that is set wakes its task before time passes beyond it.
A task that has just been started is ready; so it runs first, if at all, at the instant at
which it was started. Main statement: `Fresh.first_move`.
-/

namespace ClusterGateway

/-- A move that a task makes itself, or that ends it. -/
def Move.IsOwn (move : Move) (task : TaskId) : Prop :=
  move = .resume task ∨ move = .cancel task

namespace World

variable {world last : World} {task other : TaskId} {found : Task} {move : Move}

/-- Cancelling a task leaves all other ready tasks ready, and their timers set. -/
theorem cancel_spares (differ : other ≠ task) :
    (other ∈ world.ready → other ∈ (world.cancel task).ready) ∧
      ∀ timer ∈ world.timers, timer.task = other → timer ∈ (world.cancel task).timers := by
  have erased (ready : other ∈ world.ready) : other ∈ world.ready.erase task :=
    (List.mem_erase_of_ne differ).mpr ready
  have kept (timer : Timer) (set : timer ∈ world.timers) (named : timer.task = other) :
      timer ∈ world.timers.filter fun timer => timer.task != task := by
    refine List.mem_filter.mpr ⟨set, ?_⟩
    rw [named]
    simpa using differ
  obtain same | ⟨ended, rfl, same | ⟨place, session, same⟩ | ⟨parent, same⟩⟩ :=
    cancel_forms world task
  · rw [same]
    exact ⟨id, fun timer set _ => set⟩
  · rw [same]
    exact ⟨erased, kept⟩
  · generalize ended_eq : ({ world with ready := world.ready.erase task } : World).finish task
      .cancelled = ended at same
    rw [same]
    refine ⟨fun ready => ?_, fun timer set named => ?_⟩
    · have before : other ∈ ended.ready := by
        rw [← ended_eq]
        exact erased ready
      obtain ⟨-, given⟩ | ⟨found, -, given⟩ :=
        onSession_cases ended place session (·.withdraw task)
      · rw [giveUpSend, given]
        exact before
      · rw [giveUpSend, given]
        exact mem_ready_wakeAll _ before
    · obtain ⟨ready, given⟩ := exists_onSession ended place session (·.withdraw task)
      rw [giveUpSend, given, ← ended_eq]
      exact kept timer set named
  · rw [same]
    refine ⟨fun ready => mem_ready_wake _ parent (erased ready), fun timer set named => ?_⟩
    obtain ⟨ready, woken⟩ := exists_wake
      (({ world with ready := world.ready.erase task } : World).finish task .cancelled) parent
    rw [woken]
    exact kept timer set named

/-- Changing a session leaves ready tasks ready. -/
theorem mem_ready_onSession_of_mem (site : SiteId) (session : SessionId)
    (change : Session → Session × List TaskId) (ready : task ∈ world.ready) :
    task ∈ (world.onSession site session change).ready := by
  obtain ⟨-, same⟩ | ⟨found, -, same⟩ := onSession_cases world site session change
  · rw [same]
    exact ready
  · rw [same]
    exact mem_ready_wakeAll _ ready

/-- A ready task stays ready in all moves that are not its own. -/
theorem mem_ready_apply (sound : world.Sound) (foreign : ¬ move.IsOwn task)
    (ready : task ∈ world.ready) : task ∈ (world.apply move).ready := by
  cases move with
  | resume me =>
    have differ : task ≠ me := fun same => foreign (.inl (by rw [same]))
    have erased : task ∈ world.ready.erase me := (List.mem_erase_of_ne differ).mpr ready
    cases there : world.tasks[me]? with
    | none =>
      rw [apply, resume_absent there]
      exact erased
    | some running => exact (strokes_resume there (sound me running there).1).mem_ready erased
  | pass moment => exact mem_ready_wakeAll _ ready
  | request => exact List.mem_append_left _ ready
  | shutdown => exact List.mem_append_left _ ready
  | cancel me =>
    have differ : task ≠ me := fun same => foreign (.inr (by rw [same]))
    exact (cancel_spares differ).1 ready
  | read site session limit => exact mem_ready_onSession_of_mem site session _ ready
  | close site session => exact mem_ready_onSession_of_mem site session _ ready
  | enqueue => exact ready
  | renew => exact ready

/-- Time does not pass while a task is ready. -/
theorem not_mayPass_of_ready (ready : task ∈ world.ready) (moment : Nat) :
    world.mayPass moment ≠ true := by
  intro passes
  simp only [mayPass, Bool.and_eq_true, List.isEmpty_iff] at passes
  rw [passes.1] at ready
  exact absurd ready List.not_mem_nil

/-- While a task is ready the clock stands. -/
theorem now_apply_of_ready (sound : world.Sound) (free : world.isOpen move = true)
    (ready : task ∈ world.ready) : (world.apply move).now = world.now := by
  obtain same | ⟨moment, rfl, -⟩ := now_apply sound move
  · exact same
  · exact absurd free (not_mayPass_of_ready ready moment)

/-- A timer stays set, and its time to come, in all moves that are not those of its task; or time
has come to it, and its task is ready. -/
theorem mem_timers_apply (sound : world.Sound) (free : world.isOpen move = true) {due : Nat}
    (foreign : ¬ move.IsOwn task) (early : world.now < due) (set : ⟨due, task⟩ ∈ world.timers) :
    (world.apply move).now < due ∧ ⟨due, task⟩ ∈ (world.apply move).timers ∨
      (world.apply move).now = due ∧ task ∈ (world.apply move).ready := by
  have stays (differ : ∀ moment, move ≠ .pass moment)
      (kept : ⟨due, task⟩ ∈ (world.apply move).timers) :
      (world.apply move).now < due ∧ ⟨due, task⟩ ∈ (world.apply move).timers ∨
        (world.apply move).now = due ∧ task ∈ (world.apply move).ready := by
    obtain same | ⟨moment, rfl, -⟩ := now_apply sound move
    · exact .inl ⟨same ▸ early, kept⟩
    · exact absurd rfl (differ moment)
  have session (site : SiteId) (number : SessionId) (change : Session → Session × List TaskId) :
      ⟨due, task⟩ ∈ (world.onSession site number change).timers := by
    obtain ⟨ready, same⟩ := exists_onSession world site number change
    rw [same]
    exact set
  cases move with
  | resume me =>
    have differ : task ≠ me := fun same => foreign (.inl (by rw [same]))
    refine stays (by simp) ?_
    cases there : world.tasks[me]? with
    | none =>
      rw [apply, resume_absent there]
      exact set
    | some running =>
      exact (strokes_resume there (sound me running there).1).mem_timers differ set
  | pass moment =>
    simp only [isOpen, mayPass, Bool.and_eq_true, List.all_eq_true, decide_eq_true_eq] at free
    have most : moment ≤ due := free.2 ⟨due, task⟩ set
    obtain ⟨ready, same⟩ := exists_passTo world moment
    have clock : (world.apply (.pass moment)).now = max world.now moment := by rw [apply, same]
    by_cases settled : due ≤ moment
    · right
      refine ⟨by omega, mem_ready_wakeAll_self _ (List.mem_map.mpr ⟨⟨due, task⟩, ?_, rfl⟩)⟩
      exact List.mem_filter.mpr ⟨set, decide_eq_true settled⟩
    · left
      refine ⟨by omega, ?_⟩
      rw [apply, same]
      exact List.mem_filter.mpr ⟨set, decide_eq_true (Nat.lt_of_not_le settled)⟩
  | cancel me =>
    have differ : task ≠ me := fun same => foreign (.inr (by rw [same]))
    exact stays (by simp) ((cancel_spares differ).2 ⟨due, task⟩ set rfl)
  | read site number limit => exact stays (by simp) (session site number _)
  | close site number => exact stays (by simp) (session site number _)
  | _ => exact stays (by simp) set

/-- A task stands in the line of ready tasks and has not run yet. -/
structure Fresh (world : World) (task : TaskId) (found : Task) : Prop where
  there : world.tasks[task]? = some found
  unrun : found.stage = .fresh
  ready : task ∈ world.ready

/-- A task that has just been started. -/
theorem fresh_spawn (world : World) (actor : Option String) (purpose : Purpose) :
    (world.spawn actor purpose).1.Fresh world.tasks.length ⟨actor, purpose, .fresh⟩ where
  there := getElem?_spawn_self world actor purpose
  unrun := rfl
  ready := List.mem_append_right _ (List.mem_singleton.mpr rfl)

/-- A task that has not run stands ready after any move that is not its own. -/
theorem Fresh.apply (stands : world.Fresh task found) (sound : world.Sound)
    (foreign : ¬ move.IsOwn task) : (world.apply move).Fresh task found where
  there := by
    obtain ⟨stage, later, rfl | ⟨alike, -⟩ | ⟨own, -⟩⟩ := kept_apply sound move stands.there
    · exact later
    · rw [stands.unrun] at alike
      exact alike.elim
    · exact absurd own foreign
  unrun := stands.unrun
  ready := mem_ready_apply sound foreign stands.ready

/-- A task makes its first move in a world that a run goes through, at the instant at which the
run began. -/
structure FirstMove (start last : World) (task : TaskId) (found : Task) (move : Move)
    (before : World) : Prop where
  reaches : start.Reaches before
  instant : before.now = start.now
  stands : before.Fresh task found
  free : before.isOpen move = true
  follows : (before.apply move).Reaches last

/-- A ready task that has not run is still so at the same instant, or it has run first at that
instant, or was cancelled then. -/
theorem Fresh.first_move (stands : world.Fresh task found) (sound : world.Sound)
    (reaches : world.Reaches last) :
    (last.Fresh task found ∧ last.now = world.now) ∨
      ∃ before, FirstMove world last task found (.resume task) before ∨
        FirstMove world last task found (.cancel task) before := by
  obtain ⟨moves, played⟩ := reaches
  induction moves, last, played using run_induction with
  | nil =>
    exact .inl ⟨stands, rfl⟩
  | concat moves middle move first free ih =>
    have reaches : world.Reaches middle := ⟨moves, first⟩
    obtain ⟨still, instant⟩ | ⟨before, resumed | cancelled⟩ := ih
    · by_cases own : move.IsOwn task
      · have begun : FirstMove world (middle.apply move) task found move middle :=
          ⟨reaches, instant, still, free, .refl _⟩
        obtain rfl | rfl := own
        · exact .inr ⟨middle, .inl begun⟩
        · exact .inr ⟨middle, .inr begun⟩
      · have kept := sound.reaches reaches
        exact .inl ⟨still.apply kept own,
          (now_apply_of_ready kept free still.ready).trans instant⟩
    · exact .inr ⟨before, .inl { resumed with follows := resumed.follows.trans (.move free) }⟩
    · exact .inr ⟨before, .inr { cancelled with follows := cancelled.follows.trans (.move free) }⟩

end World

end ClusterGateway
