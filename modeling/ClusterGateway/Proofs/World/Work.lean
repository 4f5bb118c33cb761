import ClusterGateway.Proofs.World.Fields
import Mathlib.Algebra.GroupWithZero.Nat

/-!
# The work that is left

Every kind of change uses up or adds a known amount of the work that is left in the world.
Where each run of a task uses some up, running comes to rest: the task that is waited for
is over, or nothing is ready and no timer is set any more. Main statement: `runFor_rests`.
-/

namespace ClusterGateway.World

variable {world before after : World} {task : TaskId} {found : Task}

/-- The work of several tasks, added up from the left. -/
theorem foldl_work (tasks : List Task) (start : Nat) :
    tasks.foldl (fun left task => left + Task.work task) start =
      start + (tasks.map Task.work).sum := by
  induction tasks generalizing start with
  | nil => rfl
  | cons first rest ih => rw [List.foldl_cons, ih, List.map_cons, List.sum_cons, Nat.add_assoc]

/-- What the work that is left consists of. -/
theorem work_eq (world : World) : world.work = (world.tasks.map Task.work).sum +
    world.ready.length + 2 * world.timers.length := by
  rw [work, foldl_work, Nat.zero_add]

/-- As much work is left where the tasks, the line and the timers are the same. -/
theorem work_congr (tasks : after.tasks = before.tasks) (ready : after.ready = before.ready)
    (timers : after.timers = before.timers) : after.work = before.work := by
  rw [work_eq, work_eq, tasks, ready, timers]

/-- The work of several tasks of which one is replaced. -/
theorem sum_work_modify {tasks : List Task} (there : tasks[task]? = some found)
    (change : Task → Task) : ((tasks.modify task change).map Task.work).sum + Task.work found =
      (tasks.map Task.work).sum + Task.work (change found) := by
  induction tasks generalizing task with
  | nil => simp at there
  | cons first rest ih =>
    cases task with
    | zero =>
      obtain rfl : first = found := Option.some.inj there
      simp only [List.modify_zero_cons, List.map_cons, List.sum_cons]
      omega
    | succ place =>
      have later := @ih place there
      simp only [List.modify_succ_cons, List.map_cons, List.sum_cons]
      omega

/-- A task that waits elsewhere. -/
theorem work_setStage (there : world.tasks[task]? = some found) (stage : Stage) :
    (world.setStage task stage).work + Task.work found =
      world.work + Task.work { found with stage := stage } := by
  have tasks := sum_work_modify there fun other => { other with stage := stage }
  rw [work_eq, work_eq]
  show ((world.tasks.modify task _).map Task.work).sum + world.ready.length +
    2 * world.timers.length + Task.work found = _
  omega

/-- A task that ends leaves none of its work. -/
theorem work_finish_le (there : world.tasks[task]? = some found) (outcome : Outcome) :
    (world.finish task outcome).work + Task.work found ≤ world.work := by
  have tasks := sum_work_modify there fun other => { other with stage := .ended outcome }
  have ended : Task.work { found with stage := .ended outcome } = 0 := rfl
  have timers := List.length_filter_le (fun timer => timer.task != task) world.timers
  rw [work_eq, work_eq]
  show ((world.tasks.modify task _).map Task.work).sum + world.ready.length +
    2 * (world.timers.filter fun timer => timer.task != task).length + Task.work found ≤ _
  omega

/-- A new timer. -/
theorem work_setTimer (world : World) (task : TaskId) (due : Nat) :
    (world.setTimer task due).work = world.work + 2 := by
  rw [work_eq, work_eq]
  simp only [setTimer, List.length_append, List.length_singleton]
  omega

/-- A task that is woken. -/
theorem work_wake_le (world : World) (task : TaskId) : (world.wake task).work ≤ world.work + 1 := by
  unfold wake
  split
  · exact Nat.le_succ world.work
  · rw [work_eq, work_eq]
    simp only [List.length_append, List.length_singleton]
    omega

/-- Tasks that are woken. -/
theorem work_wakeAll_le (world : World) (tasks : List TaskId) :
    (world.wakeAll tasks).work ≤ world.work + tasks.length := by
  induction tasks generalizing world with
  | nil => exact Nat.le_refl world.work
  | cons first rest ih =>
    have woken := work_wake_le world first
    have later := ih (world.wake first)
    simp only [wakeAll, List.foldl_cons, List.length_cons] at later ⊢
    omega

/-- A new task. -/
theorem work_spawn (world : World) (actor : Option String) (purpose : Purpose) :
    (world.spawn actor purpose).1.work = world.work + Purpose.work purpose + 1 := by
  have fresh : Task.work ⟨actor, purpose, .fresh⟩ = Purpose.work purpose := rfl
  rw [work_eq, work_eq]
  simp only [spawn, List.map_append, List.map_singleton, List.sum_append, List.sum_singleton,
    List.length_append, List.length_singleton, fresh]
  omega

/-- A task that leaves the line. -/
theorem work_erase (ready : task ∈ world.ready) :
    ({ world with ready := world.ready.erase task } : World).work + 1 = world.work := by
  have length := List.length_erase_of_mem ready
  have some_ready := List.length_pos_of_mem ready
  rw [work_eq, work_eq]
  simp only
  omega

/-- Time that passes to the next timer uses up that timer. -/
theorem work_passTo_lt {due : Nat} (next : world.nextDue? = some due) :
    (world.passTo due).work < world.work := by
  unfold nextDue? at next
  obtain ⟨timer, there, rfl⟩ := List.mem_map.mp (List.min?_mem next)
  have fires : timer ∈ world.timers.filter fun other => other.due ≤ timer.due :=
    List.mem_filter.mpr ⟨there, decide_eq_true (Nat.le_refl timer.due)⟩
  have fired := List.length_pos_of_mem fires
  have split : (world.timers.filter fun other => other.due ≤ timer.due).length +
      (world.timers.filter fun other => timer.due < other.due).length = world.timers.length := by
    have counted := List.length_eq_countP_add_countP
      (fun other : Timer => decide (other.due ≤ timer.due)) (l := world.timers)
    simp only [List.countP_eq_length_filter, decide_eq_true_eq, Nat.not_le] at counted
    exact counted.symm
  have woken := work_wakeAll_le
    { world with
      now := max world.now timer.due
      timers := world.timers.filter fun other => timer.due < other.due }
    ((world.timers.filter fun other => other.due ≤ timer.due).map fun other => other.task)
  have passed : ({ world with
      now := max world.now timer.due
      timers := world.timers.filter fun other => timer.due < other.due } : World).work +
      2 * (world.timers.filter fun other => other.due ≤ timer.due).length = world.work := by
    rw [work_eq, work_eq]
    simp only
    omega
  -- a timer counts twice, so that it pays for the task that it wakes
  rw [List.length_map] at woken
  refine Nat.lt_of_le_of_lt woken ?_
  omega

/-- When no timer comes next, none is set. -/
theorem timers_eq_nil_of_nextDue? (next : world.nextDue? = none) : world.timers = [] := by
  simpa [nextDue?] using next

/-- Where each run of a task uses up work, waiting for a task keeps what runs and jumps of time
keep, and ends when the task is over, or when nothing more can happen. -/
theorem runFor_rests {P : World → Prop}
    (resume : ∀ world me, P world → me ∈ world.ready →
      P (world.resume me) ∧ (world.resume me).work < world.work)
    (pass : ∀ world due, P world → world.ready = [] → world.nextDue? = some due →
      P (world.passTo due))
    {fuel : Nat} (enough : world.work < fuel) (holds : P world) :
    P (runFor none (some task) fuel world) ∧ ((runFor none (some task) fuel world).isOver task = true ∨
      (runFor none (some task) fuel world).ready = [] ∧
        (runFor none (some task) fuel world).timers = []) := by
  induction fuel generalizing world with
  | zero => exact absurd enough (Nat.not_lt_zero world.work)
  | succ fuel ih =>
    unfold runFor
    split
    · rename_i me picked
      obtain ⟨after, less⟩ := resume world me holds (mem_ready_of_pick? picked)
      exact ih (by omega) after
    · rename_i nobody
      have idle := ready_eq_nil_of_pick? nobody
      split
      · rename_i settled
        exact ⟨holds, .inl (by simpa using settled)⟩
      · split
        · rename_i due next
          have less := work_passTo_lt next
          simp only [Option.all_none, if_true]
          exact ih (by omega) (pass world due holds idle next)
        · rename_i never
          exact ⟨holds, .inr ⟨idle, timers_eq_nil_of_nextDue? never⟩⟩

end ClusterGateway.World
