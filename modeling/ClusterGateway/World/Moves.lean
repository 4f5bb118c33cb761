import ClusterGateway.World.Running

/-!
# Moves of the world

All that can happen to the world is one of a few moves: a ready task runs until it waits
again, time passes while no task is ready, somebody makes or cancels a call, or the
cluster behind a gateway does something of its own. A world is reachable from another by
any moves that are open, in any order; running tasks in the order of their line is one
way to choose them.
-/

namespace ClusterGateway

/-- Something that happens to the world. -/
inductive Move where
  | resume (task : TaskId)
  | pass (moment : Nat)
  | request (site : SiteId) (request : Request)
  | shutdown (sites : List SiteId) (logged : Bool)
  | cancel (task : TaskId)
  | enqueue (site : SiteId) (group topic : String) (items : List QueuedDelivery)
  | read (site : SiteId) (session : SessionId) (limit : Nat)
  | close (site : SiteId) (session : SessionId)
  | renew (site : SiteId) (key : RoutingKey)
deriving Repr

namespace World

/-- Time may pass to a moment when no task is ready and no timer is due before it. -/
def mayPass (world : World) (moment : Nat) : Bool :=
  world.ready.isEmpty && world.timers.all fun timer => moment ≤ timer.due

/-- A task is a call: somebody has made it and can cancel it. All other tasks run detached. -/
def isCall (world : World) (task : TaskId) : Bool :=
  match world.tasks[task]? with
  | some ⟨_, .request _ _, _⟩ => true
  | some ⟨_, .shutdown _ _, _⟩ => true
  | _ => false

/-- A move is open: a task that runs is ready, time passes over no timer, only calls are
cancelled, and a shutdown of several gateways names each of them once. -/
def isOpen (world : World) : Move → Bool
  | .resume task => world.ready.contains task
  | .pass moment => world.mayPass moment
  | .shutdown sites _ => decide sites.Nodup
  | .cancel task => world.isCall task
  | _ => true

/-- The world after a move. -/
def apply (world : World) : Move → World
  | .resume task => world.resume task
  | .pass moment => world.passTo moment
  | .request site request => (world.spawn none (.request site request)).1
  | .shutdown sites logged => (world.spawn none (.shutdown sites logged)).1
  | .cancel task => world.cancel task
  | .enqueue site group topic items => world.onBroker site (·.enqueue group topic items)
  | .read site session limit => world.onSession site session fun found => (found.take limit).2
  | .close site session => world.onSession site session Session.close
  | .renew site key => world.onBroker site fun broker => (broker.renewSession key).1

/-- The world after moves that are open one after the other. -/
def play? (world : World) : List Move → Option World
  | [] => some world
  | move :: moves => if world.isOpen move then (world.apply move).play? moves else none

/-- A world that open moves lead to. -/
def Reaches (world later : World) : Prop := ∃ moves, world.play? moves = some later

/-- A world leads to itself. -/
theorem Reaches.refl (world : World) : world.Reaches world := ⟨[], rfl⟩

/-- Moves may be put one after the other. -/
theorem play?_append (world : World) (first second : List Move) :
    world.play? (first ++ second) = (world.play? first).bind (·.play? second) := by
  induction first generalizing world with
  | nil => rfl
  | cons move moves ih =>
    simp only [List.cons_append, play?]
    split
    · exact ih (world.apply move)
    · rfl

/-- What a reachable world leads to is reachable. -/
theorem Reaches.trans {world middle later : World} (first : world.Reaches middle)
    (second : middle.Reaches later) : world.Reaches later := by
  obtain ⟨before, played⟩ := first
  obtain ⟨after, followed⟩ := second
  exact ⟨before ++ after, by rw [play?_append, played]; exact followed⟩

/-- One open move leads on. -/
theorem Reaches.move {world : World} {move : Move} (free : world.isOpen move = true) :
    world.Reaches (world.apply move) :=
  ⟨[move], by simp [play?, free]⟩

/-- The task that runs next is a ready one. -/
theorem mem_ready_of_pick? {world : World} {foreground : Option TaskId} {task : TaskId}
    (picked : world.pick? foreground = some task) : task ∈ world.ready := by
  unfold pick? at picked
  split at picked
  · rename_i found
    cases picked
    exact List.mem_of_find?_eq_some found
  · exact List.mem_of_head? picked

/-- When no task runs next, none is ready. -/
theorem ready_eq_nil_of_pick? {world : World} {foreground : Option TaskId}
    (none_picked : world.pick? foreground = none) : world.ready = [] := by
  unfold pick? at none_picked
  split at none_picked
  · simp at none_picked
  · simpa using none_picked

/-- The time of the next timer is not after that of any other. -/
theorem due_le_of_nextDue? {world : World} {due : Nat} (next : world.nextDue? = some due)
    {timer : Timer} (there : timer ∈ world.timers) : due ≤ timer.due := by
  unfold nextDue? at next
  exact (List.min?_eq_some_iff.mp next).2 timer.due (List.mem_map_of_mem there)

/-- Time may pass to the next timer when no task is ready. -/
theorem mayPass_of_nextDue? {world : World} {due : Nat} (idle : world.ready = [])
    (next : world.nextDue? = some due) : world.mayPass due = true := by
  simp only [mayPass, idle, List.isEmpty_nil, Bool.true_and, List.all_eq_true, decide_eq_true_eq]
  intro timer there
  exact due_le_of_nextDue? next there

/-- Running tasks in the order of their line makes open moves only. -/
theorem reaches_runFor (limit : Option Nat) (foreground : Option TaskId) (fuel : Nat) (world : World) :
    world.Reaches (runFor limit foreground fuel world) := by
  induction fuel generalizing world with
  | zero => exact .refl world
  | succ fuel ih =>
    unfold runFor
    split
    · rename_i task picked
      have free : world.isOpen (.resume task) = true := by
        simpa [isOpen] using mem_ready_of_pick? picked
      exact (Reaches.move free).trans (ih (world.resume task))
    · rename_i nobody
      have idle := ready_eq_nil_of_pick? nobody
      split
      · exact .refl world
      · split
        · rename_i due next
          split
          · have free : world.isOpen (.pass due) = true := mayPass_of_nextDue? idle next
            exact (Reaches.move free).trans (ih (world.passTo due))
          · exact .refl world
        · exact .refl world

/-- Settling makes open moves only. -/
theorem reaches_settle (world : World) : world.Reaches world.settle :=
  reaches_runFor (some world.now) none (world.work + 1) world

end World

end ClusterGateway
