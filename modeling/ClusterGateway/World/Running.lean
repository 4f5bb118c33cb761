import ClusterGateway.World.Serving
import ClusterGateway.World.Stopping

/-!
# Running tasks

A ready task runs until it waits again. When no task is ready, time jumps to the next
timer. Tasks run in the order in which they became ready, except that the request which
the caller itself waits for goes on only when no other task is ready. Every step uses up
some of the work that is left, so running always comes to rest.
-/

namespace ClusterGateway.World

/-- A task runs for the first time. -/
def start (world : World) (task : TaskId) (actor : Option String) : Purpose → World
  | .request site request =>
    match world.sites[site]? with
    | none => world.finish task .broken
    | some found =>
      match request with
      | .produce submission => world.beginProduce task site found submission
      | .submit submission => world.beginSubmit task site found submission
      | .consume group topic ack => world.beginConsume task actor site found group topic ack
      | .acknowledge group topic ack =>
        world.beginAcknowledge task actor site found group topic ack
      | .administer call => world.beginAdminister task site found call
      | .stop => world.beginShutdown task actor false [site]
      | .query query => world.conclude task (.ok (found.gateway.answer query))
  | .deliverAck site key offset session parent =>
    match world.sites[site]? with
    | none => world.finish task .broken
    | some found =>
      world.beginDelivery task actor (.deliverAck site key offset session parent) site session
        offset found.gateway.deliveryTimeout
  | .deliverAnswer _ _ delay =>
    (world.setTimer task (world.now + delay)).setStage task (.sleeping (world.now + delay))
  | .stopComponent site component parent =>
    match world.sites[site]? with
    | none => (world.finish task .broken).wake parent
    | some found => world.beginComponentStop task actor site found component parent
  | .shutdown sites logged => world.beginShutdown task actor logged sites

/-- A consume request goes on with the acknowledgement of the message it has fetched. -/
def continueAutoAck (world : World) (task : TaskId) (actor : Option String) (site : SiteId)
    (group topic : String) (message : Message) : World :=
  let (world, outcome) := world.retrySend task site message.session message.offset
  world.settleAutoAck task actor group topic message outcome

/-- A sleeping task goes on once its time has come. -/
def awaken (world : World) (task : TaskId) (actor : Option String) (due : Nat) :
    Purpose → World
  | .deliverAnswer target answer _ =>
    if due ≤ world.now then
      (world.finish task (.returned (.ok .done))).tellAnswer target answer
    else world
  | .stopComponent site component parent =>
    if due ≤ world.now then world.endComponentStop task actor site component parent else world
  | _ => world

/-- A task goes on from where it waits. -/
def proceed (world : World) (task : TaskId) (found : Task) : World :=
  match found.stage, found.purpose with
  | .fresh, purpose => world.start task found.actor purpose
  | .awaitingReceipt (some answer), _ => world.receiveReceipt task answer
  | .awaitingMessage (some answer), .request site (.consume group topic ack) =>
    world.receiveMessage task found.actor site group topic ack answer
  | .acknowledging message, .request site (.consume group topic _) =>
    world.continueAutoAck task found.actor site group topic message
  | .sending session due, .request site (.acknowledge group topic (.explicit partition offset)) =>
    world.continueDelivery task found.actor
      (.request site (.acknowledge group topic (.explicit partition offset))) site session offset
      due
  | .sending _ due, .deliverAck site key offset session parent =>
    world.continueDelivery task found.actor (.deliverAck site key offset session parent) site
      session offset due
  | .administering due, .request site (.administer call) =>
    match world.sites[site]? with
    | none => world.finish task .broken
    | some place =>
      if due ≤ world.now then world.endAdminister task site place call else world
  | .shuttingDown parts, .request _ .stop => world.continueShutdown task found.actor false parts
  | .shuttingDown parts, .shutdown _ logged =>
    world.continueShutdown task found.actor logged parts
  | .sleeping due, purpose => world.awaken task found.actor due purpose
  | _, _ => world

/-- A task leaves the line of ready tasks and runs until it waits again. -/
def resume (world : World) (task : TaskId) : World :=
  let world := { world with ready := world.ready.erase task }
  match world.tasks[task]? with
  | none => world
  | some found => world.proceed task found

/-- The time of the next timer. -/
def nextDue? (world : World) : Option Nat := (world.timers.map (·.due)).min?

/-- Time passes to a moment, never back; the timers that are due then fire. -/
def passTo (world : World) (moment : Nat) : World :=
  let fired := world.timers.filter fun timer => timer.due ≤ moment
  let left := world.timers.filter fun timer => moment < timer.due
  let passed : World := { world with now := max world.now moment, timers := left }
  passed.wakeAll (fired.map fun timer => timer.task)

/-- A task is cancelled where it waits. -/
def cancel (world : World) (task : TaskId) : World :=
  match world.tasks[task]? with
  | none => world
  | some found =>
    let ended := { world with ready := world.ready.erase task }.finish task .cancelled
    match found.stage, found.purpose with
    | .ended _, _ => world
    | .acknowledging message, .request site _ => ended.giveUpSend task site message.session
    | .sending session _, .request site _ => ended.giveUpSend task site session
    | .sending session _, .deliverAck site _ _ _ _ => ended.giveUpSend task site session
    | .fresh, .stopComponent _ _ parent => ended.wake parent
    | .sleeping _, .stopComponent _ _ parent => ended.wake parent
    | _, _ => ended

/-- Work that a new task may cause, in steps. -/
def Purpose.work : Purpose → Nat
  | .request _ (.consume _ _ _) => 12
  | .request _ .stop => 20
  | .request _ _ => 8
  | .deliverAck _ _ _ _ _ => 3
  | .deliverAnswer _ _ _ => 3
  | .stopComponent _ _ _ => 3
  | .shutdown sites _ => 20 * sites.length + 1

/-- Work left in the shutdown of one gateway. -/
def ShutdownPhase.work : ShutdownPhase → Nat
  | .opening => 19
  | .joining _ => 7
  | .stoppingOffsets _ => 4
  | .closingClient _ => 1
  | .finished => 0
  | .broken => 0

/-- Work left for a task. -/
def Task.work (task : Task) : Nat :=
  match task.stage with
  | .fresh => Purpose.work task.purpose
  | .shuttingDown parts => parts.foldl (fun left part => left + ShutdownPhase.work part.phase) 1
  | .ended _ => 0
  | _ => 1

/-- Work left in the world: each run of a task and each jump of time uses up some of it. -/
def work (world : World) : Nat :=
  world.tasks.foldl (fun left task => left + Task.work task) 0 + world.ready.length +
    2 * world.timers.length

/-- The task that runs next; the one in the foreground lets all others go first. -/
def pick? (world : World) (foreground : Option TaskId) : Option TaskId :=
  match world.ready.find? fun task => some task != foreground with
  | some task => some task
  | none => world.ready.head?

/-- Runs ready tasks and, when there is none, lets time pass up to a limit, if there is one,
until the foreground task has ended. -/
def runFor (limit : Option Nat) (foreground : Option TaskId) : Nat → World → World
  | 0, world => world
  | fuel + 1, world =>
    match world.pick? foreground with
    | some task => runFor limit foreground fuel (world.resume task)
    | none =>
      if foreground.any world.isOver then world
      else
        match world.nextDue? with
        | some due =>
          if limit.all (due ≤ ·) then runFor limit foreground fuel (world.passTo due) else world
        | none => world

/-- Runs all ready tasks; no time passes. -/
def settle (world : World) : World :=
  runFor (some world.now) none (world.work + 1) world

/-- Lets time pass to a moment. -/
def advanceTo (world : World) (moment : Nat) : World :=
  (runFor (some moment) none (world.work + 1) world).passTo moment

/-- How long a caller waits for a task in the foreground. -/
def patience : Nat := 100000000

/-- Waits for a task; the world at the end of the wait, and how the task ended, if it did. -/
def await (world : World) (task : TaskId) : World × Option Outcome :=
  let limit := world.now + patience
  let after := runFor (some limit) (some task) (world.work + 1) world
  match after.outcome? task with
  | some outcome => (after, some outcome)
  | none => (after.passTo limit, none)

/-- Waits for a task for as long as it takes. -/
def awaitEnd (world : World) (task : TaskId) : World :=
  runFor none (some task) (world.work + 1) world

end ClusterGateway.World
