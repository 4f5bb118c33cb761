import ClusterGateway.Request

/-!
# The world of tasks

Everything that runs is a task: a request, the delivery of an acknowledgement or of an
answer, the stop of a component, a shutdown. One task runs at a time, from one place
where it waits to the next; a task that can go on stands in the line of ready tasks.
Time is a number of milliseconds; tasks that sleep have a timer, and timers fire in the
order of their times, those of one time in the order in which they were set.
-/

namespace ClusterGateway

/-- What a delayed answer is delivered to. -/
inductive DelayedAnswer where
  | receipt (answer : Answer Receipt)
  | message (answer : Answer Message)
deriving Repr

/-- What a task is for. It does not change while the task lives. -/
inductive Purpose where
  | request (site : SiteId) (request : Request)
  /-- Delivers an acknowledgement on behalf of a consume request. -/
  | deliverAck (site : SiteId) (key : RoutingKey) (offset : Int64) (session : SessionId)
      (parent : TaskId)
  /-- Tells a request its answer after a delay. -/
  | deliverAnswer (target : TaskId) (answer : DelayedAnswer) (delay : Nat)
  /-- Stops a component on behalf of a shutdown. -/
  | stopComponent (site : SiteId) (component : Component) (parent : TaskId)
  /-- Shuts down several gateways side by side; the end may be written to the log. -/
  | shutdown (sites : List SiteId) (logged : Bool)
deriving Repr

/-- How far the shutdown of one gateway has come. -/
inductive ShutdownPhase where
  | opening
  /-- Waits for the tasks that stop the serving components. -/
  | joining (stops : List TaskId)
  | stoppingOffsets (due : Nat)
  | closingClient (due : Nat)
  | finished
  | broken
deriving Repr, DecidableEq

/-- The shutdown of one gateway. -/
structure Shutdown where
  site : SiteId
  /-- When the shutdown began. -/
  begun : Nat
  phase : ShutdownPhase
deriving Repr, DecidableEq

/-- Where a task waits. -/
inductive Stage where
  | fresh
  | awaitingReceipt (answer : Option (Answer Receipt))
  | awaitingMessage (answer : Option (Answer Message))
  /-- Waits for room to acknowledge the message it has fetched, for as long as it takes. -/
  | acknowledging (message : Message)
  /-- Waits for room in a session until a time. -/
  | sending (session : SessionId) (due : Nat)
  | administering (due : Nat)
  | shuttingDown (parts : List Shutdown)
  | sleeping (due : Nat)
  | ended (outcome : Outcome)
deriving Repr

/-- A task; `actor` is the path it is logged under, if it has one. -/
structure Task where
  actor : Option String
  purpose : Purpose
  stage : Stage
deriving Repr

/-- A task is to go on at a time. -/
structure Timer where
  due : Nat
  task : TaskId
deriving Repr, DecidableEq

/-- An attempt to create a component. -/
structure Creation where
  component : Component
  /-- Path of the gateway. -/
  owner : String
  seedPeers : List String
  failed : Bool
deriving Repr, DecidableEq

/-- All gateways with their clusters, all tasks, the time and the log. -/
structure World where
  script : BrokerScript
  now : Nat := 0
  sites : List Site := []
  tasks : List Task := []
  ready : List TaskId := []
  timers : List Timer := []
  /-- Attempts to create components, the first one first. -/
  creations : List Creation := []
  /-- Log records, the last one first. -/
  log : List LogRecord := []

namespace World

/-- Changes one site. -/
def onSite (world : World) (site : SiteId) (change : Site → Site) : World :=
  { world with sites := world.sites.modify site change }

/-- Changes the gateway of one site. -/
def onGateway (world : World) (site : SiteId) (change : Gateway → Gateway) : World :=
  world.onSite site fun found => { found with gateway := change found.gateway }

/-- Changes the cluster of one site. -/
def onBroker (world : World) (site : SiteId) (change : Broker → Broker) : World :=
  world.onSite site fun found => { found with broker := change found.broker }

/-- Puts a task at the end of the line of ready tasks, unless it stands there already. -/
def wake (world : World) (task : TaskId) : World :=
  if world.ready.contains task then world else { world with ready := world.ready ++ [task] }

/-- Wakes several tasks in order. -/
def wakeAll (world : World) (tasks : List TaskId) : World := tasks.foldl wake world

/-- Sets where a task waits. -/
def setStage (world : World) (task : TaskId) (stage : Stage) : World :=
  { world with tasks := world.tasks.modify task fun found => { found with stage := stage } }

/-- Starts a task; it runs when its turn comes. -/
def spawn (world : World) (actor : Option String) (purpose : Purpose) : World × TaskId :=
  let task := world.tasks.length
  ({ world with
      tasks := world.tasks ++ [⟨actor, purpose, .fresh⟩]
      ready := world.ready ++ [task] }, task)

/-- Sets a timer for a task. -/
def setTimer (world : World) (task : TaskId) (due : Nat) : World :=
  { world with timers := world.timers ++ [⟨due, task⟩] }

/-- Ends a task. Its timers go with it. -/
def finish (world : World) (task : TaskId) (outcome : Outcome) : World :=
  { world.setStage task (.ended outcome) with
    timers := world.timers.filter fun timer => timer.task != task }

/-- Writes entries to the log. -/
def note (world : World) (actor : Option String) (entries : List LogEntry) : World :=
  { world with log := (entries.map fun entry => ⟨world.now, actor, entry⟩).reverse ++ world.log }

/-- Sets the state of a component of a gateway, and logs it. -/
def setState (world : World) (site : SiteId) (actor : Option String) (component : Component)
    (state : ComponentState) : World :=
  match world.sites[site]? with
  | none => world
  | some found =>
    (world.onGateway site (·.setState component state)).note actor
      (found.gateway.lifecycle.setStateEntries component.name state)

/-- Records that the stop of a component begins or ends now. -/
def recordStop (world : World) (site : SiteId) (component : Component) (ended : Bool) : World :=
  world.onBroker site (·.recordStop ⟨world.now, component, ended⟩)

/-- How a task has ended, if it has. -/
def outcome? (world : World) (task : TaskId) : Option Outcome :=
  match world.tasks[task]? with
  | some ⟨_, _, .ended outcome⟩ => some outcome
  | _ => none

/-- A task has ended, or there is no such task. -/
def isOver (world : World) (task : TaskId) : Bool :=
  match world.tasks[task]? with
  | some found =>
    match found.stage with
    | .ended _ => true
    | _ => false
  | none => true

end World

end ClusterGateway
