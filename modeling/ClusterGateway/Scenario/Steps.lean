import ClusterGateway.Registry
import ClusterGateway.Scenario.Records

/-!
# Scenarios

A scenario opens a gateway, or a registry of gateways, over a scripted cluster and takes
steps: requests made in the foreground or in the background, the passing of time, and
looks at what the cluster and the subscribers have seen. After each step all ready tasks
run until they wait.
-/

namespace ClusterGateway

namespace Scenario

/-- A use of the gateways. -/
inductive Call where
  /-- A request to the gateway of a cluster, or the reason why it cannot even be made. -/
  | request (cluster : Option String) (request : Except Error Request)
  | clusters
  | defaultCluster
  | stopAll
deriving Repr

/-- A step of a scenario. -/
inductive Step where
  | call (call : Call)
  | spawn (id : String) (call : Call)
  | poll (id : String)
  | join (id : String)
  | abort (id : String)
  | advance (time : Nat)
  | subscribe (id : String) (cluster : Option String)
  | events (id : String)
  | stops
  | enqueue (cluster : Option String) (group topic : String) (items : List QueuedDelivery)
  | submissions (cluster : Option String)
  | requestCount (cluster : Option String)
  | adminCalls (cluster : Option String)
  | readSession (cluster : Option String) (key : RoutingKey) (generation : Option Nat)
      (limit : Option Nat)
  | closeSession (cluster : Option String) (key : RoutingKey) (generation : Option Nat)
  | renewSession (cluster : Option String) (key : RoutingKey)
deriving Repr

/-- What comes of a call. -/
inductive CallResult where
  | reply (result : Except Error Reply)
  | names (names : List String)
  | broken
  | cancelled
  /-- The caller has lost its patience. -/
  | hang
deriving Repr

/-- What a step on a session tells. -/
inductive SessionAnswer where
  | absent
  | closed
  | closing
  | open (offsets : List Int64)
  | renewed (generation : Nat)
deriving Repr

/-- What a step tells. -/
inductive Report where
  | nothing
  | failed (error : Error)
  | result (result : CallResult)
  | progress (ended : Option Bool)
  | noTask
  | notices (notices : Option (List Notice))
  | stops (lines : List (String × StopLine))
  | submissions (submissions : List Submission)
  | number (number : Nat)
  | adminCalls (calls : List AdminCall)
  | session (answer : SessionAnswer)
deriving Repr

/-- What runs under the name of a background call: a task, or nothing because the result
was known at once. -/
inductive Background where
  | task (task : TaskId)
  | known (result : CallResult)
deriving Repr

/-- What comes of a call whose task has ended. -/
def CallResult.ofOutcome : Outcome → CallResult
  | .returned result => .reply result
  | .broken => .broken
  | .cancelled => .cancelled

/-- A step taken: the time after it, what it told, and the log records it wrote. -/
structure Taken where
  time : Nat
  report : Report
  records : List LogRecord

end Scenario

/-- A scenario in progress. -/
structure Scenario where
  world : World
  registry : Registry
  /-- Stop records are told with the gateway, in order of the gateways. -/
  grouped : Bool
  background : List (String × Scenario.Background) := []
  subscriptions : List (String × (SiteId × Subscription)) := []
  /-- How many stop lines of each gateway have been told. -/
  stopsTold : List Nat := []

namespace Scenario

/-- The site of the gateway of a cluster. -/
def site? (scenario : Scenario) (cluster : Option String) : Except Error SiteId :=
  scenario.registry.get? cluster

/-- The cluster in memory behind a gateway. -/
def broker (scenario : Scenario) (cluster : Option String) : Broker :=
  match scenario.site? cluster with
  | .error _ => {}
  | .ok site => ((scenario.world.sites[site]?).map (·.broker)).getD {}

/-- The scenario with its world changed. -/
def onWorld (scenario : Scenario) (change : World → World) : Scenario :=
  { scenario with world := change scenario.world }

/-- Changes the cluster in memory behind a gateway. -/
def onBroker (scenario : Scenario) (cluster : Option String) (change : Broker → Broker) :
    Scenario :=
  match scenario.site? cluster with
  | .error _ => scenario
  | .ok site => scenario.onWorld (·.onBroker site change)

/-- Starts a call: a task, or a result that is known at once. -/
def begin (scenario : Scenario) : Call → Scenario × Background
  | .request cluster request =>
    match scenario.site? cluster, request with
    | .error error, _ => (scenario, .known (.reply (.error error)))
    | .ok _, .error error => (scenario, .known (.reply (.error error)))
    | .ok site, .ok request =>
      let (world, task) := scenario.world.spawn none (.request site request)
      ({ scenario with world := world }, .task task)
  | .clusters => (scenario, .known (.names scenario.registry.names))
  | .defaultCluster =>
    (scenario, .known (.reply (.ok (.text (some scenario.registry.defaultCluster)))))
  | .stopAll =>
    let (world, task) := scenario.world.spawn none (.shutdown scenario.registry.sites true)
    ({ scenario with world := world }, .task task)

/-- Makes a call in the foreground. A call that outlasts the caller's patience is cancelled. -/
def call (scenario : Scenario) (call : Call) : Scenario × CallResult :=
  match scenario.begin call with
  | (scenario, .known result) => (scenario, result)
  | (scenario, .task task) =>
    match scenario.world.await task with
    | (world, some outcome) => ({ scenario with world := world }, .ofOutcome outcome)
    | (world, none) => ({ scenario with world := world.cancel task }, .hang)

/-- A background call is over. -/
def isOver (scenario : Scenario) : Background → Bool
  | .known _ => true
  | .task task => scenario.world.isOver task

/-- Waits for a background call. -/
def joinBackground (scenario : Scenario) : Background → Scenario × CallResult
  | .known result => (scenario, result)
  | .task task =>
    match scenario.world.await task with
    | (world, some outcome) => ({ scenario with world := world }, .ofOutcome outcome)
    | (world, none) => ({ scenario with world := world }, .hang)

/-- The session of a partition at a generation, with its site. -/
def session? (scenario : Scenario) (cluster : Option String) (key : RoutingKey)
    (generation : Option Nat) : Option (SiteId × SessionId × Session) :=
  match scenario.site? cluster with
  | .error _ => none
  | .ok site => do
    let found ← scenario.world.sites[site]?
    let session ← found.broker.generation? key generation
    let state ← found.broker.sessions[session]?
    some (site, session, state)

/-- The stop lines of the gateways that were not told yet. -/
def newStops (scenario : Scenario) : List (String × StopLine) :=
  let lines := scenario.world.sites.zipIdx.flatMap fun (site, index) =>
    (site.broker.stops.drop ((scenario.stopsTold[index]?).getD 0)).map fun line =>
      (site.gateway.task.text, line)
  if scenario.grouped then KeyOrder.sort lines else lines

/-- The scenario in which all stop lines have been told. -/
def tellStops (scenario : Scenario) : Scenario :=
  { scenario with stopsTold := scenario.world.sites.map fun site => site.broker.stops.length }

/-- Takes a step, before the ready tasks run. -/
def take (scenario : Scenario) : Step → Scenario × Report
  | .call call =>
    let (scenario, result) := scenario.call call
    (scenario, .result result)
  | .spawn id call =>
    let (scenario, background) := scenario.begin call
    let scenario := scenario.onWorld World.settle
    ({ scenario with background := assign id background scenario.background },
      .progress (some (scenario.isOver background)))
  | .poll id => (scenario, .progress ((scenario.background.lookup id).map scenario.isOver))
  | .join id =>
    match scenario.background.lookup id with
    | none => (scenario, .noTask)
    | some background =>
      let (scenario, result) := scenario.joinBackground background
      ({ scenario with
          background := scenario.background.filter fun entry => entry.1 != id }, .result result)
  | .abort id =>
    match scenario.background.lookup id with
    | some (.task task) => (scenario.onWorld (·.cancel task), .nothing)
    | _ => (scenario, .nothing)
  | .advance time => (scenario.onWorld fun world => world.advanceTo (world.now + time), .nothing)
  | .subscribe id cluster =>
    match scenario.site? cluster with
    | .error error => (scenario, .failed error)
    | .ok site =>
      match scenario.world.sites[site]? with
      | none => (scenario, .nothing)
      | some found =>
        ({ scenario with
            subscriptions :=
              assign id (site, found.gateway.lifecycle.subscribe) scenario.subscriptions },
          .nothing)
  | .events id =>
    match scenario.subscriptions.lookup id with
    | none => (scenario, .notices none)
    | some (site, subscription) =>
      match scenario.world.sites[site]? with
      | none => (scenario, .notices none)
      | some found =>
        let (notices, after) := found.gateway.lifecycle.receiveAll subscription
        ({ scenario with subscriptions := assign id (site, after) scenario.subscriptions },
          .notices (some notices))
  | .stops => (scenario.tellStops, .stops scenario.newStops)
  | .enqueue cluster group topic items =>
    (scenario.onBroker cluster (·.enqueue group topic items), .nothing)
  | .submissions cluster => (scenario, .submissions (scenario.broker cluster).submissions)
  | .requestCount cluster => (scenario, .number (scenario.broker cluster).requests.length)
  | .adminCalls cluster => (scenario, .adminCalls (scenario.broker cluster).adminCalls)
  | .readSession cluster key generation limit =>
    match scenario.session? cluster key generation with
    | none => (scenario, .session .absent)
    | some (site, session, state) =>
      if state.closed then (scenario, .session .closed)
      else
        let count := limit.getD state.buffer.length
        (scenario.onWorld (·.onSession site session fun found => (found.take count).2),
          .session (.open (state.take count).1))
  | .closeSession cluster key generation =>
    match scenario.session? cluster key generation with
    | none => (scenario, .session .absent)
    | some (site, session, state) =>
      if state.closed then (scenario, .session .closed)
      else (scenario.onWorld (·.onSession site session Session.close), .session .closing)
  | .renewSession cluster key =>
    let (_, generation) := (scenario.broker cluster).renewSession key
    (scenario.onBroker cluster fun broker => (broker.renewSession key).1,
      .session (.renewed generation))

/-- Takes a step; then all ready tasks run until they wait. -/
def step (scenario : Scenario) (step : Step) : Scenario × Report :=
  let (scenario, report) := scenario.take step
  (scenario.onWorld World.settle, report)

/-- The log records written since there were `before` of them. -/
def newRecords (scenario : Scenario) (before : Nat) : List LogRecord :=
  (scenario.world.log.take (scenario.world.log.length - before)).reverse

/-- Takes steps one after the other. -/
def run (scenario : Scenario) : List Step → List Taken
  | [] => []
  | next :: rest =>
    let before := scenario.world.log.length
    let (scenario, report) := scenario.step next
    ⟨scenario.world.now, report, scenario.newRecords before⟩ :: scenario.run rest

/-- Opens one gateway. -/
def openGateway (script : BrokerScript) (parent : TaskPath) (name : String)
    (config : GatewayConfig) : World × Except Error Scenario :=
  let start : World := { script := script }
  match start.openGateway parent name config with
  | (world, .error error) => (world, .error error)
  | (world, .ok site) =>
    (world, .ok { world := world, registry := ⟨[(name, site)], name⟩, grouped := false })

/-- Opens a registry of gateways. -/
def openRegistry (script : BrokerScript) (config : AppConfig) :
    World × Except Error Scenario :=
  let start : World := { script := script }
  match Registry.openFrom start config with
  | (world, .error error) => (world, .error error)
  | (world, .ok registry) =>
    (world, .ok { world := world, registry := registry, grouped := true })

end Scenario

end ClusterGateway
