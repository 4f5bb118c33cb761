import ClusterGateway.World.Basic

/-!
# Shutting down

A shutdown announces itself and starts a task for each serving component. Such a task
takes the component away from the gateway before it stops it, and does nothing when the
component is gone already. When all three have ended, the offset manager is taken and
stopped, and after it the client is taken and closed, each only if it is still there.
-/

namespace ClusterGateway.World

/-- A component that was taken away has stopped. -/
def endComponentStop (world : World) (task : TaskId) (actor : Option String) (site : SiteId)
    (component : Component) (parent : TaskId) : World :=
  let world := (world.recordStop site component true).setState site actor component .stopped
  let uptime :=
    match world.sites[site]? with
    | some found => found.gateway.lifecycle.hasUptime component.name
    | none => false
  let world :=
    if uptime then
      world.note actor [⟨.debug, "subsystem stopped", [("component", component.name)]⟩]
    else world
  (world.finish task (.returned (.ok .done))).wake parent

/-- Takes a serving component away and stops it. -/
def beginComponentStop (world : World) (task : TaskId) (actor : Option String) (site : SiteId)
    (found : Site) (component : Component) (parent : TaskId) : World :=
  if found.gateway.holds component then
    let world := world.onGateway site (·.release component)
    let world := world.setState site actor component .stopping
    let world := world.recordStop site component false
    if world.script.stopBreaks component then (world.finish task .broken).wake parent
    else
      let delay := world.script.stopDelay found.gateway.task.text component
      if delay = 0 then world.endComponentStop task actor site component parent
      else (world.setTimer task (world.now + delay)).setStage task (.sleeping (world.now + delay))
  else (world.finish task (.returned (.ok .done))).wake parent

/-- The log entry of a stop task that broke down or was cancelled. -/
def stopFailureEntries (world : World) (owner : String) (task : TaskId) : List LogEntry :=
  match world.outcome? task with
  | some (.returned _) => []
  | _ => [⟨.error, "subsystem stop task failed", [("proxy", owner)]⟩]

/-- The shutdown of a gateway is over. -/
def completeShutdown (world : World) (actor : Option String) (owner : String)
    (part : Shutdown) : World × Shutdown :=
  let world := world.onGateway part.site (·.notify (.shutdownCompleted (world.now - part.begun)))
  (world.note actor [⟨.info, "proxy stopped", [("proxy", owner)]⟩],
    { part with phase := .finished })

/-- The client is closed. -/
def endClientClose (world : World) (actor : Option String) (owner : String) (part : Shutdown) :
    World × Shutdown :=
  let world := world.recordStop part.site .client true
  let world := world.setState part.site actor .client .stopped
  world.completeShutdown actor owner part

/-- Takes the client away and closes it. -/
def beginClientClose (world : World) (task : TaskId) (actor : Option String) (found : Site)
    (part : Shutdown) : World × Shutdown :=
  let owner := found.gateway.task.text
  if found.gateway.holds .client then
    let world := world.onGateway part.site (·.release .client)
    let world := world.recordStop part.site .client false
    if world.script.stopBreaks .client then (world, { part with phase := .broken })
    else
      let delay := world.script.stopDelay owner .client
      if delay = 0 then world.endClientClose actor owner part
      else
        (world.setTimer task (world.now + delay),
          { part with phase := .closingClient (world.now + delay) })
  else world.completeShutdown actor owner part

/-- The offset manager has stopped. -/
def endOffsetsStop (world : World) (task : TaskId) (actor : Option String) (found : Site)
    (part : Shutdown) : World × Shutdown :=
  let world := world.recordStop part.site .offsets true
  let world := world.setState part.site actor .offsets .stopped
  world.beginClientClose task actor found part

/-- Takes the offset manager away and stops it. -/
def beginOffsetsStop (world : World) (task : TaskId) (actor : Option String) (found : Site)
    (part : Shutdown) : World × Shutdown :=
  if found.gateway.holds .offsets then
    let world := world.onGateway part.site (·.release .offsets)
    let world := world.setState part.site actor .offsets .stopping
    let world := world.recordStop part.site .offsets false
    if world.script.stopBreaks .offsets then (world, { part with phase := .broken })
    else
      let delay := world.script.stopDelay found.gateway.task.text .offsets
      if delay = 0 then world.endOffsetsStop task actor found part
      else
        (world.setTimer task (world.now + delay),
          { part with phase := .stoppingOffsets (world.now + delay) })
  else world.beginClientClose task actor found part

/-- Starts the tasks that stop the given components, in order. -/
def spawnStops (world : World) (parent : TaskId) (site : SiteId) (path : TaskPath) :
    List Component → World × List TaskId
  | [] => (world, [])
  | component :: rest =>
    let (world, task) := world.spawn (some (path.child component.stopTaskName).text)
      (.stopComponent site component parent)
    let (world, tasks) := world.spawnStops parent site path rest
    (world, task :: tasks)

/-- Announces a shutdown and starts to stop the serving components. -/
def openShutdown (world : World) (task : TaskId) (actor : Option String) (found : Site)
    (part : Shutdown) : World × Shutdown :=
  let world := world.onGateway part.site (·.notify .shutdownInitiated)
  let world := world.note actor
    [⟨.info, "stopping proxy", [("proxy", found.gateway.task.text)]⟩]
  let (world, stops) := world.spawnStops task part.site found.gateway.task Component.serving
  (world, { part with phase := .joining stops })

/-- Takes the shutdown of one gateway as far as it can go now. -/
def advanceShutdown (world : World) (task : TaskId) (actor : Option String) (part : Shutdown) :
    World × Shutdown :=
  match world.sites[part.site]? with
  | none => (world, { part with phase := .finished })
  | some found =>
    match part.phase with
    | .opening => world.openShutdown task actor found part
    | .joining stops =>
      if stops.all world.isOver then
        let world := world.note actor
          (stops.flatMap (world.stopFailureEntries found.gateway.task.text))
        world.beginOffsetsStop task actor found part
      else (world, part)
    | .stoppingOffsets due =>
      if due ≤ world.now then world.endOffsetsStop task actor found part else (world, part)
    | .closingClient due =>
      if due ≤ world.now then world.endClientClose actor found.gateway.task.text part
      else (world, part)
    | .finished => (world, part)
    | .broken => (world, part)

/-- Takes the shutdowns of several gateways as far as they can go now, one after the other. -/
def advanceShutdowns (world : World) (task : TaskId) (actor : Option String) :
    List Shutdown → World × List Shutdown
  | [] => (world, [])
  | part :: rest =>
    let (world, part) := world.advanceShutdown task actor part
    let (world, rest) := world.advanceShutdowns task actor rest
    (world, part :: rest)

/-- Goes on with the shutdown of several gateways, and ends with the last of them. -/
def continueShutdown (world : World) (task : TaskId) (actor : Option String) (logged : Bool)
    (parts : List Shutdown) : World :=
  let (world, parts) := world.advanceShutdowns task actor parts
  if parts.any (·.phase == .broken) then world.finish task .broken
  else if parts.all (·.phase == .finished) then
    let world :=
      if logged then world.note actor [⟨.info, "all cluster proxies stopped", []⟩] else world
    world.finish task (.returned (.ok .done))
  else world.setStage task (.shuttingDown parts)

/-- Begins the shutdown of several gateways. -/
def beginShutdown (world : World) (task : TaskId) (actor : Option String) (logged : Bool)
    (sites : List SiteId) : World :=
  world.continueShutdown task actor logged
    (sites.map fun site => ⟨site, world.now, .opening⟩)

end ClusterGateway.World
