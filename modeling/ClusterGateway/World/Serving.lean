import ClusterGateway.World.Sending

/-!
# Serving requests

What a request does when it runs first and when it goes on. A request that needs a
component is refused when the gateway does not hold it any more. An explicit
acknowledgement of a consume request is handed to a task of its own before anything else
happens; the session of a fetched message is recorded before the message is acknowledged.
-/

namespace ClusterGateway.World

/-- A request ends with a result. -/
def conclude (world : World) (task : TaskId) (result : Except Error Reply) : World :=
  world.finish task (.returned result)

/-- A producing request gets its answer. -/
def receiveReceipt (world : World) (task : TaskId) : Answer Receipt → World
  | .reply result => world.conclude task (result.map .receipt)
  | .dropped => world.conclude task (.error (.internal "producer dropped produce request"))

/-- Hands a message to the producer and waits for the answer. -/
def beginProduce (world : World) (task : TaskId) (site : SiteId) (found : Site)
    (submission : Submission) : World :=
  if found.gateway.holds .producer then
    let (broker, answer, delay) := found.broker.submit world.script submission
    let world := world.onBroker site fun _ => broker
    if delay = 0 then world.receiveReceipt task answer
    else
      ((world.spawn none (.deliverAnswer task (.receipt answer) delay)).1).setStage task
        (.awaitingReceipt none)
  else world.conclude task (.error .unavailable)

/-- Hands a message to the producer; the answer is not waited for. -/
def beginSubmit (world : World) (task : TaskId) (site : SiteId) (found : Site)
    (submission : Submission) : World :=
  if found.gateway.holds .producer then
    let (broker, _, _) := found.broker.submit world.script submission
    (world.onBroker site fun _ => broker).conclude task (.ok .done)
  else world.conclude task (.error .unavailable)

/-- Hands an acknowledgement to a task of its own, if there is a session for it. -/
def beginBackgroundAck (world : World) (task : TaskId) (site : SiteId) (found : Site)
    (actor : Option String) (key : RoutingKey) (offset : Int64) : World :=
  match found.gateway.routes.get? key with
  | none =>
    world.note actor
      [⟨.debug, "no session to ack", [("key", key.text), ("offset", toString offset.toInt)]⟩]
  | some session =>
    (world.spawn (some (found.gateway.task.child "ack").text)
      (.deliverAck site key offset session task)).1

/-- What the log says of the acknowledgement of a fetched message whose session is closed. -/
def autoAckDropped (group topic : String) (message : Message) : LogEntry :=
  ⟨.warn, "auto-ack dropped, session closed: offset=" ++ toString message.offset.toInt,
    partitionFields ⟨group, topic, message.partition⟩⟩

/-- The attempt to acknowledge a fetched message has ended, or the request waits. -/
def settleAutoAck (world : World) (task : TaskId) (actor : Option String) (group topic : String)
    (message : Message) : SendAttempt → World
  | .accepted => world.conclude task (.ok (.message message))
  | .closed =>
    (world.note actor [autoAckDropped group topic message]).conclude task (.ok (.message message))
  | .full => world.setStage task (.acknowledging message)

/-- A consume request gets its answer. -/
def receiveMessage (world : World) (task : TaskId) (actor : Option String) (site : SiteId)
    (group topic : String) (ack : Ack) : Answer Message → World
  | .dropped => world.conclude task (.error (.internal "consumer dropped consume request"))
  | .reply (.error error) => world.conclude task (.error error)
  | .reply (.ok message) =>
    let world := world.onGateway site (·.route group topic message)
    if ack = .auto then
      let (world, outcome) := world.trySend task site message.session message.offset
      world.settleAutoAck task actor group topic message outcome
    else world.conclude task (.ok (.message message))

/-- Asks the consumer for a message and waits for the answer. -/
def beginFetch (world : World) (task : TaskId) (actor : Option String) (site : SiteId)
    (found : Site) (group topic : String) (ack : Ack) : World :=
  if found.gateway.holds .consumer then
    let (broker, answer, delay) := found.broker.fetch world.script group topic
    let world := world.onBroker site fun _ => broker
    if delay = 0 then world.receiveMessage task actor site group topic ack answer
    else
      ((world.spawn none (.deliverAnswer task (.message answer) delay)).1).setStage task
        (.awaitingMessage none)
  else world.conclude task (.error .unavailable)

/-- Fetches a message, after an explicit acknowledgement was handed on. -/
def beginConsume (world : World) (task : TaskId) (actor : Option String) (site : SiteId)
    (found : Site) (group topic : String) (ack : Ack) : World :=
  let world :=
    match ack with
    | .explicit partition offset =>
      world.beginBackgroundAck task site found actor ⟨group, topic, partition⟩ offset
    | _ => world
  world.beginFetch task actor site found group topic ack

/-- A standalone acknowledgement: refused without a consumer, rejected unless it names a
message, and failed at once where there is no session. -/
def beginAcknowledge (world : World) (task : TaskId) (actor : Option String) (site : SiteId)
    (found : Site) (group topic : String) (ack : Ack) : World :=
  if found.gateway.holds .consumer then
    match ack with
    | .explicit partition offset =>
      match found.gateway.routes.get? ⟨group, topic, partition⟩ with
      | none => world.conclude task (.error (.sessionMissing group topic partition))
      | some session =>
        world.beginDelivery task actor (.request site (.acknowledge group topic ack)) site session
          offset found.gateway.deliveryTimeout
    | _ =>
      world.conclude task
        (.error (.invalidArgument (ack.text ++ " cannot be delivered on its own")))
  else world.conclude task (.error .unavailable)

/-- An administrative call is answered. -/
def endAdminister (world : World) (task : TaskId) (site : SiteId) (found : Site)
    (call : AdminCall) : World :=
  let (broker, result) := found.broker.answer world.script call
  (world.onBroker site fun _ => broker).conclude task (result.map .administered)

/-- Hands a call to the admin; it is answered after a delay. -/
def beginAdminister (world : World) (task : TaskId) (site : SiteId) (found : Site)
    (call : AdminCall) : World :=
  if found.gateway.holds .admin then
    let broker := found.broker.recordCall call
    let world := world.onBroker site fun _ => broker
    if world.script.adminDelay = 0 then
      world.endAdminister task site { found with broker := broker } call
    else
      (world.setTimer task (world.now + world.script.adminDelay)).setStage task
        (.administering (world.now + world.script.adminDelay))
  else world.conclude task (.error .unavailable)

/-- Tells a request its answer, if it still waits for it. -/
def tellAnswer (world : World) (target : TaskId) (answer : DelayedAnswer) : World :=
  match world.tasks[target]? with
  | none => world
  | some found =>
    match found.stage, answer with
    | .awaitingReceipt _, .receipt answer =>
      (world.setStage target (.awaitingReceipt (some answer))).wake target
    | .awaitingMessage _, .message answer =>
      (world.setStage target (.awaitingMessage (some answer))).wake target
    | _, _ => world

end ClusterGateway.World
