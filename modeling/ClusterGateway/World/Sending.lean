import ClusterGateway.World.Basic

/-!
# Sending acknowledgements

An acknowledgement is sent to the session of a message. A standalone one and one that
rides on a consume request are given up when the delivery timeout is over; one for the
message just fetched waits for as long as it takes. A task that is woken looks first
whether the session is closed, then whether it was granted room, and last at the time.
-/

namespace ClusterGateway.World

/-- The session of a number at a site. -/
def session? (world : World) (site : SiteId) (session : SessionId) : Option Session :=
  (world.sites[site]?).bind fun found => found.broker.sessions[session]?

/-- Changes a session by an operation that names the tasks it serves, and wakes them. -/
def onSession (world : World) (site : SiteId) (session : SessionId)
    (change : Session → Session × List TaskId) : World :=
  match world.session? site session with
  | none => world
  | some found =>
    let (after, served) := change found
    (world.onBroker site (·.onSession session fun _ => after)).wakeAll served

/-- A task attempts to send an offset; if there is no room it gets in line. -/
def trySend (world : World) (task : TaskId) (site : SiteId) (session : SessionId)
    (offset : Int64) : World × SendAttempt :=
  match world.session? site session with
  | none => (world, .closed)
  | some found =>
    match found.attempt with
    | .accepted =>
      (world.onSession site session fun found => (found.accept ⟨some task, offset⟩, []),
        .accepted)
    | .full => (world.onSession site session fun found => (found.await task, []), .full)
    | .closed => (world, .closed)

/-- A task that got in line looks whether it can send now. -/
def retrySend (world : World) (task : TaskId) (site : SiteId) (session : SessionId)
    (offset : Int64) : World × SendAttempt :=
  match world.session? site session with
  | none => (world, .closed)
  | some found =>
    if found.closed then (world, .closed)
    else if found.granted.contains task then
      (world.onSession site session fun found => (found.fill task offset, []), .accepted)
    else (world, .full)

/-- A task gives up sending. -/
def giveUpSend (world : World) (task : TaskId) (site : SiteId) (session : SessionId) : World :=
  world.onSession site session fun found => found.withdraw task

/-- How the delivery of an acknowledgement ends. -/
inductive DeliveryEnd where
  | accepted
  | closed
  | timedOut
deriving Repr, DecidableEq

/-- What the log says of the partition of a key. -/
def partitionFields (key : RoutingKey) : List (String × String) :=
  [("kafka.group", key.group), ("kafka.topic", key.topic),
    ("kafka.partition", toString key.partition.toInt)]

/-- What the log says of an acknowledgement that was not delivered. -/
def deliveryEntries (key : RoutingKey) (offset : Int64) : DeliveryEnd → List LogEntry
  | .accepted => []
  | .closed =>
    [⟨.warn, "ack dropped, session closed: offset=" ++ toString offset.toInt, partitionFields key⟩]
  | .timedOut => [⟨.error, "ack timeout: offset=" ++ toString offset.toInt, partitionFields key⟩]

/-- Result of a standalone acknowledgement. -/
def acknowledgeResult (group topic : String) (partition : Int32) (offset : Int64) :
    DeliveryEnd → Except Error Reply
  | .accepted => .ok .done
  | .closed => .error (.sessionMissing group topic partition)
  | .timedOut => .error (.ackTimeout group topic partition offset)

/-- A task that delivers an acknowledgement ends. -/
def endDelivery (world : World) (task : TaskId) (actor : Option String) (purpose : Purpose)
    (result : DeliveryEnd) : World :=
  match purpose with
  | .request _ (.acknowledge group topic (.explicit partition offset)) =>
    world.finish task (.returned (acknowledgeResult group topic partition offset result))
  | .deliverAck _ key offset _ _ =>
    (world.note actor (deliveryEntries key offset result)).finish task (.returned (.ok .done))
  | _ => world.finish task .broken

/-- Begins to deliver an acknowledgement, at most until the delivery timeout is over. -/
def beginDelivery (world : World) (task : TaskId) (actor : Option String) (purpose : Purpose)
    (site : SiteId) (session : SessionId) (offset : Int64) (timeout : Nat) : World :=
  match world.trySend task site session offset with
  | (world, .accepted) => world.endDelivery task actor purpose .accepted
  | (world, .closed) => world.endDelivery task actor purpose .closed
  | (world, .full) =>
    (world.setTimer task (world.now + timeout)).setStage task
      (.sending session (world.now + timeout))

/-- Goes on with the delivery of an acknowledgement. -/
def continueDelivery (world : World) (task : TaskId) (actor : Option String) (purpose : Purpose)
    (site : SiteId) (session : SessionId) (offset : Int64) (due : Nat) : World :=
  match world.retrySend task site session offset with
  | (world, .accepted) => world.endDelivery task actor purpose .accepted
  | (world, .closed) => world.endDelivery task actor purpose .closed
  | (world, .full) =>
    if due ≤ world.now then
      (world.giveUpSend task site session).endDelivery task actor purpose .timedOut
    else world

end ClusterGateway.World
