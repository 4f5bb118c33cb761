import ClusterGateway.World.Moves
import Mathlib.Logic.Relation

/-!
# Strokes of a task

When a task runs, it changes the world by a few strokes: it writes to the log, wakes or
starts tasks, waits or ends, asks the cluster behind a gateway for something, records a
fetched message, or takes a component away and stops it. `Stroke` says once which strokes
a task of a given purpose may make; every step of a task consists of them (`Strokes`).
What no stroke of a purpose changes, no task of that purpose changes.

Touching a session is a stroke only where the parameter `sends` holds, and handing an
acknowledgement to a task of its own only where `hands` holds. Strokes without the first
are the quiet part of a step.
-/

namespace ClusterGateway

/-- The gateways that a shutdown task shuts down. -/
def Purpose.shutsDown : Purpose → List SiteId
  | .request site .stop => [site]
  | .shutdown sites _ => sites
  | _ => []

/-- The gateways whose components a task takes away. -/
def Purpose.tearsDown : Purpose → List SiteId
  | .stopComponent site _ _ => [site]
  | purpose => purpose.shutsDown

/-- Tasks of a purpose may acknowledge messages themselves. -/
def Purpose.Sends : Purpose → Prop
  | .request _ (.consume _ _ _) => True
  | .request _ (.acknowledge _ _ _) => True
  | .deliverAck _ _ _ _ _ => True
  | _ => False

/-- A task of a purpose may wait in a stage. -/
def Stage.Fits : Stage → Purpose → Prop
  | .fresh, _ => True
  | .ended _, _ => True
  | .awaitingReceipt _, .request _ (.produce _) => True
  | .awaitingMessage _, .request _ (.consume _ _ _) => True
  | .acknowledging _, .request _ (.consume _ _ ack) => ack = .auto
  | .sending _ _, .request _ (.acknowledge _ _ ack) =>
    ∃ partition offset, ack = .explicit partition offset
  | .sending session _, .deliverAck _ _ _ routed _ => session = routed
  | .administering _, .request _ (.administer _) => True
  | .shuttingDown parts, .request site .stop =>
    parts.map (·.site) = [site] ∧ ∀ part ∈ parts, part.phase ≠ .broken
  | .shuttingDown parts, .shutdown sites _ =>
    parts.map (·.site) = sites ∧ ∀ part ∈ parts, part.phase ≠ .broken
  | .sleeping _, .deliverAnswer _ _ _ => True
  | .sleeping _, .stopComponent _ _ _ => True
  | _, _ => False

/-- A task may start another: a request the delivery of its answer, a shutdown the stops
of the serving components. -/
def Purpose.Bears (parent : TaskId) : Purpose → Purpose → Prop
  | .request _ (.produce _), .deliverAnswer target (.receipt _) _ => target = parent
  | .request _ (.consume _ _ _), .deliverAnswer target (.message _) _ => target = parent
  | .request site .stop, .stopComponent place component owner =>
    place = site ∧ component ∈ Component.serving ∧ owner = parent
  | .shutdown sites _, .stopComponent place component owner =>
    place ∈ sites ∧ component ∈ Component.serving ∧ owner = parent
  | _, _ => False

/-- A consume request may hand its explicit acknowledgement to a task of its own. -/
def Purpose.HandsOn (parent : TaskId) : Purpose → Purpose → Prop
  | .request site (.consume group topic (.explicit partition offset)),
      .deliverAck place key sent _ owner =>
    place = site ∧ key = ⟨group, topic, partition⟩ ∧ sent = offset ∧ owner = parent
  | _, _ => False

/-- Tasks of a purpose may have an acknowledgement to hand on. -/
def Purpose.Entrusts : Purpose → Prop
  | .request _ (.consume _ _ (.explicit _ _)) => True
  | _ => False

/-- A task that has stopped a component wakes the shutdown that it did so for. -/
def Purpose.Rouses : Purpose → TaskId → Prop
  | .stopComponent _ _ parent, other => other = parent
  | _, _ => False

/-- What becomes of a cluster that a request is handed to. -/
inductive Broker.Serves (script : BrokerScript) (broker : Broker) : Request → Broker → Prop
  | produce (submission : Submission) :
    Serves script broker (.produce submission) (broker.submit script submission).1
  | submit (submission : Submission) :
    Serves script broker (.submit submission) (broker.submit script submission).1
  | consume (group topic : String) (ack : Ack) :
    Serves script broker (.consume group topic ack) (broker.fetch script group topic).1
  | record (call : AdminCall) : Serves script broker (.administer call) (broker.recordCall call)
  | answer (call : AdminCall) :
    Serves script broker (.administer call) (broker.answer script call).1

namespace World

/-- One stroke of the task `me` of a purpose. -/
inductive Stroke (me : TaskId) (purpose : Purpose) (sends hands : Prop) : World → World → Prop
  | note (world : World) (actor : Option String) (entries : List LogEntry) :
    Stroke me purpose sends hands world (world.note actor entries)
  | wake (world : World) (other : TaskId) (rouses : purpose.Rouses other) :
    Stroke me purpose sends hands world (world.wake other)
  | setTimer (world : World) (due : Nat) :
    Stroke me purpose sends hands world (world.setTimer me due)
  | setStage (world : World) (stage : Stage) (fits : stage.Fits purpose) (ran : stage ≠ .fresh) :
    Stroke me purpose sends hands world (world.setStage me stage)
  | finish (world : World) (outcome : Outcome) :
    Stroke me purpose sends hands world (world.finish me outcome)
  | spawn (world : World) (actor : Option String) (child : Purpose)
    (bears : purpose.Bears me child) :
    Stroke me purpose sends hands world (world.spawn actor child).1
  | tell (world : World) (target : TaskId) (answer : DelayedAnswer) (delay : Nat)
    (tells : purpose = .deliverAnswer target answer delay) :
    Stroke me purpose sends hands world (world.tellAnswer target answer)
  | serve (world : World) (site : SiteId) (request : Request) (found : Site) (broker : Broker)
    (asks : purpose = .request site request) (there : world.sites[site]? = some found)
    (serves : found.broker.Serves world.script request broker) :
    Stroke me purpose sends hands world (world.onBroker site fun _ => broker)
  | route (world : World) (site : SiteId) (group topic : String) (ack : Ack) (message : Message)
    (asks : purpose = .request site (.consume group topic ack)) :
    Stroke me purpose sends hands world (world.onGateway site (·.route group topic message))
  | release (world : World) (site : SiteId) (component : Component)
    (tears : site ∈ purpose.tearsDown) :
    Stroke me purpose sends hands world (world.onGateway site (·.release component))
  | setState (world : World) (site : SiteId) (actor : Option String) (component : Component)
    (state : ComponentState) (tears : site ∈ purpose.tearsDown) :
    Stroke me purpose sends hands world (world.setState site actor component state)
  | notify (world : World) (site : SiteId) (event : LifecycleEvent)
    (tears : site ∈ purpose.tearsDown) :
    Stroke me purpose sends hands world (world.onGateway site (·.notify event))
  | recordStop (world : World) (site : SiteId) (component : Component) (ended : Bool)
    (tears : site ∈ purpose.tearsDown) :
    Stroke me purpose sends hands world (world.recordStop site component ended)
  | handOn (world : World) (actor : Option String) (child : Purpose) (allowed : hands)
    (handed : purpose.HandsOn me child) :
    Stroke me purpose sends hands world (world.spawn actor child).1
  | touch (world : World) (site : SiteId) (session : SessionId)
    (change : Session → Session × List TaskId) (acknowledges : sends) :
    Stroke me purpose sends hands world (world.onSession site session change)

/-- Strokes of a task one after the other. -/
def Strokes (me : TaskId) (purpose : Purpose) (sends hands : Prop) : World → World → Prop :=
  Relation.ReflTransGen (Stroke me purpose sends hands)

namespace Strokes

variable {me : TaskId} {purpose : Purpose} {sends hands : Prop} {first middle last : World}

/-- No stroke at all. -/
theorem refl (world : World) : Strokes me purpose sends hands world world :=
  Relation.ReflTransGen.refl

/-- Strokes follow each other. -/
theorem trans (before : Strokes me purpose sends hands first middle)
    (after : Strokes me purpose sends hands middle last) :
    Strokes me purpose sends hands first last :=
  Relation.ReflTransGen.trans before after

/-- One more stroke at the end. -/
theorem tail (before : Strokes me purpose sends hands first middle)
    (stroke : Stroke me purpose sends hands middle last) :
    Strokes me purpose sends hands first last :=
  Relation.ReflTransGen.tail before stroke

/-- A single stroke. -/
theorem single (stroke : Stroke me purpose sends hands first last) :
    Strokes me purpose sends hands first last :=
  Relation.ReflTransGen.single stroke

/-- What every stroke keeps, strokes keep. -/
theorem keeps {P : World → World → Prop} (same : ∀ world, P world world)
    (joins : ∀ {first middle last}, P first middle → P middle last → P first last)
    (stroke : ∀ {before after}, Stroke me purpose sends hands before after → P before after)
    (strokes : Strokes me purpose sends hands first last) : P first last := by
  induction strokes with
  | refl => exact same first
  | tail _ next ih => exact joins ih (stroke next)

end Strokes

end World

end ClusterGateway
