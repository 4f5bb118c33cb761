import ClusterGateway.Log

/-!
# Lifecycle of components

The lifecycle of a gateway records the state of every component and keeps a journal of
all events ever announced. A component is registered when its state is first set, and
counts as starting before that. A subscriber reads the journal from the place where it
joined; of what it has not read only the last 64 events are kept, and a gap is reported
once, with the number of events that are missing in it.
-/

namespace ClusterGateway

/-- State of a component. -/
inductive ComponentState where
  | starting
  | running
  | stopping
  | stopped
  | failed
deriving Repr, DecidableEq

namespace ComponentState

/-- Name of a state. -/
def text : ComponentState → String
  | starting => "starting"
  | running => "running"
  | stopping => "stopping"
  | stopped => "stopped"
  | failed => "failed"

/-- Only a running component accepts work. -/
def canWork : ComponentState → Bool
  | running => true
  | _ => false

/-- A stopped or failed component does not go on. -/
def isTerminal : ComponentState → Bool
  | stopped => true
  | failed => true
  | _ => false

end ComponentState

/-- What subscribers are told. -/
inductive LifecycleEvent where
  | stateChanged (component : String) (before after : ComponentState)
  | shutdownInitiated
  | shutdownCompleted (duration : Nat)
deriving Repr, DecidableEq

/-- What is known of a registered component. -/
structure ComponentRecord where
  state : ComponentState
  /-- It has been running at some time. -/
  hasRun : Bool
  /-- It has been stopped or failed at some time. -/
  hasEnded : Bool
  lastError : Option String
deriving Repr, DecidableEq

namespace ComponentRecord

/-- A component as it is registered. -/
def registered : ComponentRecord := ⟨.starting, false, false, none⟩

/-- The record after a change of state. -/
def enter (record : ComponentRecord) (state : ComponentState) : ComponentRecord :=
  { record with
    state := state
    hasRun := record.hasRun || state.canWork
    hasEnded := record.hasEnded || state.isTerminal }

end ComponentRecord

/-- A place in the journal: the number of events before it. -/
structure Subscription where
  next : Nat
deriving Repr, DecidableEq

/-- What one read of a subscriber yields. -/
inductive Notice where
  | event (event : LifecycleEvent)
  | lagged (missed : Nat)
deriving Repr, DecidableEq

/-- States of the components of one owner, and the journal of their changes. -/
structure Lifecycle where
  owner : String
  components : List (String × ComponentRecord)
  journal : List LifecycleEvent
deriving Repr

namespace Lifecycle

/-- Number of unread events that are kept for a subscriber. -/
def capacity : Nat := 64

/-- A lifecycle without components and without events. -/
def new (owner : String) : Lifecycle := ⟨owner, [], []⟩

/-- What is known of a component. -/
def find? (lifecycle : Lifecycle) (name : String) : Option ComponentRecord :=
  lifecycle.components.lookup name

/-- State of a registered component. -/
def state? (lifecycle : Lifecycle) (name : String) : Option ComponentState :=
  (lifecycle.find? name).map (·.state)

/-- States of all registered components, in the order of registration. -/
def states (lifecycle : Lifecycle) : List (String × ComponentState) :=
  lifecycle.components.map fun (name, record) => (name, record.state)

/-- The error recorded with the last failure. -/
def lastError? (lifecycle : Lifecycle) (name : String) : Option String :=
  (lifecycle.find? name).bind (·.lastError)

/-- A component that has run and has ended has an uptime. -/
def hasUptime (lifecycle : Lifecycle) (name : String) : Bool :=
  match lifecycle.find? name with
  | some record => record.hasRun && record.hasEnded
  | none => false

/-- Applies a change to the record of a name, in its place; other names are left alone. -/
def update (name : String) (change : ComponentRecord → ComponentRecord) :
    List (String × ComponentRecord) → List (String × ComponentRecord)
  | [] => []
  | (other, record) :: rest =>
    if name == other then (other, change record) :: rest
    else (other, record) :: update name change rest

/-- Announces an event. -/
def notify (lifecycle : Lifecycle) (event : LifecycleEvent) : Lifecycle :=
  { lifecycle with journal := lifecycle.journal ++ [event] }

/-- The lifecycle in which a name is registered. -/
def register (lifecycle : Lifecycle) (name : String) : Lifecycle :=
  if (lifecycle.find? name).isSome then lifecycle
  else { lifecycle with components := lifecycle.components ++ [(name, .registered)] }

/-- Sets the state of a component, registering it first if needed, and announces the change. -/
def setState (lifecycle : Lifecycle) (name : String) (state : ComponentState) : Lifecycle :=
  let known := lifecycle.register name
  let before := (known.state? name).getD .starting
  { known with components := update name (·.enter state) known.components }.notify
    (.stateChanged name before state)

/-- Marks a component as failed. The error is kept only by a component that is registered
already. -/
def markFailed (lifecycle : Lifecycle) (name error : String) : Lifecycle :=
  { lifecycle with
    components := update name (fun record => { record with lastError := some error })
      lifecycle.components }.setState name .failed

/-- What setting a state writes to the log. -/
def setStateEntries (lifecycle : Lifecycle) (name : String) (state : ComponentState) :
    List LogEntry :=
  let registration :=
    if (lifecycle.find? name).isSome then []
    else [⟨.debug, "registered component", [("component", name), ("proxy", lifecycle.owner)]⟩]
  let before := (lifecycle.state? name).getD .starting
  registration ++
    [⟨.info, "Component " ++ name ++ " state: " ++ before.text ++ " -> " ++ state.text,
      [("proxy", lifecycle.owner)]⟩]

/-- A subscriber that joins now reads the events announced from now on. -/
def subscribe (lifecycle : Lifecycle) : Subscription := ⟨lifecycle.journal.length⟩

/-- The next thing that a subscriber reads, if there is one, and its place afterwards. -/
def receive? (lifecycle : Lifecycle) (subscription : Subscription) :
    Option (Notice × Subscription) :=
  let oldest := lifecycle.journal.length - capacity
  if subscription.next < oldest then
    some (.lagged (oldest - subscription.next), ⟨oldest⟩)
  else
    (lifecycle.journal[subscription.next]?).map fun event =>
      (.event event, ⟨subscription.next + 1⟩)

/-- Up to `limit` reads of a subscriber. -/
def receive (lifecycle : Lifecycle) (subscription : Subscription) :
    Nat → List Notice × Subscription
  | 0 => ([], subscription)
  | limit + 1 =>
    match lifecycle.receive? subscription with
    | none => ([], subscription)
    | some (notice, after) =>
      let (notices, last) := lifecycle.receive after limit
      (notice :: notices, last)

/-- All that a subscriber can read; a gap counts as one read. -/
def receiveAll (lifecycle : Lifecycle) (subscription : Subscription) :
    List Notice × Subscription :=
  lifecycle.receive subscription (lifecycle.journal.length + 1 - subscription.next)

/-- Setting a state announces exactly one event. -/
theorem journal_setState (lifecycle : Lifecycle) (name : String) (state : ComponentState) :
    (lifecycle.setState name state).journal = lifecycle.journal ++
      [.stateChanged name (((lifecycle.register name).state? name).getD .starting) state] := by
  simp only [setState, notify, register]
  split <;> rfl

/-- A subscriber that has just joined reads nothing. -/
theorem receive?_subscribe (lifecycle : Lifecycle) :
    lifecycle.receive? lifecycle.subscribe = none := by
  simp [receive?, subscribe]

end Lifecycle

end ClusterGateway
