import ClusterGateway.Association
import ClusterGateway.Lifecycle

/-!
# An audience of a lifecycle

A lifecycle with named subscribers, one step at a time. All handles of one lifecycle
share its state, so it does not matter through which of them a step is made.
-/

namespace ClusterGateway

/-- A lifecycle and the places of its subscribers in the journal. -/
structure Audience where
  lifecycle : Lifecycle
  subscribers : List (String × Subscription) := []
deriving Repr

/-- A step with an audience. -/
inductive Audience.Step where
  | subscribe (id : String)
  | unsubscribe (id : String)
  | setState (name : String) (state : ComponentState) (times : Nat)
  | markFailed (name error : String)
  | state (name : String)
  | states
  | lastError (name : String)
  | hasUptime (name : String)
  | notify (event : LifecycleEvent) (times : Nat)
  | events (id : String) (limit : Option Nat)
deriving Repr

/-- What a step with an audience tells. -/
inductive Audience.Report where
  | nothing
  | state (state : Option ComponentState)
  | states (states : List (String × ComponentState))
  | text (text : Option String)
  | flag (flag : Bool)
  | notices (notices : Option (List Notice))
deriving Repr

namespace Audience

/-- Changes the lifecycle a number of times. -/
def repeatedly (audience : Audience) (change : Lifecycle → Lifecycle) (times : Nat) : Audience :=
  { audience with lifecycle := times.repeat change audience.lifecycle }

/-- What a subscriber reads. -/
def events (audience : Audience) (id : String) (limit : Option Nat) :
    Audience × Option (List Notice) :=
  match audience.subscribers.lookup id with
  | none => (audience, none)
  | some subscription =>
    let (notices, after) :=
      match limit with
      | some limit => audience.lifecycle.receive subscription limit
      | none => audience.lifecycle.receiveAll subscription
    ({ audience with subscribers := assign id after audience.subscribers }, some notices)

/-- Takes a step. -/
def step (audience : Audience) : Audience.Step → Audience × Audience.Report
  | .subscribe id =>
    ({ audience with
        subscribers := assign id audience.lifecycle.subscribe audience.subscribers }, .nothing)
  | .unsubscribe id =>
    ({ audience with subscribers := audience.subscribers.filter fun entry => entry.1 != id },
      .nothing)
  | .setState name state times => (audience.repeatedly (·.setState name state) times, .nothing)
  | .markFailed name error => (audience.repeatedly (·.markFailed name error) 1, .nothing)
  | .state name => (audience, .state (audience.lifecycle.state? name))
  | .states => (audience, .states audience.lifecycle.states)
  | .lastError name => (audience, .text (audience.lifecycle.lastError? name))
  | .hasUptime name => (audience, .flag (audience.lifecycle.hasUptime name))
  | .notify event times => (audience.repeatedly (·.notify event) times, .nothing)
  | .events id limit =>
    let (audience, notices) := audience.events id limit
    (audience, .notices notices)

/-- Takes steps one after the other. -/
def run (audience : Audience) : List Audience.Step → List Audience.Report
  | [] => []
  | next :: rest =>
    let (audience, report) := audience.step next
    report :: audience.run rest

end Audience

end ClusterGateway
