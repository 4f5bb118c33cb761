import ClusterGateway.Ack
import ClusterGateway.Broker.State
import ClusterGateway.Config.Basic
import ClusterGateway.Lifecycle
import ClusterGateway.TaskPath

/-!
# Gateways

The gateway of a cluster holds the components it has started, knows the session that each
acknowledgement has to be routed to, and records the lifecycle of its components. A
component that is no longer held is never held again; requests that need it are refused.
-/

namespace ClusterGateway

/-- Number of a gateway among all that were ever opened. -/
abbrev SiteId := Nat

/-- The gateway of one cluster. -/
structure Gateway where
  task : TaskPath
  config : GatewayConfig
  lifecycle : Lifecycle
  /-- The components that requests can still be handed to and that are still to be stopped. -/
  holds : Component → Bool
  routes : RoutingTable SessionId

namespace Gateway

/-- A gateway that holds no component yet. -/
def new (task : TaskPath) (config : GatewayConfig) : Gateway :=
  ⟨task, config, .new task.text, fun _ => false, .empty⟩

/-- The gateway with one more component. -/
def keep (gateway : Gateway) (component : Component) : Gateway :=
  { gateway with holds := fun other => other == component || gateway.holds other }

/-- The gateway without a component. -/
def release (gateway : Gateway) (component : Component) : Gateway :=
  { gateway with holds := fun other => other != component && gateway.holds other }

/-- The gateway with the state of a component set. -/
def setState (gateway : Gateway) (component : Component) (state : ComponentState) : Gateway :=
  { gateway with lifecycle := gateway.lifecycle.setState component.name state }

/-- The gateway with an event announced. -/
def notify (gateway : Gateway) (event : LifecycleEvent) : Gateway :=
  { gateway with lifecycle := gateway.lifecycle.notify event }

/-- The gateway with the session of a fetched message recorded. -/
def route (gateway : Gateway) (group topic : String) (message : Message) : Gateway :=
  { gateway with
    routes := gateway.routes.insert ⟨group, topic, message.partition⟩ message.session }

/-- The longest time that the delivery of an acknowledgement may take. -/
def deliveryTimeout (gateway : Gateway) : Nat := gateway.config.consumer.longPollingTimeout.toNat

/-- A released component is not held. -/
theorem holds_release_self (gateway : Gateway) (component : Component) :
    (gateway.release component).holds component = false := by
  simp [release]

/-- Releasing a component leaves the others alone. -/
theorem holds_release_of_ne (gateway : Gateway) {component other : Component}
    (differ : other ≠ component) :
    (gateway.release component).holds other = gateway.holds other := by
  simp [release, differ]

end Gateway

/-- A gateway with the cluster behind it. -/
structure Site where
  gateway : Gateway
  broker : Broker

end ClusterGateway
