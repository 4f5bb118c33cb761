/-!
# Components of a gateway

A gateway owns five components of its cluster. The producer, the consumer and the admin
serve requests and are stopped side by side, each in a task of its own; the offset
manager is stopped after them and the client is closed last.
-/

namespace ClusterGateway

/-- A component of a gateway. -/
inductive Component where
  | client
  | offsets
  | producer
  | consumer
  | admin
deriving Repr, DecidableEq

namespace Component

/-- Name of a component in states, logs and errors. -/
def name : Component → String
  | client => "kafka_client"
  | offsets => "offset_mgr"
  | producer => "producer"
  | consumer => "consumer"
  | admin => "admin"

/-- All components in the order of their creation. -/
def all : List Component := [client, offsets, producer, consumer, admin]

/-- The components that serve requests, in the order in which their stops start. -/
def serving : List Component := [producer, consumer, admin]

/-- Name of the task that stops a serving component. -/
def stopTaskName : Component → String
  | producer => "prod_stop"
  | consumer => "cons_stop"
  | admin => "adm_stop"
  | offsets => "offs_stop"
  | client => "clt_stop"

/-- The component of a name. -/
def ofName? (name : String) : Option Component := all.find? fun component => component.name == name

/-- Different components have different names. -/
theorem name_injective (left right : Component) (same : left.name = right.name) :
    left = right := by
  cases left <;> cases right <;> first | rfl | exact absurd same (by decide)

end Component

end ClusterGateway
