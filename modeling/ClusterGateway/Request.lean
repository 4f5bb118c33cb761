import ClusterGateway.Gateway

/-!
# Requests

What can be asked of a gateway, and what comes of it.
-/

namespace ClusterGateway

/-- A question that is answered from what the gateway knows. -/
inductive Query where
  | name
  | config
  | sessionCount
  | states
  | state (component : String)
  | lastError (component : String)
  | hasUptime (component : String)
deriving Repr

/-- What is asked of a gateway. -/
inductive Request where
  /-- Hands a message to the producer and waits until the cluster has accepted it. -/
  | produce (submission : Submission)
  /-- Hands a message to the producer without waiting. -/
  | submit (submission : Submission)
  /-- Fetches a message, and acknowledges one. -/
  | consume (group topic : String) (ack : Ack)
  /-- Acknowledges a message and waits until its session has taken the acknowledgement. -/
  | acknowledge (group topic : String) (ack : Ack)
  | administer (call : AdminCall)
  | stop
  | query (query : Query)
deriving Repr

/-- What a request yields. -/
inductive Reply where
  | done
  | receipt (receipt : Receipt)
  | message (message : Message)
  | administered (reply : AdminReply)
  | text (text : Option String)
  | count (count : Nat)
  | flag (flag : Bool)
  | states (states : List (String × ComponentState))
  | config (config : GatewayConfig)
deriving Repr

/-- How a task ends. -/
inductive Outcome where
  | returned (result : Except Error Reply)
  /-- The task broke down. -/
  | broken
  /-- The task was cancelled while it waited. -/
  | cancelled
deriving Repr

/-- The answer of a gateway to a question. -/
def Gateway.answer (gateway : Gateway) : Query → Reply
  | .name => .text (some gateway.task.text)
  | .config => .config gateway.config
  | .sessionCount => .count gateway.routes.size
  | .states => .states gateway.lifecycle.states
  | .state component => .text ((gateway.lifecycle.state? component).map (·.text))
  | .lastError component => .text (gateway.lifecycle.lastError? component)
  | .hasUptime component => .flag (gateway.lifecycle.hasUptime component)

end ClusterGateway
