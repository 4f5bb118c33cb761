import ClusterGateway.Json.Value
import ClusterGateway.KeyOrder
import ClusterGateway.Log

/-!
# Showing log records

Records are shown from a severity on. Where several gateways write to one log their
records are grouped by gateway, since gateways run side by side and in no order; and
delivery timeouts of one moment that stand together are ordered by their text.
-/

namespace ClusterGateway

/-- Name of a severity. -/
def Severity.text : Severity → String
  | .error => "ERROR"
  | .warn => "WARN"
  | .info => "INFO"
  | .debug => "DEBUG"

namespace LogRecord

/-- A record as JSON, with its keys in alphabetical order. -/
def toJson (record : LogRecord) : Json :=
  .obj [("actor", (record.actor.map Json.str).getD .null),
    ("fields", .obj (KeyOrder.sort (record.entry.fields.map fun (name, value) =>
      (name, Json.str value)))),
    ("level", .str record.entry.severity.text), ("msg", .str record.entry.message),
    ("t", .int (Int.ofNat record.time))]

/-- A path without its last segment; a path of one segment is kept. -/
def parentPath (path : String) : String :=
  let reversed := path.toList.reverse
  match reversed.dropWhile (· != '/') with
  | [] => path
  | _ :: rest => String.ofList rest.reverse

/-- The gateway that a record belongs to, or the empty text. -/
def owner (record : LogRecord) : String :=
  match record.entry.fields.lookup "proxy" with
  | some owner => owner
  | none =>
    match record.actor with
    | some actor => parentPath actor
    | none => ""

/-- A record tells of a delivery timeout. -/
def isDeliveryTimeout (record : LogRecord) : Bool :=
  "ack timeout".toList.isPrefixOf record.entry.message.toList

/-- Records grouped by gateway, in ascending order of the gateways. -/
def groupByOwner (records : List LogRecord) : List LogRecord :=
  (KeyOrder.sort (records.map fun record => (record.owner, record))).map (·.2)

/-- Puts a delivery timeout among those of its moment at the front of a list. -/
def insertTimeout (record : LogRecord) : List LogRecord → List LogRecord
  | [] => [record]
  | other :: rest =>
    if other.isDeliveryTimeout && other.time == record.time &&
        other.toJson.compress < record.toJson.compress then
      other :: insertTimeout record rest
    else record :: other :: rest

/-- Orders the delivery timeouts of one moment that stand together. -/
def orderTimeouts : List LogRecord → List LogRecord
  | [] => []
  | record :: rest =>
    if record.isDeliveryTimeout then insertTimeout record (orderTimeouts rest)
    else record :: orderTimeouts rest

/-- Records of a severity and of graver ones, as they are shown. -/
def shown (grouped : Bool) (severity : Severity) (records : List LogRecord) : List LogRecord :=
  let admitted := records.filter fun record => record.entry.severity.atLeast severity
  orderTimeouts (if grouped then groupByOwner admitted else admitted)

end LogRecord

end ClusterGateway
