/-!
# Log records

What the gateway writes to its log: a severity, a message and named fields, stamped with
the time and with the background task that wrote it.
-/

namespace ClusterGateway

/-- Severity of a log record, the gravest first. -/
inductive Severity where
  | error
  | warn
  | info
  | debug
deriving Repr, DecidableEq

/-- Rank of a severity; a graver one has a smaller rank. -/
def Severity.rank : Severity → Nat
  | .error => 0
  | .warn => 1
  | .info => 2
  | .debug => 3

/-- A severity is at least as grave as another. -/
def Severity.atLeast (severity limit : Severity) : Bool := severity.rank ≤ limit.rank

/-- What is written, before it is stamped. -/
structure LogEntry where
  severity : Severity
  message : String
  fields : List (String × String)
deriving Repr, DecidableEq

/-- A stamped entry; `actor` is the path of the background task that wrote it. -/
structure LogRecord where
  time : Nat
  actor : Option String
  entry : LogEntry
deriving Repr, DecidableEq

end ClusterGateway
