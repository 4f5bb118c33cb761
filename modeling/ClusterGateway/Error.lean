import ClusterGateway.Text.Quoted

/-!
# Errors

Every way a request, a start-up or a configuration can fail is one cause. A cause has
its own text, says whether the same request may succeed when it is sent again, and
lists the texts of the causes below it, outermost first.
-/

namespace ClusterGateway

/-- Why the settings do not yield a configuration. -/
inductive SettingsFault where
  /-- A fault described by its text alone. -/
  | message (text : String)
  /-- A property that was asked for and is not there. -/
  | notFound (property : String)
  /-- A file that was read is not in the format that its extension names. -/
  | malformed (file : String)
  /-- A value cannot be converted; the key and the origin are those of the value. -/
  | wrongType (found expected key : String) (origin : Option String)
  /-- A value of a kind that the setting has no conversion for. -/
  | wrongShape
deriving Repr, DecidableEq

/-- Text of a fault of the settings. -/
def SettingsFault.text : SettingsFault → String
  | .message text => text
  | .notFound property => "configuration property " ++ Text.quoted property ++ " not found"
  | .malformed file => "malformed file " ++ file
  | .wrongType found expected key origin =>
    "invalid type: " ++ found ++ ", expected " ++ expected ++ " for key \x60" ++ key ++ "\x60" ++
      (match origin with
      | some place => " in " ++ place
      | none => "")
  | .wrongShape => "invalid type"

/-- A cause of failure. -/
inductive Error where
  | unavailable
  | invalidArgument (text : String)
  | sessionMissing (group topic : String) (partition : Int32)
  | ackTimeout (group topic : String) (partition : Int32) (offset : Int64)
  | requestTimeout
  | bufferOverflow
  | unknownTopic (topic : String)
  | cluster (text : String)
  /-- A component could not be started. -/
  | spawn (component : String) (source : Error)
  | settings (fault : SettingsFault)
  | invalidConfiguration (messages : List String)
  | unknownCluster (name : String)
  | internal (text : String)
  /-- A foreign error with the contexts laid over it, the outermost one last. -/
  | other (root : String) (context : List String)
deriving Repr, DecidableEq

namespace Error

/-- The layers of a foreign error, outermost first; there is always at least the root. -/
def layers (root : String) (context : List String) : List String := context.reverse ++ [root]

/-- Text of an error. A foreign error shows its outermost layer only. -/
def message : Error → String
  | .unavailable => "service is shutting down"
  | .invalidArgument text => "Invalid argument: " ++ text
  | .sessionMissing group topic partition =>
    "acks channel missing for group=" ++ group ++ " topic=" ++ topic ++ " partition=" ++
      toString partition.toInt
  | .ackTimeout group topic partition offset =>
    "ack timeout: group=" ++ group ++ " topic=" ++ topic ++ " partition=" ++
      toString partition.toInt ++ " offset=" ++ toString offset.toInt
  | .requestTimeout => "long polling timeout"
  | .bufferOverflow => "too many requests pending"
  | .unknownTopic topic => "Unknown topic: " ++ topic
  | .cluster text => "Cluster error: " ++ text
  | .spawn component source => "failed to spawn " ++ component ++ ": " ++ source.message
  | .settings fault => "Configuration error: " ++ fault.text
  | .invalidConfiguration messages =>
    "Invalid configuration: " ++ String.intercalate "; " messages
  | .unknownCluster name => "Unknown cluster: " ++ name
  | .internal text => "Internal error: " ++ text
  | .other root context => context.getLast?.getD root

/-- Only errors of the consumer's state transitions invite the same request again. -/
def isRetriable : Error → Bool
  | .requestTimeout => true
  | .bufferOverflow => true
  | _ => false

/-- Texts of the causes below an error, outermost first. A foreign error comes before its
own inner layers. -/
def chain : Error → List String
  | .spawn _ source => source.message :: source.chain
  | .settings fault => [fault.text]
  | .other root context => layers root context
  | _ => []

/-- A component that fails to start names itself and keeps the cause. -/
theorem message_spawn (component : String) (source : Error) :
    (spawn component source).message = "failed to spawn " ++ component ++ ": " ++ source.message :=
  rfl

/-- The outermost layer of a foreign error is its text. -/
theorem head_layers (root : String) (context : List String) :
    (layers root context).head? = some (other root context).message := by
  show (context.reverse ++ [root]).head? = some (context.getLast?.getD root)
  rw [List.head?_append, List.head?_reverse]
  cases context.getLast? <;> rfl

end Error

end ClusterGateway
