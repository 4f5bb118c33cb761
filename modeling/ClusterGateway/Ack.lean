import ClusterGateway.Error

/-!
# Acknowledgements

What a consume request acknowledges. Group and topic are those of the request. A checked
acknowledgement names a partition and an offset that are not negative; the constructor
itself does not check.
-/

namespace ClusterGateway

/-- What to acknowledge: nothing, the message being fetched, or a message fetched before. -/
inductive Ack where
  | none
  | auto
  | explicit (partition : Int32) (offset : Int64)
deriving Repr, DecidableEq

namespace Ack

/-- An explicit acknowledgement; the partition is checked before the offset. -/
def checked (partition : Int32) (offset : Int64) : Except Error Ack :=
  if partition < 0 then
    .error (.invalidArgument ("bad partition: " ++ toString partition.toInt))
  else if offset < 0 then
    .error (.invalidArgument ("bad offset: " ++ toString offset.toInt))
  else .ok (.explicit partition offset)

/-- An acknowledgement from request parameters. The refusal to acknowledge wins over all
else; without a partition and an offset the fetched message is meant; one without the
other is rejected. -/
def ofParameters (refuse : Bool) (partition : Option Int32) (offset : Option Int64) :
    Except Error Ack :=
  if refuse then .ok .none
  else
    match partition, offset with
    | .none, .none => .ok .auto
    | .some partition, .some offset => checked partition offset
    | .some _, .none => .error (.invalidArgument "ack partition given without ack offset")
    | .none, .some _ => .error (.invalidArgument "ack offset given without ack partition")

/-- The partition that an explicit acknowledgement names. -/
def partition? : Ack → Option Int32
  | .explicit partition _ => some partition
  | _ => Option.none

/-- The offset that an explicit acknowledgement names. -/
def offset? : Ack → Option Int64
  | .explicit _ offset => some offset
  | _ => Option.none

/-- Text of an acknowledgement. -/
def text : Ack → String
  | .none => "no-ack"
  | .auto => "auto-ack"
  | .explicit partition offset =>
    "ack(" ++ toString partition.toInt ++ ":" ++ toString offset.toInt ++ ")"

end Ack

end ClusterGateway
