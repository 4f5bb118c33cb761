import ClusterGateway.Json.Value
import ClusterGateway.NameMap

/-!
# Decoding JSON

A decoder turns a JSON value into a value of the library or names the class of the
fault. A record is read from an object, whose unknown members are ignored, or from an
array of its fields in order, which may end early where the remaining fields can be left
out. Of several faulty members of an object the one with the least key is reported, and
any of them before a missing field.
-/

namespace ClusterGateway.Json

/-- Why a JSON value does not decode. -/
inductive DecodeError where
  | missingField (name : String)
  | invalidType
  | invalidValue
  | invalidLength
deriving Repr, DecidableEq

/-- The class of a fault, as it opens its description. -/
def DecodeError.message : DecodeError → String
  | .missingField name => "missing field \x60" ++ name ++ "\x60"
  | .invalidType => "invalid type"
  | .invalidValue => "invalid value"
  | .invalidLength => "invalid length"

/-- A text. -/
def decodeText : Json → Except DecodeError String
  | .str value => .ok value
  | _ => .error .invalidType

/-- A truth value. -/
def decodeBool : Json → Except DecodeError Bool
  | .bool value => .ok value
  | _ => .error .invalidType

/-- A whole number within closed bounds. -/
def decodeWithin (low high : Int) : Json → Except DecodeError Int
  | .int value => if low ≤ value ∧ value ≤ high then .ok value else .error .invalidValue
  | _ => .error .invalidType

/-- A signed number of 32 bits. -/
def decodeInt32 (json : Json) : Except DecodeError Int32 :=
  (decodeWithin (-Int.ofNat (twoTo 31)) (Int.ofNat (twoTo 31) - 1) json).map Int32.ofInt

/-- A signed number of 64 bits. -/
def decodeInt64 (json : Json) : Except DecodeError Int64 :=
  (decodeWithin (-Int.ofNat (twoTo 63)) (Int.ofNat (twoTo 63) - 1) json).map Int64.ofInt

/-- An unsigned number of 64 bits. -/
def decodeUInt64 (json : Json) : Except DecodeError UInt64 :=
  (decodeWithin 0 (Int.ofNat (twoTo 64) - 1) json).map fun value => UInt64.ofNat value.toNat

/-- A list of like values; the first fault in order is reported. -/
def decodeList {α : Type} (element : Json → Except DecodeError α) :
    Json → Except DecodeError (List α)
  | .arr elements => elements.mapM element
  | _ => .error .invalidType

/-- A value that null leaves out. -/
def decodeOption {α : Type} (element : Json → Except DecodeError α) :
    Json → Except DecodeError (Option α)
  | .null => .ok none
  | json => (element json).map some

/-- The fault with the least key, the first one where keys are equal. -/
def leastFault {α : Type} :
    List (String × Except DecodeError α) → Option (String × DecodeError)
  | [] => none
  | (key, .error fault) :: rest =>
    match leastFault rest with
    | some (other, later) => if other < key then some (other, later) else some (key, fault)
    | none => some (key, fault)
  | (_, .ok _) :: rest => leastFault rest

/-- The values of entries that have no fault. -/
def soundEntries {α : Type} :
    List (String × Except DecodeError α) → List (String × α)
  | [] => []
  | (key, .ok value) :: rest => (key, value) :: soundEntries rest
  | (_, .error _) :: rest => soundEntries rest

/-- All entries, or the fault with the least key. -/
def collectEntries {α : Type} (entries : List (String × Except DecodeError α)) :
    Except DecodeError (List (String × α)) :=
  match leastFault entries with
  | some (_, fault) => .error fault
  | none => .ok (soundEntries entries)

/-- A map from names, in the order of the document. -/
def decodeMap {α : Type} (element : Json → Except DecodeError α) :
    Json → Except DecodeError (NameMap α)
  | .obj members =>
    (collectEntries (members.map fun (key, value) => (key, element value))).map NameMap.ofList
  | _ => .error .invalidType

/-- A field of a record: whether it may be left out, and how its value changes the record. -/
structure RecordField (α : Type) where
  name : String
  optional : Bool
  read : Json → Except DecodeError (α → α)

/-- A field that must be there. -/
def requiredField {α β : Type} (name : String) (element : Json → Except DecodeError β)
    (set : β → α → α) : RecordField α :=
  ⟨name, false, fun json => (element json).map set⟩

/-- A field that keeps its preset value when it is left out. -/
def presetField {α β : Type} (name : String) (element : Json → Except DecodeError β)
    (set : β → α → α) : RecordField α :=
  ⟨name, true, fun json => (element json).map set⟩

/-- What the members of an object do to the fields they name. -/
def readMembers {α : Type} (fields : List (RecordField α)) :
    List (String × Json) → List (String × Except DecodeError (α → α))
  | [] => []
  | (key, value) :: rest =>
    match fields.find? (·.name == key) with
    | some field => (key, field.read value) :: readMembers fields rest
    | none => readMembers fields rest

/-- What the elements of an array do to the fields at their positions. -/
def readElements {α : Type} : List (RecordField α) → List Json → α → Except DecodeError α
  | [], [], record => .ok record
  | [], _ :: _, _ => .error .invalidLength
  | field :: fields, [], record =>
    if field.optional then readElements fields [] record else .error .invalidLength
  | field :: fields, element :: elements, record => do
    let change ← field.read element
    readElements fields elements (change record)

/-- The first field that must be there and is not among the keys. -/
def missingField? {α : Type} (fields : List (RecordField α)) (members : List (String × Json)) :
    Option String :=
  (fields.find? fun field =>
    !field.optional && !members.any fun (key, _) => key == field.name).map (·.name)

/-- A record that starts from preset values. -/
def decodeRecord {α : Type} (preset : α) (fields : List (RecordField α)) : Json → Except DecodeError α
  | .obj members => do
    let changes ← collectEntries (readMembers fields members)
    match missingField? fields members with
    | some name => .error (.missingField name)
    | none => .ok (changes.foldl (fun record change => change.2 record) preset)
  | .arr elements => readElements fields elements preset
  | _ => .error .invalidType

end ClusterGateway.Json
