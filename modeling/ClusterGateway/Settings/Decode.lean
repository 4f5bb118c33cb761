import ClusterGateway.Error
import ClusterGateway.NameMap
import ClusterGateway.Number.Reading
import ClusterGateway.Settings.Value
import ClusterGateway.Text.Lowercase

/-!
# Decoding settings

A setting is read as what its field needs: numbers, truth values and texts are converted
into each other where that makes sense. A fault names the key of the value, seen from the
root, and the place where the value was written. A record is read from a table, or from a
list with its fields in order; what is not set keeps its preset value.
-/

namespace ClusterGateway

/-- A scalar as a fault describes it. -/
def Scalar.describe : Scalar → String
  | .absent => "unit value"
  | .flag value => "boolean \x60" ++ (if value then "true" else "false") ++ "\x60"
  | .whole value => "64-bit integer \x60" ++ toString value ++ "\x60"
  | .decimal value => "floating point \x60" ++ value.text ++ "\x60"
  | .text value => "string " ++ Text.quoted value

namespace Setting

/-- A setting as a fault describes it. -/
def describe : Setting → String
  | .scalar _ value => value.describe
  | .list _ _ => "sequence"
  | .table _ _ => "map"

/-- The fault of a setting that is not what its field needs. -/
def unfit (setting : Setting) (expected : String) : SettingsFault :=
  .wrongType setting.describe expected "" setting.origin

/-- A word of 64 bits from a text: a word for yes or no in any case, or digits. -/
def wordOfText? (text : String) : Option UInt64 :=
  let small := Text.lowercase text
  if small == "true" || small == "on" || small == "yes" then some 1
  else if small == "false" || small == "off" || small == "no" then some 0
  else (readWord? text).map UInt64.ofNat

/-- A setting as a word of 64 bits. -/
def toWord (setting : Setting) : Except SettingsFault UInt64 :=
  match setting with
  | .scalar _ (.whole value) =>
    if 0 ≤ value then .ok (UInt64.ofNat value.toNat)
    else .error (setting.unfit "an unsigned 64 bit or less integer")
  | .scalar _ (.decimal value) => .ok (UInt64.ofNat value.clampToWord)
  | .scalar _ (.flag value) => .ok (if value then 1 else 0)
  | .scalar _ (.text value) =>
    match wordOfText? value with
    | some word => .ok word
    | none => .error (setting.unfit "an integer")
  | _ => .error (setting.unfit "an integer")

/-- A truth value from a lowercase text. -/
def flagOfText? (small : String) : Option Bool :=
  if small == "1" || small == "true" || small == "on" || small == "yes" then some true
  else if small == "0" || small == "false" || small == "off" || small == "no" then some false
  else none

/-- A setting as a truth value; a number is true unless it is zero. -/
def toFlag (setting : Setting) : Except SettingsFault Bool :=
  match setting with
  | .scalar _ (.flag value) => .ok value
  | .scalar _ (.whole value) => .ok (value != 0)
  | .scalar _ (.decimal value) => .ok (!value.isZero)
  | .scalar origin (.text value) =>
    let small := Text.lowercase value
    match flagOfText? small with
    | some flag => .ok flag
    | none => .error ((Setting.scalar origin (.text small)).unfit "a boolean")
  | _ => .error (setting.unfit "a boolean")

/-- A setting as a text. -/
def toText (setting : Setting) : Except SettingsFault String :=
  match setting with
  | .scalar _ (.text value) => .ok value
  | .scalar _ (.flag value) => .ok (if value then "true" else "false")
  | .scalar _ (.whole value) => .ok (toString value)
  | .scalar _ (.decimal value) => .ok value.text
  | _ => .error (setting.unfit "a string")

end Setting

/-- The key of a value, seen from one table further out. -/
def SettingsFault.under (name : String) : SettingsFault → SettingsFault
  | .wrongType found expected key origin =>
    let key :=
      match key.toList with
      | [] => name
      | '[' :: _ => name ++ key
      | _ => name ++ "." ++ key
    .wrongType found expected key origin
  | fault => fault

/-- The key of a value, seen from one list further out. -/
def SettingsFault.atIndex (index : Nat) : SettingsFault → SettingsFault
  | .wrongType found expected key origin =>
    .wrongType found expected ("[" ++ toString index ++ "]" ++ key) origin
  | fault => fault

/-- A field of a record, and how its setting changes the record. -/
structure SettingField (α : Type) where
  name : String
  read : Setting → Except SettingsFault (α → α)

namespace Setting

/-- A field with a reader and a setter. -/
def field {α β : Type} (name : String) (read : Setting → Except SettingsFault β)
    (set : β → α → α) : SettingField α :=
  ⟨name, fun setting => (read setting).map set⟩

/-- The fields of a record in a table. -/
def readFields {α : Type} (entries : List (String × Setting)) :
    List (SettingField α) → α → Except SettingsFault α
  | [], record => .ok record
  | field :: fields, record =>
    match entries.lookup field.name with
    | none => readFields entries fields record
    | some setting =>
      match field.read setting with
      | .error fault => .error (fault.under field.name)
      | .ok change => readFields entries fields (change record)

/-- The fields of a record in a list, in order; elements beyond the last field are left
alone. -/
def readInOrder {α : Type} (index : Nat) :
    List (SettingField α) → List Setting → α → Except SettingsFault α
  | field :: fields, setting :: rest, record =>
    match field.read setting with
    | .error fault => .error (fault.atIndex index)
    | .ok change => readInOrder (index + 1) fields rest (change record)
  | _, _, record => .ok record

/-- A record that starts from preset values. -/
def toRecord {α : Type} (preset : α) (fields : List (SettingField α)) :
    Setting → Except SettingsFault α
  | .table _ entries => readFields entries fields preset
  | .list _ elements => readInOrder 0 fields elements preset
  | .scalar _ _ => .error .wrongShape

/-- The elements of a list from an index on. -/
def readElements {α : Type} (read : Setting → Except SettingsFault α) (index : Nat) :
    List Setting → Except SettingsFault (List α)
  | [] => .ok []
  | setting :: rest =>
    match read setting with
    | .error fault => .error (fault.atIndex index)
    | .ok value => (readElements read (index + 1) rest).map (value :: ·)

/-- A list of like values. -/
def toList {α : Type} (read : Setting → Except SettingsFault α) :
    Setting → Except SettingsFault (List α)
  | .list _ elements => readElements read 0 elements
  | _ => .error .wrongShape

/-- The entries of a table of like values. -/
def readEntries {α : Type} (read : Setting → Except SettingsFault α) :
    List (String × Setting) → Except SettingsFault (List (String × α))
  | [] => .ok []
  | (key, setting) :: rest =>
    match read setting with
    | .error fault => .error (fault.under key)
    | .ok value => (readEntries read rest).map ((key, value) :: ·)

/-- A table of like values. -/
def toMap {α : Type} (read : Setting → Except SettingsFault α) :
    Setting → Except SettingsFault (NameMap α)
  | .table _ entries => (readEntries read entries).map NameMap.ofList
  | _ => .error .wrongShape

/-- A record whose fields are not set keeps its preset values. -/
theorem readFields_nil {α : Type} (fields : List (SettingField α)) (record : α) :
    readFields [] fields record = .ok record := by
  induction fields with
  | nil => rfl
  | cons field fields ih => simpa [readFields] using ih

end Setting

end ClusterGateway
