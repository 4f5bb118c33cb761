import ClusterGateway.Config.Wire
import ClusterGateway.Proofs.Json.Records
import ClusterGateway.Topic
import Mathlib.Data.List.Basic

/-!
# Encodings that lose fields and get others

An encoding may lose fields of its records, at any depth, and its records may get members that
nobody knows. `Sheds` says what it then is, for encodings of some `Shape`; whoever reads a record
from what is left of its encoding finds each field in `Leaves`.
-/

namespace ClusterGateway.Json

/-- A whole number is read as it is written if it is within the bounds. -/
theorem decodeWithin_ok {low high value : Int} (above : low ≤ value) (below : value ≤ high) :
    decodeWithin low high (.int value) = .ok value :=
  if_pos ⟨above, below⟩

/-- A signed word is read back. -/
theorem decodeInt32_ofInt32 (value : Int32) : decodeInt32 (ofInt32 value) = .ok value := by
  have above : -Int.ofNat (twoTo 31) ≤ value.toInt := Int32.le_toInt value
  have below : value.toInt ≤ Int.ofNat (twoTo 31) - 1 := Int.le_sub_one_of_lt (Int32.toInt_lt value)
  rw [decodeInt32, ofInt32, decodeWithin_ok above below]
  exact congrArg Except.ok (Int32.ofInt_toInt value)

/-- A signed double word is read back. -/
theorem decodeInt64_ofInt64 (value : Int64) : decodeInt64 (ofInt64 value) = .ok value := by
  have above : -Int.ofNat (twoTo 63) ≤ value.toInt := Int64.le_toInt value
  have below : value.toInt ≤ Int.ofNat (twoTo 63) - 1 := Int.le_sub_one_of_lt (Int64.toInt_lt value)
  rw [decodeInt64, ofInt64, decodeWithin_ok above below]
  exact congrArg Except.ok (Int64.ofInt_toInt value)

/-- A word is read back. -/
theorem decodeUInt64_ofUInt64 (value : UInt64) : decodeUInt64 (ofUInt64 value) = .ok value := by
  have above : 0 ≤ Int.ofNat value.toNat := Int.natCast_nonneg _
  have below : Int.ofNat value.toNat ≤ Int.ofNat (twoTo 64) - 1 :=
    Int.le_sub_one_of_lt (Int.ofNat_lt.mpr value.toNat_lt)
  rw [decodeUInt64, ofUInt64, decodeWithin_ok above below]
  exact congrArg Except.ok (UInt64.ofNat_toNat)

variable {α β : Type} {element : Json → Except DecodeError α}

/-- A text is read back. -/
theorem decodeText_str (value : String) : decodeText (.str value) = .ok value := rfl

/-- A truth value is read back. -/
theorem decodeBool_bool (value : Bool) : decodeBool (.bool value) = .ok value := rfl

/-- A list is read back if its elements are. -/
theorem decodeList_map {encode : α → Json} (reads : ∀ value, element (encode value) = .ok value)
    (values : List α) : decodeList element (.arr (values.map encode)) = .ok values := by
  rw [decodeList]
  induction values with
  | nil => rfl
  | cons value rest ih =>
    rw [List.map_cons, List.mapM_cons, reads, ih]
    rfl

/-- A map is read from members that are read as its entries. -/
theorem decodeMap_ok {map : NameMap α} {members : List (String × Json)}
    (reads : (members.map fun member => (member.1, element member.2)) =
      map.entries.map fun entry => (entry.1, .ok entry.2)) :
    decodeMap element (.obj members) = .ok map := by
  rw [decodeMap]
  show (collectEntries (members.map fun member => (member.1, element member.2))).map _ = _
  rw [reads, collectEntries_ok]
  exact congrArg Except.ok map.ofList_entries

/-- What a field does to a record that is read from the members of an object. -/
inductive Reads (members : List (String × Json)) (field : RecordField α) : (α → α) → Prop
  | lost (absent : members.lookup field.name = none) (optional : field.optional = true) :
      Reads members field id
  | kept {json : Json} {change : α → α} (there : members.lookup field.name = some json)
      (read : field.read json = .ok change) : Reads members field change

/-- A record whose fields do this and that is the one that they make together. -/
theorem decodeRecord_of_reads {fields : List (RecordField α)} {members : List (String × Json)}
    {changes : List (α → α)} (preset : α) (separate : Separate fields)
    (distinct : (members.map (·.1)).Nodup) (reads : List.Forall₂ (Reads members) fields changes) :
    decodeRecord preset fields (.obj members) =
      .ok (changes.foldl (fun record change => change record) preset) := by
  have readable : ∀ field ∈ fields, field.Readable members := by
    clear separate
    induction reads with
    | nil => simp
    | cons outcome _ ih =>
      refine List.forall_mem_cons.mpr ⟨?_, ih⟩
      rw [RecordField.Readable]
      cases outcome with
      | lost absent optional => simp [absent, optional]
      | kept there read => simp [there, read]
  rw [decodeRecord_eq_ok preset separate distinct readable]
  congr 1
  clear readable separate
  induction reads generalizing preset with
  | nil => rfl
  | cons outcome _ ih =>
    rw [List.foldl_cons, List.foldl_cons, ih]
    congr 1
    rw [readField]
    cases outcome with
    | lost absent _ => simp [absent]
    | kept there read => simp [there, read]

variable {members : List (String × Json)} {name : String} {value : α} {set : α → β → β}
  {json : Json}

/-- A field that has to be there is read from its member. -/
theorem Reads.required (there : members.lookup name = some json) (read : element json = .ok value) :
    Reads members (requiredField name element set) (set value) :=
  .kept there (by simp [requiredField, read, Except.map])

/-- A field with a preset value is read from its member if that has not been left out. -/
theorem Reads.preset {gone : Bool}
    (there : members.lookup name = if gone then none else some json)
    (read : gone = false → element json = .ok value) :
    Reads members (presetField name element set) (if gone then id else set value) := by
  cases gone with
  | true => exact .lost there rfl
  | false => exact .kept there (by simp [presetField, read rfl, Except.map])

/-- What an encoding is made of: of values that are kept as they are, of records by the names of
their fields, of maps. -/
inductive Shape where
  | leaf
  | record (fields : List (String × Shape))
  | map (entry : Shape)

/-- What an encoding of some shape is once fields have been removed from its records, at the paths
that are told, and members of other names have been added to them. Within a record the members
may have got into any order. -/
inductive Sheds : Shape → (List String → Bool) → Json → Json → Prop
  | leaf {removed : List String → Bool} {json : Json} : Sheds .leaf removed json json
  | record {fields : List (String × Shape)} {removed : List String → Bool}
      {members rest : List (String × Json)} (kept : String → Json)
      (distinct : (rest.map (·.1)).Nodup)
      (fate : ∀ name shape, fields.lookup name = some shape → rest.lookup name =
        if removed [name] then none else (members.lookup name).map fun _ => kept name)
      (inner : ∀ name shape json, fields.lookup name = some shape → removed [name] = false →
        members.lookup name = some json →
          Sheds shape (fun path => removed (name :: path)) json (kept name)) :
      Sheds (.record fields) removed (.obj members) (.obj rest)
  | map {entry : Shape} {removed : List String → Bool} {members : List (String × Json)}
      (kept : String → Json)
      (inner : ∀ member ∈ members,
        Sheds entry (fun path => removed (member.1 :: path)) member.2 (kept member.1)) :
      Sheds (.map entry) removed (.obj members)
        (.obj (members.map fun member => (member.1, kept member.1)))

/-- A field is left with what its member has shed, unless it is removed. -/
def Leaves (removed : List String → Bool) (rest : List (String × Json)) (name : String)
    (shape : Shape) (json : Json) : Prop :=
  ∃ left, (rest.lookup name = if removed [name] then none else some left) ∧
    (removed [name] = false → Sheds shape (fun path => removed (name :: path)) json left)

variable {shape : Shape} {removed : List String → Bool} {rest : List (String × Json)}

/-- A field that is removed and not there. -/
theorem Leaves.lost (gone : removed [name] = true) (absent : rest.lookup name = none) :
    Leaves removed rest name shape json :=
  ⟨.null, by rw [gone, absent]; rfl, fun stays => nomatch gone.symm.trans stays⟩

/-- A field that is not removed and has shed something. -/
theorem Leaves.kept {left : Json} (stays : removed [name] = false)
    (there : rest.lookup name = some left)
    (sheds : Sheds shape (fun path => removed (name :: path)) json left) :
    Leaves removed rest name shape json :=
  ⟨left, by rw [stays, there]; rfl, fun _ => sheds⟩

/-- Each field of a record is left with what its member has shed, unless it is removed. -/
theorem Sheds.exists_leaves {fields : List (String × Shape)} {left : Json}
    (sheds : Sheds (.record fields) removed (.obj members) left) :
    ∃ rest, left = .obj rest ∧ (rest.map (·.1)).Nodup ∧
      ∀ {name shape json}, fields.lookup name = some shape → members.lookup name = some json →
        Leaves removed rest name shape json := by
  cases sheds with
  | @record _ _ _ rest kept distinct fate inner =>
    refine ⟨rest, rfl, distinct, fun {name shape json} inside there => ⟨kept name, ?_, ?_⟩⟩
    · rw [fate name shape inside, there]
      rfl
    · intro stays
      exact inner name shape json inside stays there

/-- A field with a preset value is read from what is left of its member, if anything is. -/
theorem Leaves.reads (leaves : Leaves removed rest name shape json)
    (read : ∀ left, Sheds shape (fun path => removed (name :: path)) json left →
      element left = .ok value) :
    Reads rest (presetField name element set) (if removed [name] then id else set value) := by
  obtain ⟨left, there, sheds⟩ := leaves
  exact .preset there fun stays => read left (sheds stays)

/-- A field whose value is kept as it is, is read as it was. -/
theorem Leaves.reads_leaf (leaves : Leaves removed rest name .leaf json)
    (read : element json = .ok value) :
    Reads rest (presetField name element set) (if removed [name] then id else set value) := by
  refine leaves.reads fun left sheds => ?_
  cases sheds
  exact read

/-- A record has become what each of its fields is left with. -/
theorem Sheds.of_leaves {fields : List (String × Shape)} (distinct : (rest.map (·.1)).Nodup)
    (absent : ∀ field ∈ fields, members.lookup field.1 = none → rest.lookup field.1 = none)
    (leaves : fields.Forall fun field => ∀ json, members.lookup field.1 = some json →
      Leaves removed rest field.1 field.2 json) :
    Sheds (.record fields) removed (.obj members) (.obj rest) := by
  have leaves := List.forall_iff_forall_mem.mp leaves
  have inside {name : String} {shape : Shape} (found : fields.lookup name = some shape) :
      (name, shape) ∈ fields := by
    obtain ⟨early, late, rfl, -⟩ := List.lookup_eq_some_iff.mp found
    exact List.mem_append_right _ List.mem_cons_self
  refine .record (fun name => (rest.lookup name).getD .null) distinct ?fate ?inner
  case fate =>
    intro name shape found
    cases there : members.lookup name with
    | none =>
      rw [absent (name, shape) (inside found) there]
      simp
    | some json =>
      obtain ⟨left, kept, -⟩ := leaves (name, shape) (inside found) json there
      rw [kept]
      cases removed [name] <;> rfl
  case inner =>
    intro name shape json found stays there
    obtain ⟨left, kept, sheds⟩ := leaves (name, shape) (inside found) json there
    rw [kept, stays]
    exact sheds stays

/-- A record is what it has become if nothing is removed from it or added to it. -/
theorem Sheds.whole {fields : List (String × Shape)} (distinct : (members.map (·.1)).Nodup)
    (inner : fields.Forall fun field => ∀ json, members.lookup field.1 = some json →
      Sheds field.2 (fun _ => false) json json) :
    Sheds (.record fields) (fun _ => false) (.obj members) (.obj members) := by
  refine .of_leaves distinct (fun _ _ absent => absent) (inner.imp fun field whole json there => ?_)
  exact .kept rfl there (whole json there)

/-- A record of plain values is what it has become if nothing is removed from it or added to it. -/
theorem Sheds.whole_leaves {fields : List (String × Shape)} (distinct : (members.map (·.1)).Nodup)
    (plain : fields.Forall fun field => field.2 = .leaf) :
    Sheds (.record fields) (fun _ => false) (.obj members) (.obj members) := by
  refine .whole distinct (plain.imp fun field leaf json _ => ?_)
  rw [leaf]
  exact .leaf

/-- A map is what it has become if nothing is removed from its values or added to them. -/
theorem Sheds.whole_map {entry : Shape} (distinct : (members.map (·.1)).Nodup)
    (inner : ∀ member ∈ members, Sheds entry (fun _ => false) member.2 member.2) :
    Sheds (.map entry) (fun _ => false) (.obj members) (.obj members) := by
  have found : ∀ member ∈ members, (members.lookup member.1).getD .null = member.2 := by
    intro member there
    rw [lookup_of_mem distinct there]
    rfl
  have same : members.map (fun member => (member.1, (members.lookup member.1).getD .null)) =
      members := by
    refine (List.map_congr_left fun member there => ?_).trans members.map_id
    rw [found member there]
    rfl
  have sheds : Sheds (.map entry) (fun _ => false) (.obj members) (.obj (members.map fun member =>
      (member.1, (members.lookup member.1).getD .null))) := by
    refine .map (fun name => (members.lookup name).getD .null) fun member there => ?_
    rw [found member there]
    exact inner member there
  rwa [same] at sheds

end ClusterGateway.Json
