import ClusterGateway.Json.Decode
import Mathlib.Data.List.Nodup
import Mathlib.Data.List.Pairwise

/-!
# Reading a record from an object

Where the fields of a record do not meddle with each other, neither the order of the members of
an object matters nor what it has beside the fields: a record is read field by field, each from
the member of its name. Main statement: `decodeRecord_eq_ok`.
-/

namespace ClusterGateway.Json

variable {α β γ : Type}

/-- What two fields change they may change in either order. -/
def RecordField.Commutes (first second : RecordField α) : Prop :=
  ∀ json other change move, first.read json = .ok change → second.read other = .ok move →
    ∀ record, change (move record) = move (change record)

/-- No two fields of a record have one name or meddle with each other. -/
structure Separate (fields : List (RecordField α)) : Prop where
  names : (fields.map (·.name)).Nodup
  commute : fields.Pairwise RecordField.Commutes

/-- What the member of a field does to a record, if there is one. -/
def readField (members : List (String × Json)) (record : α) (field : RecordField α) : α :=
  match members.lookup field.name with
  | none => record
  | some json =>
    match field.read json with
    | .ok change => change record
    | .error _ => record

/-- A field can be read from the members of an object: its own one can be, or it is not there and
may be left out. -/
def RecordField.Readable (members : List (String × Json)) (field : RecordField α) : Prop :=
  match members.lookup field.name with
  | none => field.optional = true
  | some json => ∃ change, field.read json = .ok change

/-- Fields that set what they have read commute if the settings do. -/
theorem RecordField.commutes_of_set {name other : String} {optional optional' : Bool}
    {element : Json → Except DecodeError β} {element' : Json → Except DecodeError γ}
    {set : β → α → α} {set' : γ → α → α}
    (apart : ∀ value value' record,
      set value (set' value' record) = set' value' (set value record)) :
    RecordField.Commutes ⟨name, optional, fun json => (element json).map set⟩
      ⟨other, optional', fun json => (element' json).map set'⟩ := by
  intro json json' change move changed moved record
  dsimp only at changed moved
  cases outcome : element json with
  | error fault => simp [outcome, Except.map] at changed
  | ok value =>
    cases outcome' : element' json' with
    | error fault => simp [outcome', Except.map] at moved
    | ok value' =>
      obtain rfl : set value = change := by simpa [outcome, Except.map] using changed
      obtain rfl : set' value' = move := by simpa [outcome', Except.map] using moved
      exact apart value value' record

/-- Fields that commute do so either way. -/
instance : Std.Symm (RecordField.Commutes (α := α)) where
  symm := fun _ _ apart json other change move changed moved record =>
    (apart other json move change moved changed record).symm

/-- Where every entry is sound, all of them are collected. -/
theorem collectEntries_ok (entries : List (String × β)) :
    collectEntries (entries.map fun entry => (entry.1, .ok entry.2)) = .ok entries := by
  have faultless : leastFault (entries.map fun entry =>
      (entry.1, (.ok entry.2 : Except DecodeError β))) = none := by
    induction entries with
    | nil => rfl
    | cons entry rest ih => exact ih
  have sound : soundEntries (entries.map fun entry =>
      (entry.1, (.ok entry.2 : Except DecodeError β))) = entries := by
    induction entries with
    | nil => rfl
    | cons entry rest ih => exact congrArg (entry :: ·) (ih faultless)
  rw [collectEntries, faultless, sound]

/-- What the members of an object do to the fields that they name, in the order of the members. -/
def changes (fields : List (RecordField α)) (members : List (String × Json)) :
    List (String × (α → α)) :=
  members.filterMap fun member =>
    (fields.find? (·.name == member.1)).bind fun field =>
      ((field.read member.2).toOption).map (member.1, ·)

variable {fields : List (RecordField α)} {members : List (String × Json)}

/-- Readable members have their effects. -/
theorem readMembers_eq
    (readable : ∀ member ∈ members, ∀ field, fields.find? (·.name == member.1) = some field →
      ∃ change, field.read member.2 = .ok change) :
    readMembers fields members =
      (changes fields members).map fun entry => (entry.1, .ok entry.2) := by
  induction members with
  | nil => rfl
  | cons member rest ih =>
    obtain ⟨key, value⟩ := member
    have others := ih fun member there => readable member (List.mem_cons_of_mem _ there)
    rw [readMembers, changes, List.filterMap_cons]
    cases found : fields.find? (·.name == key) with
    | none => exact others
    | some field =>
      obtain ⟨change, outcome⟩ := readable (key, value) List.mem_cons_self field found
      have outcome : field.read value = .ok change := outcome
      simp only [outcome, others, Option.bind_some, Except.toOption, Option.map_some, List.map_cons]
      rfl

/-- What the fields of a record do to it, in the order of the fields. -/
def effects (fields : List (RecordField α)) (members : List (String × Json)) :
    List (String × (α → α)) :=
  fields.filterMap fun field =>
    (members.lookup field.name).bind fun json => ((field.read json).toOption).map (field.name, ·)

/-- Keys that are picked from a list stand in its order. -/
theorem keys_filterMap (list : List β) {pick : β → Option (String × γ)} {name : β → String}
    (named : ∀ item entry, pick item = some entry → entry.1 = name item) :
    ((list.filterMap pick).map (·.1)).Sublist (list.map name) := by
  induction list with
  | nil => exact .slnil
  | cons item rest ih =>
    rw [List.filterMap_cons]
    cases picked : pick item with
    | none => exact ih.cons _
    | some entry =>
      rw [List.map_cons, List.map_cons, named item entry picked]
      exact ih.cons_cons _

/-- A read that has an outcome is one without a fault. -/
theorem toOption_eq_some {read : Except DecodeError β} {value : β} :
    read.toOption = some value ↔ read = .ok value := by
  cases read <;> simp [Except.toOption]

/-- A field is found by its name. -/
theorem Separate.find?_iff (separate : Separate fields) {key : String} {field : RecordField α} :
    fields.find? (·.name == key) = some field ↔ field ∈ fields ∧ field.name = key := by
  constructor
  · intro found
    exact ⟨List.mem_of_find?_eq_some found, by simpa using List.find?_some found⟩
  · rintro ⟨there, rfl⟩
    cases found : fields.find? (·.name == field.name) with
    | none => simpa using List.find?_eq_none.mp found field there
    | some other =>
      have named : other.name = field.name := by simpa using List.find?_some found
      exact congrArg some (List.inj_on_of_nodup_map separate.names
        (List.mem_of_find?_eq_some found) there named)

/-- Members and fields have the same effects on a record. -/
theorem Separate.changes_perm (separate : Separate fields)
    (distinct : (members.map (·.1)).Nodup) :
    (changes fields members).Perm (effects fields members) := by
  have here : ((changes fields members).map (·.1)).Nodup := by
    refine distinct.sublist (keys_filterMap members fun member entry picked => ?_)
    obtain ⟨field, -, read⟩ := Option.bind_eq_some_iff.mp picked
    obtain ⟨change, -, rfl⟩ := Option.map_eq_some_iff.mp read
    rfl
  have there : ((effects fields members).map (·.1)).Nodup := by
    refine separate.names.sublist (keys_filterMap fields fun field entry picked => ?_)
    obtain ⟨json, -, read⟩ := Option.bind_eq_some_iff.mp picked
    obtain ⟨change, -, rfl⟩ := Option.map_eq_some_iff.mp read
    rfl
  refine (List.perm_ext_iff_of_nodup here.of_map there.of_map).mpr fun entry => ?_
  obtain ⟨key, change⟩ := entry
  simp only [changes, effects, List.mem_filterMap, Option.bind_eq_some_iff, Option.map_eq_some_iff,
    toOption_eq_some, Prod.mk.injEq, separate.find?_iff]
  constructor
  · rintro ⟨⟨name, json⟩, member, field, ⟨inside, rfl⟩, move, read, rfl, rfl⟩
    exact ⟨field, inside, json, lookup_of_mem distinct member, move, read, rfl, rfl⟩
  · rintro ⟨field, inside, json, found, move, read, rfl, rfl⟩
    obtain ⟨early, late, rfl, -⟩ := List.lookup_eq_some_iff.mp found
    exact ⟨(field.name, json), List.mem_append_right _ List.mem_cons_self, field,
      ⟨inside, rfl⟩, move, read, rfl, rfl⟩

/-- The effects of the fields are those of reading the record field by field. -/
theorem foldl_effects (fields : List (RecordField α)) (members : List (String × Json))
    (record : α) : (effects fields members).foldl (fun record change => change.2 record) record =
      fields.foldl (readField members) record := by
  rw [effects, List.foldl_filterMap]
  congr 1
  funext record field
  rw [readField]
  cases members.lookup field.name with
  | none => rfl
  | some json =>
    cases outcome : field.read json with
    | error fault => simp [outcome, Except.toOption]
    | ok change => simp [outcome, Except.toOption]

/-- Effects of separate fields may come in any order. -/
theorem Separate.swap (separate : Separate fields) {first second : String × (α → α)}
    (one : first ∈ effects fields members) (two : second ∈ effects fields members) (record : α) :
    second.2 (first.2 record) = first.2 (second.2 record) := by
  simp only [effects, List.mem_filterMap, Option.bind_eq_some_iff, Option.map_eq_some_iff,
    toOption_eq_some] at one two
  obtain ⟨field, inside, json, found, change, read, rfl⟩ := one
  obtain ⟨other, there, json', found', move, read', rfl⟩ := two
  by_cases same : field = other
  · subst same
    obtain rfl := Option.some.inj (found.symm.trans found')
    obtain rfl := Except.ok.inj (read.symm.trans read')
    rfl
  · have apart := separate.commute.forall inside there same
    exact (apart json json' change move read read' record).symm

/-- A record is read field by field, in whatever order the members of the object are and whatever
else there is among them, if all that its fields need is there and can be read. -/
theorem decodeRecord_eq_ok (preset : α) (separate : Separate fields)
    (distinct : (members.map (·.1)).Nodup)
    (readable : ∀ field ∈ fields, field.Readable members) :
    decodeRecord preset fields (.obj members) = .ok (fields.foldl (readField members) preset) := by
  have sound : readMembers fields members =
      (changes fields members).map fun entry => (entry.1, .ok entry.2) := by
    refine readMembers_eq fun member there field found => ?_
    obtain ⟨inside, named⟩ := separate.find?_iff.mp found
    have reads := readable field inside
    rw [RecordField.Readable, named, lookup_of_mem distinct there] at reads
    exact reads
  have whole : missingField? fields members = none := by
    rw [missingField?, Option.map_eq_none_iff, List.find?_eq_none]
    intro field inside
    have reads := readable field inside
    rw [RecordField.Readable] at reads
    cases found : members.lookup field.name with
    | none =>
      rw [found] at reads
      simp [reads]
    | some json =>
      obtain ⟨early, late, rfl, -⟩ := List.lookup_eq_some_iff.mp found
      simp
  have any : (changes fields members).foldl (fun record change => change.2 record) preset =
      (effects fields members).foldl (fun record change => change.2 record) preset := by
    have perm := separate.changes_perm distinct
    refine perm.foldl_eq' (fun first one second two record => ?_) preset
    exact separate.swap (perm.mem_iff.mp one) (perm.mem_iff.mp two) record
  rw [foldl_effects] at any
  rw [← any, decodeRecord, sound, collectEntries_ok]
  simp only [bind, Except.bind, whole]

end ClusterGateway.Json
