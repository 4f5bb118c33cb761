import ClusterGateway.Association

/-!
# Maps from names

A map holds one value for each of its names, in the order in which the names were first
set. That no name comes twice is part of the map, so making a map of the entries of a map
gives it back.
-/

namespace ClusterGateway

/-- Values by name, each name once. -/
structure NameMap (α : Type) where
  entries : List (String × α)
  distinct : (entries.map (·.1)).Nodup
deriving Repr, DecidableEq

namespace NameMap

variable {α β : Type}

/-- The map without names. -/
def empty : NameMap α := ⟨[], List.Pairwise.nil⟩

/-- The map with the value of a name set. -/
def insert (map : NameMap α) (name : String) (value : α) : NameMap α :=
  ⟨assign name value map.entries, nodup_keys_assign name value map.distinct⟩

/-- The map of one name. -/
def singleton (name : String) (value : α) : NameMap α := empty.insert name value

/-- The map of a list of entries; of several for one name the last one counts. -/
def ofList (entries : List (String × α)) : NameMap α :=
  entries.foldl (fun map entry => map.insert entry.1 entry.2) empty

/-- The value of a name. -/
def get? (map : NameMap α) (name : String) : Option α := map.entries.lookup name

/-- The names of a map. -/
def names (map : NameMap α) : List String := map.entries.map (·.1)

/-- The map with every value changed. -/
def mapValues (change : α → β) (map : NameMap α) : NameMap β :=
  ⟨map.entries.map fun entry => (entry.1, change entry.2), by
    simpa [Function.comp_def] using map.distinct⟩

/-- The value that was set for a name is found under it. -/
theorem get?_insert_self (map : NameMap α) (name : String) (value : α) :
    (map.insert name value).get? name = some value :=
  lookup_assign_self name value map.entries

/-- Setting the value of one name leaves every other name alone. -/
theorem get?_insert_of_ne (map : NameMap α) {name other : String} (value : α)
    (differ : other ≠ name) : (map.insert name value).get? other = map.get? other :=
  lookup_assign_of_ne value map.entries differ

/-- Entries with new and distinct names are appended. -/
theorem entries_foldl_insert (entries : List (String × α)) (start : NameMap α)
    (distinct : ((start.entries ++ entries).map (·.1)).Nodup) :
    (entries.foldl (fun map entry => map.insert entry.1 entry.2) start).entries =
      start.entries ++ entries := by
  induction entries generalizing start with
  | nil => simp
  | cons entry rest ih =>
    obtain ⟨name, value⟩ := entry
    have absent : name ∉ start.entries.map (·.1) := by
      intro there
      rw [List.map_append, List.map_cons] at distinct
      exact (List.nodup_append.mp distinct).2.2 name there name List.mem_cons_self rfl
    have grown : (start.insert name value).entries = start.entries ++ [(name, value)] :=
      assign_of_not_mem value absent
    rw [List.foldl_cons, ih (start.insert name value) (by simpa [grown] using distinct), grown]
    simp

/-- The map of the entries of a map is that map. -/
theorem ofList_entries (map : NameMap α) : ofList map.entries = map := by
  have same := entries_foldl_insert map.entries empty (by simpa [empty] using map.distinct)
  cases map with
  | mk entries distinct =>
    rw [mk.injEq]
    simpa [ofList, empty] using same

end NameMap

end ClusterGateway
