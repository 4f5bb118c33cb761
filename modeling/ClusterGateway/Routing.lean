import ClusterGateway.Association

/-!
# Routing of acknowledgements

The table remembers, for each group, topic and partition, the session that the last
message for them was fetched from. An entry is never removed; a new session replaces the
old one, so the table grows only with the number of distinct keys.
-/

namespace ClusterGateway

/-- What a session belongs to. -/
structure RoutingKey where
  group : String
  topic : String
  partition : Int32
deriving Repr, DecidableEq

/-- Text of a key: its parts joined by slashes. -/
def RoutingKey.text (key : RoutingKey) : String :=
  key.group ++ "/" ++ key.topic ++ "/" ++ toString key.partition.toInt

/-- Sessions by key, each key once. -/
structure RoutingTable (σ : Type) where
  entries : List (RoutingKey × σ)
  distinct : (entries.map (·.1)).Nodup
deriving Repr

namespace RoutingTable

variable {σ : Type}

/-- The table without entries. -/
def empty : RoutingTable σ := ⟨[], List.Pairwise.nil⟩

/-- The session of a key. -/
def get? (table : RoutingTable σ) (key : RoutingKey) : Option σ := table.entries.lookup key

/-- Records the session of a key. -/
def insert (table : RoutingTable σ) (key : RoutingKey) (session : σ) : RoutingTable σ :=
  ⟨assign key session table.entries, nodup_keys_assign key session table.distinct⟩

/-- Number of keys with a session. -/
def size (table : RoutingTable σ) : Nat := table.entries.length

/-- The last session inserted for a key is found under it. -/
theorem get?_insert_self (table : RoutingTable σ) (key : RoutingKey) (session : σ) :
    (table.insert key session).get? key = some session :=
  lookup_assign_self key session table.entries

/-- Inserting under one key leaves every other key alone. -/
theorem get?_insert_of_ne (table : RoutingTable σ) {key other : RoutingKey} (session : σ)
    (differ : other ≠ key) : (table.insert key session).get? other = table.get? other :=
  lookup_assign_of_ne session table.entries differ

/-- A new key makes the table larger by one, a known one leaves its size alone. -/
theorem size_insert (table : RoutingTable σ) (key : RoutingKey) (session : σ) :
    (table.insert key session).size =
      if (table.get? key).isSome then table.size else table.size + 1 := by
  have keys := congrArg List.length (keys_assign key session table.entries)
  simp only [List.length_map] at keys
  simp only [insert, size, get?, keys]
  split <;> simp_all

end RoutingTable

end ClusterGateway
