import ClusterGateway.Association
import ClusterGateway.Json.Value
import ClusterGateway.Number.Reading
import ClusterGateway.Toml.Value

/-!
# Settings

The settings are a tree. A leaf or a list remembers where it was written; the tables that
hold them are shared by all who wrote into them and have no place of their own, except
inside a list. A whole number beyond signed words of 64 bits is kept as a fraction.
-/

namespace ClusterGateway

/-- A single value. -/
inductive Scalar where
  | absent
  | flag (value : Bool)
  | whole (value : Int)
  | decimal (value : Binary64)
  | text (value : String)
deriving Repr, DecidableEq

/-- A tree of settings; the origin of a part is where it was written. -/
inductive Setting where
  | scalar (origin : Option String) (value : Scalar)
  | list (origin : Option String) (elements : List Setting)
  | table (origin : Option String) (entries : List (String × Setting))
deriving Repr, Inhabited

namespace Setting

/-- The table without entries and without origin. -/
def emptyTable : Setting := .table none []

/-- A value without origin: one that nobody wrote. -/
def unwritten (value : Scalar) : Setting := .scalar none value

/-- Where a setting was written. -/
def origin : Setting → Option String
  | .scalar origin _ => origin
  | .list origin _ => origin
  | .table origin _ => origin

/-- The entries of a table; anything else has none. -/
def entries : Setting → List (String × Setting)
  | .table _ entries => entries
  | _ => []

/-- The elements of a list; anything else has none. -/
def elements : Setting → List Setting
  | .list _ elements => elements
  | _ => []

/-- The entry of a key, or an empty table where there is none. -/
def entry (setting : Setting) (key : String) : Setting :=
  (setting.entries.lookup key).getD emptyTable

/-- Sets the entry of a key. What is no table becomes one first. -/
def put (setting : Setting) (key : String) (value : Setting) : Setting :=
  match setting with
  | .table origin entries => .table origin (assign key value entries)
  | _ => .table none [(key, value)]

/-- A whole number, as a fraction if it is too large. -/
def ofInt (value : Int) : Scalar :=
  if isLong value then .whole value else .decimal (.ofInt value)

mutual

/-- A JSON value that was written somewhere. -/
def ofJson (origin : Option String) : Json → Setting
  | .null => .scalar origin .absent
  | .bool value => .scalar origin (.flag value)
  | .int value => .scalar origin (ofInt value)
  | .float value => .scalar origin (.decimal value)
  | .str value => .scalar origin (.text value)
  | .arr elements => .list origin (ofJsonElements origin elements)
  | .obj members => .table origin (ofJsonMembers origin members)

/-- The elements of a JSON array. -/
def ofJsonElements (origin : Option String) : List Json → List Setting
  | [] => []
  | element :: rest => ofJson origin element :: ofJsonElements origin rest

/-- The members of a JSON object. -/
def ofJsonMembers (origin : Option String) : List (String × Json) → List (String × Setting)
  | [] => []
  | (key, value) :: rest => (key, ofJson origin value) :: ofJsonMembers origin rest

end

mutual

/-- A TOML value that was written somewhere. -/
def ofToml (origin : Option String) : Toml → Setting
  | .flag value => .scalar origin (.flag value)
  | .whole value => .scalar origin (.whole value)
  | .decimal value => .scalar origin (.decimal value)
  | .text value => .scalar origin (.text value)
  | .list elements => .list origin (ofTomlElements origin elements)
  | .table entries => .table origin (ofTomlEntries origin entries)

/-- The elements of a TOML list. -/
def ofTomlElements (origin : Option String) : List Toml → List Setting
  | [] => []
  | element :: rest => ofToml origin element :: ofTomlElements origin rest

/-- The entries of a TOML table. -/
def ofTomlEntries (origin : Option String) : List (String × Toml) → List (String × Setting)
  | [] => []
  | (key, value) :: rest => (key, ofToml origin value) :: ofTomlEntries origin rest

end

/-- A value that was put under a key is found there. -/
theorem entry_put_self (setting : Setting) (key : String) (value : Setting) :
    (setting.put key value).entry key = value := by
  cases setting <;> simp [put, entry, entries, lookup_assign_self]

/-- Putting a value under one key of a table leaves its other keys alone. -/
theorem entry_put_of_ne (origin : Option String) (there : List (String × Setting))
    {key other : String} (value : Setting) (differ : other ≠ key) :
    ((Setting.table origin there).put key value).entry other =
      (Setting.table origin there).entry other := by
  simp [put, entry, entries, lookup_assign_of_ne value there differ]

end Setting

end ClusterGateway
