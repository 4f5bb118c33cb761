import ClusterGateway.Association
import ClusterGateway.Toml.Value

/-!
# Building TOML tables

A table comes to be by a header of its own, on the way to a header below it, or by dotted
keys. Each key is set once. A header may take over a table that was only passed on the
way; dotted keys may go on below what was not made by a header, and add entries only to
what dotted keys have made. Headers of list elements add one table each to a list, and
names below such a list mean its last element.
-/

namespace ClusterGateway.Toml

/-- How a table came to be. -/
inductive TableOrigin where
  | header
  | passed
  | dotted
deriving Repr, DecidableEq

/-- A part of a document that is still being built. -/
inductive Node where
  | value (value : Toml)
  | table (origin : TableOrigin) (entries : List (String × Node))
  /-- The elements of a list of tables, the last one first. -/
  | tables (elements : List (List (String × Node)))
deriving Inhabited

/-- The entries of a table, by key. -/
abbrev Entries := List (String × Node)

/-- Sets a key that was not set before. -/
def setNew? (key : String) (node : Node) (entries : Entries) : Option Entries :=
  if (entries.lookup key).isSome then none else some (entries ++ [(key, node)])

/-- Sets a dotted key: the path to the table it belongs to, and its last part. -/
def setDotted? (last : String) (value : Toml) : List String → Entries → Option Entries
  | [], entries => setNew? last (.value value) entries
  | key :: path, entries =>
    match entries.lookup key with
    | none =>
      (setDotted? last value path []).map fun inner =>
        entries ++ [(key, .table .dotted inner)]
    | some (.value _) => none
    | some (.table origin inner) =>
      if origin == .header || (path.isEmpty && origin != .dotted) then none
      else
        (setDotted? last value path inner).map fun inner =>
          assign key (.table origin inner) entries
    | some (.tables []) => none
    | some (.tables (element :: others)) =>
      if path.isEmpty then none
      else
        (setDotted? last value path element).map fun element =>
          assign key (.tables (element :: others)) entries

/-- Changes the table that a header path leads to; tables passed on the way are made. -/
def onTable? (change : Entries → Option Entries) : List String → Entries → Option Entries
  | [], entries => change entries
  | key :: path, entries =>
    match entries.lookup key with
    | none =>
      (onTable? change path []).map fun inner => entries ++ [(key, .table .passed inner)]
    | some (.value _) => none
    | some (.table origin inner) =>
      (onTable? change path inner).map fun inner => assign key (.table origin inner) entries
    | some (.tables []) => none
    | some (.tables (element :: others)) =>
      (onTable? change path element).map fun element =>
        assign key (.tables (element :: others)) entries

/-- Opens a table by its header. -/
def openTable? (last : String) (entries : Entries) : Option Entries :=
  match entries.lookup last with
  | none => some (entries ++ [(last, .table .header [])])
  | some (.table .passed inner) => some (assign last (.table .header inner) entries)
  | some _ => none

/-- Opens an element of a list of tables by its header. -/
def openElement? (last : String) (entries : Entries) : Option Entries :=
  match entries.lookup last with
  | none => some (entries ++ [(last, .tables [[]])])
  | some (.tables elements) => some (assign last (.tables ([] :: elements)) entries)
  | some _ => none

mutual

/-- The value of a part that is built. -/
def Node.build : Node → Toml
  | .value value => value
  | .table _ entries => .table (buildEntries entries)
  | .tables elements => .list (buildTables elements).reverse

/-- The values of the entries of a table. -/
def buildEntries : Entries → List (String × Toml)
  | [] => []
  | (key, node) :: rest => (key, node.build) :: buildEntries rest

/-- The values of the elements of a list of tables. -/
def buildTables : List Entries → List Toml
  | [] => []
  | entries :: rest => .table (buildEntries entries) :: buildTables rest

end

/-- A key that was set is not set again. -/
theorem setNew?_of_lookup {key : String} {found : Node} {entries : Entries}
    (there : entries.lookup key = some found) (node : Node) :
    setNew? key node entries = none := by
  simp [setNew?, there]

end ClusterGateway.Toml
