import ClusterGateway.Number.Binary64

/-!
# TOML values

A moment (a date, a time or both) is kept as its text. A table keeps its entries in the
order of the document and holds each key once.
-/

namespace ClusterGateway

/-- A TOML value. -/
inductive Toml where
  | flag (value : Bool)
  | whole (value : Int)
  | decimal (value : Binary64)
  | text (value : String)
  | list (elements : List Toml)
  | table (entries : List (String × Toml))
deriving Repr, Inhabited

end ClusterGateway
