import ClusterGateway.Settings.Path
import ClusterGateway.Settings.Value
import ClusterGateway.Text.Lowercase

/-!
# Layers of settings

Layers are laid one over the other. A table is merged into what is there entry by entry;
anything else replaces what is there, a list as a whole. All keys become lowercase. An
empty table changes nothing where there is something.
-/

namespace ClusterGateway.Setting

mutual

/-- A setting laid over what is there. -/
def layOver (base : Setting) : Setting → Setting
  | .scalar origin value => .scalar origin value
  | .list origin elements => .list origin elements
  | .table _ entries => layEntries base entries

/-- Entries laid over what is there, one after the other. -/
def layEntries (base : Setting) : List (String × Setting) → Setting
  | [] => base
  | (key, value) :: rest =>
    layEntries (base.put (Text.lowercase key) (layOver (base.entry (Text.lowercase key)) value)) rest

end

/-- The place of an index in a list, counted from the end if it is negative. -/
def position? (index : Int) (length : Nat) : Option Nat :=
  if 0 ≤ index then some index.toNat
  else if index.natAbs ≤ length then some (length - index.natAbs)
  else none

/-- Changes the element at an index. What is no list becomes one first, and a list that is
too short is filled up. -/
def onElement (setting : Setting) (index : Int) (change : Setting → Setting) : Setting :=
  let origin :=
    match setting with
    | .list origin _ => origin
    | _ => none
  let elements := setting.elements
  match position? index elements.length with
  | none => .list origin elements
  | some place =>
    let filling := List.replicate (place + 1 - elements.length) (unwritten .absent)
    .list origin ((elements ++ filling).modify place change)

/-- Lays a value over the place that a path leads to. An element of a list is replaced. -/
def place (value : Setting) : KeyPath → Setting → Setting
  | [], base => layOver base value
  | [.element index], base => base.onElement index fun _ => value
  | .element index :: path, base => base.onElement index (place value path)
  | .child name :: path, base =>
    base.put (Text.lowercase name) (place value path (base.entry (Text.lowercase name)))

/-- Lays a layer over the settings below it. The keys of a layer may be paths. -/
def layer (base : Setting) (entries : List (String × Setting)) : Setting :=
  entries.foldl (fun base entry => place entry.2 (KeyPath.ofKey entry.1) base) base

/-- An empty layer changes nothing. -/
theorem layer_nil (base : Setting) : base.layer [] = base := rfl

/-- An empty table changes nothing where there is something. -/
theorem layOver_empty (base : Setting) (origin : Option String) :
    layOver base (.table origin []) = base := by
  simp [layOver, layEntries]

/-- The settings of several layers, the lowest first. -/
def ofLayers (layers : List (List (String × Setting))) : Setting := layers.foldl layer emptyTable

/-- One more layer on top is laid over all below it. -/
theorem ofLayers_append_singleton (layers : List (List (String × Setting)))
    (top : List (String × Setting)) :
    ofLayers (layers ++ [top]) = (ofLayers layers).layer top := by
  simp [ofLayers]

end ClusterGateway.Setting
