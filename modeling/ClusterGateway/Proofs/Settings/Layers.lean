import ClusterGateway.Proofs.Settings.Trees

/-!
# Layers as trees

A layer whose keys are paths of names does what trees do that are laid over each other: a
file is one tree, and each variable of the environment is a tree with a single value. In
trees with values at the same paths that are laid over each other, the topmost one that has
a value at a path decides on it. Main statements: `layer_eq_layOver`, `layer_eq_foldl`,
`stacked_foldl`.
-/

namespace ClusterGateway.Setting

variable {base value : Setting} {path other : List String} {trees : List Setting}
  {leaf : List String → Prop}

/-- The tree of a single value at the end of a path. -/
def nest (value : Setting) : List String → Setting
  | [] => value
  | key :: path => .table none [(key, nest value path)]

/-- Laying a value over the place that names lead to is laying its tree over all. -/
theorem place_eq_layOver_nest (base value : Setting) (path : List String) :
    place value (path.map .child) base = layOver base (nest value path) := by
  induction path generalizing base with
  | nil => rfl
  | cons key path ih =>
    rw [List.map_cons, place, ih, nest, layOver, layEntries, layEntries]

/-- The first step into the tree of a single value. -/
theorem child?_nest (value : Setting) (first : String) (path : List String) (key : String) :
    (nest value (first :: path)).child? key = if key = first then some (nest value path) else none := by
  by_cases same : key = first
  · subst same
    simp [nest, child?, Setting.entries]
  · have apart : (key == first) = false := by simpa using same
    simp [nest, child?, Setting.entries, List.lookup_cons, apart, same]

/-- The tree of a single value has something at the paths on the way to it only. -/
theorem at?_nest (single : value.isTable = false) (path other : List String) :
    (nest value path).at? other =
      if other <+: path then some (nest value (path.drop other.length)) else none := by
  induction other generalizing path with
  | nil => simp [at?]
  | cons key other ih =>
    cases path with
    | nil => simp [nest, at?_of_value single]
    | cons first path =>
      rw [at?, child?_nest]
      by_cases same : key = first
      · subst same
        simp only [if_true, Option.bind_some, ih, List.cons_prefix_cons, true_and,
          List.length_cons, List.drop_succ_cons]
      · simp [same]

/-- The tree of a single value is a table, but for the value itself. -/
theorem isTable_nest (single : value.isTable = false) (path : List String) :
    (nest value path).isTable = !path.isEmpty := by
  cases path with
  | nil => exact single
  | cons => rfl

/-- A property of keys holds everywhere in the tree of a single value if it holds of the keys on
the way. -/
theorem everywhere_nest {P : Setting → Prop} (single : value.isTable = false)
    (at_end : P value) (on_way : ∀ key ∈ path, ∀ inner, P (.table none [(key, inner)])) :
    (nest value path).Everywhere P := by
  induction path with
  | nil =>
    refine .of_children at_end fun key inner there => ?_
    simp [nest, child?_of_value single] at there
  | cons first path ih =>
    refine .of_children (on_way first List.mem_cons_self _) fun key inner there => ?_
    rw [child?_nest] at there
    split at there
    · obtain rfl := Option.some.inj there
      exact ih fun key there => on_way key (List.mem_cons_of_mem _ there)
    · simp at there

/-- No path of a value leads through another one. -/
def PrefixFree (leaf : List String → Prop) : Prop :=
  ∀ first second, leaf first → leaf second → first <+: second → first = second

/-- A tree that can be laid over others: it has values at the given paths, and distinct lowercase
keys. -/
structure Fair (leaf : List String → Prop) (tree : Setting) : Prop where
  values : tree.ValuesAt leaf
  distinct : tree.Distinct
  small : tree.Small

/-- The tree of a single value at one of the paths can be laid over others. -/
theorem fair_nest (free : PrefixFree leaf) (single : value.isTable = false) (here : leaf path)
    (small : ∀ key ∈ path, Text.lowercase key = key) : Fair leaf (nest value path) where
  values := by
    intro other node leads
    rw [at?_nest single] at leads
    split at leads
    · rename_i before
      obtain rfl := Option.some.inj leads
      rw [isTable_nest single, Bool.not_eq_false', List.isEmpty_iff, List.drop_eq_nil_iff]
      constructor
      · intro there
        rw [free other path there here before]
      · intro short
        rw [before.eq_of_length_le short]
        exact here
    · simp at leads
  distinct := everywhere_nest single (by simp [keys_of_value single])
    fun key _ _ => List.pairwise_singleton _ key
  small := by
    refine everywhere_nest single (by simp [keys_of_value single]) fun key there inner => ?_
    simpa [keys, Setting.entries] using small key there

/-- At the path of a value, the tree of a single value has that value if it is its path, and
nothing otherwise. -/
theorem at?_nest_of_leaf (free : PrefixFree leaf) (single : value.isTable = false)
    (here : leaf path) (there : leaf other) :
    (nest value path).at? other = if other = path then some value else none := by
  rw [at?_nest single]
  by_cases same : other = path
  · subst same
    simp [nest]
  · rw [if_neg same, if_neg fun before => same (free other path there here before)]

/-- The value of the topmost of some trees, the lowest first, that has one at a path. -/
def topmost? (path : List String) : List Setting → Option Setting
  | [] => none
  | tree :: above => (topmost? path above).or (tree.at? path)

/-- The topmost value in a stack of two parts. -/
theorem topmost?_append (path : List String) (lower upper : List Setting) :
    topmost? path (lower ++ upper) = (topmost? path upper).or (topmost? path lower) := by
  induction lower with
  | nil => simp [topmost?]
  | cons tree above ih => rw [List.cons_append, topmost?, topmost?, ih, Option.or_assoc]

/-- The topmost value is that of one of the trees. -/
theorem exists_of_topmost? {node : Setting} (found : topmost? path trees = some node) :
    ∃ tree ∈ trees, tree.at? path = some node := by
  induction trees with
  | nil => simp [topmost?] at found
  | cons tree above ih =>
    rw [topmost?, Option.or_eq_some_iff] at found
    obtain higher | ⟨-, here⟩ := found
    · obtain ⟨other, there, leads⟩ := ih higher
      exact ⟨other, List.mem_cons_of_mem _ there, leads⟩
    · exact ⟨tree, List.mem_cons_self, here⟩

/-- Trees that are laid over each other: the topmost value at each path decides, and a path leads
somewhere if it does so in one of them. -/
structure Stacked (leaf : List String → Prop) (base : Setting) (trees : List Setting)
    (all : Setting) : Prop where
  values : all.ValuesAt leaf
  value : ∀ path, leaf path → all.at? path = (topmost? path trees).or (base.at? path)
  somewhere : ∀ path, (all.at? path).isSome = true ↔
    (∃ tree ∈ trees, (tree.at? path).isSome = true) ∨ (base.at? path).isSome = true

/-- Trees with values at the same paths are stacked when they are laid over each other. -/
theorem stacked_foldl (lower : base.ValuesAt leaf) (fair : ∀ tree ∈ trees, Fair leaf tree) :
    Stacked leaf base trees (trees.foldl layOver base) := by
  induction trees generalizing base with
  | nil => exact ⟨lower, fun path _ => rfl, fun path => by simp⟩
  | cons tree above ih =>
    obtain ⟨upper, distinct, small⟩ := fair tree List.mem_cons_self
    have laid := lower.laid upper distinct small
    have stacked := ih (lower.layOver upper distinct small)
      fun other there => fair other (List.mem_cons_of_mem _ there)
    refine ⟨stacked.values, fun path here => ?_, fun path => ?_⟩
    · rw [List.foldl_cons, stacked.value path here, (laid path).value here, topmost?, Option.or_assoc]
    · rw [List.foldl_cons, stacked.somewhere path, (laid path).somewhere]
      simp [or_left_comm, or_assoc]

/-- A layer whose keys are names is a tree that is laid over the settings below it. -/
theorem layer_eq_layOver {entries : List (String × Setting)}
    (names : ∀ key ∈ entries.map (·.1), KeyPath.ofKey key = [.child key])
    (base : Setting) (origin : Option String) :
    base.layer entries = layOver base (.table origin entries) := by
  rw [layOver]
  induction entries generalizing base with
  | nil => rfl
  | cons entry rest ih =>
    obtain ⟨key, value⟩ := entry
    have spelled : KeyPath.ofKey key = [.child key] := names key List.mem_cons_self
    rw [layer, List.foldl_cons, spelled, layEntries]
    exact ih (fun other there => names other (List.mem_cons_of_mem _ there)) _

/-- The names on a path; steps to elements of lists are left out. -/
def pathNames (path : KeyPath) : List String :=
  path.filterMap fun step =>
    match step with
    | .child name => some name
    | .element _ => none

/-- The names on a path of names. -/
theorem pathNames_map_child (path : List String) : pathNames (path.map .child) = path := by
  induction path with
  | nil => rfl
  | cons name path ih => exact congrArg (name :: ·) ih

/-- A layer whose keys spell paths of names is a stack of trees of single values. -/
theorem layer_eq_foldl {entries : List (String × Setting)}
    (spelled : ∀ entry ∈ entries, ∃ path : List String,
      KeyPath.ofKey entry.1 = path.map .child) (base : Setting) :
    base.layer entries =
      (entries.map fun entry => nest entry.2 (pathNames (KeyPath.ofKey entry.1))).foldl
        layOver base := by
  induction entries generalizing base with
  | nil => rfl
  | cons entry rest ih =>
    obtain ⟨path, first⟩ := spelled entry List.mem_cons_self
    rw [layer, List.foldl_cons, first, place_eq_layOver_nest, List.map_cons, List.foldl_cons, first,
      pathNames_map_child]
    exact ih (fun other there => spelled other (List.mem_cons_of_mem _ there)) _

end ClusterGateway.Setting
