import ClusterGateway.Proofs.Settings.Layers
import ClusterGateway.Settings.Environment

/-!
# Variables as layers

Where every variable with the mark of the program denotes a path of names, and no two denote
the same one, the settings of the environment are a stack of trees of single values, and what
it has at a path is the value of the variable that denotes the path. Main statements:
`layer_settings`, `topmost?_trees`.
-/

namespace ClusterGateway

/-- Setting new and distinct keys one after the other appends their entries. -/
theorem foldl_assign_of_nodup {α : Type} (entries start : List (String × α))
    (distinct : ((start ++ entries).map (·.1)).Nodup) :
    entries.foldl (fun all entry => assign entry.1 entry.2 all) start = start ++ entries := by
  induction entries generalizing start with
  | nil => simp
  | cons entry rest ih =>
    have absent : entry.1 ∉ start.map (·.1) := by
      intro there
      rw [List.map_append, List.map_cons] at distinct
      exact (List.nodup_append.mp distinct).2.2 entry.1 there entry.1 List.mem_cons_self rfl
    rw [List.foldl_cons, assign_of_not_mem entry.2 absent, ih _ (by simpa using distinct)]
    simp

/-- After setting several keys, each entry is one that was set, or it was there before. -/
theorem mem_foldl_assign {α : Type} {entries start : List (String × α)} {entry : String × α}
    (there : entry ∈ entries.foldl (fun all entry => assign entry.1 entry.2 all) start) :
    entry ∈ entries ∨ entry ∈ start := by
  induction entries generalizing start with
  | nil => exact .inr there
  | cons first rest ih =>
    obtain later | before := ih there
    · exact .inl (List.mem_cons_of_mem _ later)
    · obtain rfl | old := mem_assign before
      · exact .inl List.mem_cons_self
      · exact .inr old

/-- After setting several keys, each of them is there, and so are those from before. -/
theorem mem_keys_foldl_assign {α : Type} {entries start : List (String × α)} {key : String}
    (there : key ∈ entries.map (·.1) ∨ key ∈ start.map (·.1)) :
    key ∈ (entries.foldl (fun all entry => assign entry.1 entry.2 all) start).map (·.1) := by
  induction entries generalizing start with
  | nil => exact there.resolve_left (by simp)
  | cons first rest ih =>
    refine ih ?_
    obtain inside | old := there
    · obtain here | later := List.mem_cons.mp inside
      · exact .inr (mem_keys_assign first.2 (.inl here))
      · exact .inl later
    · exact .inr (mem_keys_assign first.2 (.inr old))

namespace Environment

open Setting

variable {leaf : List String → Prop} {environment : Environment} {path : List String}

/-- The value of a variable as a setting. -/
def written (text : String) : Setting := .scalar (some origin) (guess text)

/-- A variable names the setting that a path of keys leads to. -/
def denotes (name : String) (path : List String) : Bool :=
  (pathOf? name).any fun key => KeyPath.ofKey key == path.map .child

/-- The value of the variable that names the setting of a path, if there is one. -/
def told? (environment : Environment) (path : List String) : Option Setting :=
  environment.findSome? fun entry => if denotes entry.1 path then some (written entry.2) else none

/-- The setting of a variable, with its path as it is spelled. -/
def setting? (entry : String × String) : Option (String × Setting) :=
  (pathOf? entry.1).map fun key => (key, written entry.2)

/-- The trees of the single variables. -/
def trees (environment : Environment) : List Setting :=
  (environment.filterMap setting?).map fun entry =>
    nest entry.2 (pathNames (KeyPath.ofKey entry.1))

/-- Every variable with the mark of the program names a setting, and no two name the same one. -/
structure Unambiguous (leaf : List String → Prop) (environment : Environment) : Prop where
  named : ∀ entry ∈ environment, (pathOf? entry.1).isSome = true →
    ∃ path, leaf path ∧ (∀ key ∈ path, Text.lowercase key = key) ∧ denotes entry.1 path = true
  once : environment.Pairwise fun first second =>
    ∀ path, leaf path → denotes first.1 path = true → denotes second.1 path = false

/-- A variable names the setting of a path exactly when the rest of its name spells the path. -/
theorem denotes_iff {name : String} :
    denotes name path = true ↔
      ∃ key, pathOf? name = some key ∧ KeyPath.ofKey key = path.map .child := by
  simp [denotes, Option.any_eq_true]

/-- A variable names one setting at most. -/
theorem path_unique {name : String} {other : List String} (denoted : denotes name path = true)
    (too : denotes name other = true) : path = other := by
  obtain ⟨key, there, spelled⟩ := denotes_iff.mp denoted
  obtain ⟨same, again, respelled⟩ := denotes_iff.mp too
  obtain rfl : key = same := Option.some.inj (there.symm.trans again)
  rw [← pathNames_map_child path, ← pathNames_map_child other, ← spelled, respelled]

/-- Variables without the mark of the program are left out. -/
theorem settings_eq_foldl (environment : Environment) :
    environment.settings =
      (environment.filterMap setting?).foldl (fun all entry => assign entry.1 entry.2 all) [] := by
  rw [List.foldl_filterMap, settings]
  congr 1
  funext all entry
  cases found : pathOf? entry.1 <;> simp [setting?, found, written]

/-- Without ambiguity each variable has an entry of its own. -/
theorem Unambiguous.settings (unambiguous : Unambiguous leaf environment) :
    environment.settings = environment.filterMap setting? := by
  rw [settings_eq_foldl]
  refine foldl_assign_of_nodup _ [] ?_
  rw [List.nil_append, List.Nodup, List.pairwise_map, List.pairwise_filterMap]
  refine unambiguous.once.imp_of_mem fun {first second} here there apart own found other again => ?_
  intro same
  obtain ⟨key, spelled, rfl⟩ := Option.map_eq_some_iff.mp found
  obtain ⟨otherKey, respelled, rfl⟩ := Option.map_eq_some_iff.mp again
  obtain rfl : key = otherKey := same
  obtain ⟨path, setting, -, denoted⟩ := unambiguous.named first here (by simp [spelled])
  have too : denotes second.1 path = true := by
    rwa [denotes, respelled, ← spelled]
  simp [apart path setting denoted] at too

/-- The layer of the environment is a stack of trees of single values. -/
theorem Unambiguous.layer_settings (unambiguous : Unambiguous leaf environment) (base : Setting) :
    base.layer environment.settings = environment.trees.foldl layOver base := by
  rw [unambiguous.settings, trees]
  refine layer_eq_foldl (fun entry there => ?_) base
  obtain ⟨source, here, found⟩ := List.mem_filterMap.mp there
  obtain ⟨key, spelled, rfl⟩ := Option.map_eq_some_iff.mp found
  obtain ⟨path, -, -, denoted⟩ := unambiguous.named source here (by simp [spelled])
  obtain ⟨same, again, names⟩ := denotes_iff.mp denoted
  obtain rfl : key = same := Option.some.inj (spelled.symm.trans again)
  exact ⟨path, names⟩

/-- The tree of a variable leads to its value by the path of its setting. -/
theorem Unambiguous.tree_forms (unambiguous : Unambiguous leaf environment) {tree : Setting}
    (there : tree ∈ environment.trees) :
    ∃ entry ∈ environment, ∃ path, leaf path ∧ (∀ key ∈ path, Text.lowercase key = key) ∧
      denotes entry.1 path = true ∧ tree = nest (written entry.2) path := by
  obtain ⟨own, made, rfl⟩ := List.mem_map.mp there
  obtain ⟨entry, here, found⟩ := List.mem_filterMap.mp made
  obtain ⟨key, spelled, rfl⟩ := Option.map_eq_some_iff.mp found
  obtain ⟨path, setting, small, denoted⟩ := unambiguous.named entry here (by simp [spelled])
  obtain ⟨same, again, names⟩ := denotes_iff.mp denoted
  obtain rfl : key = same := Option.some.inj (spelled.symm.trans again)
  exact ⟨entry, here, path, setting, small, denoted, by rw [names, pathNames_map_child]⟩

/-- The trees of the variables can be laid over others. -/
theorem Unambiguous.fair (unambiguous : Unambiguous leaf environment) (free : PrefixFree leaf) :
    ∀ tree ∈ environment.trees, Fair leaf tree := by
  intro tree there
  obtain ⟨entry, -, path, setting, small, -, rfl⟩ := unambiguous.tree_forms there
  exact fair_nest free rfl setting small

/-- The environment has at the path of a setting the value of the variable that names it. -/
theorem Unambiguous.topmost?_trees (unambiguous : Unambiguous leaf environment)
    (free : PrefixFree leaf) (here : leaf path) :
    topmost? path environment.trees = environment.told? path := by
  induction environment with
  | nil => rfl
  | cons entry rest ih =>
    obtain ⟨named, once⟩ := unambiguous
    obtain ⟨apart, once⟩ := List.pairwise_cons.mp once
    have onward := ih ⟨fun other there => named other (List.mem_cons_of_mem _ there), once⟩
    rw [told?, List.findSome?_cons]
    cases spelled : pathOf? entry.1 with
    | none =>
      have unnamed : denotes entry.1 path = false := by simp [denotes, spelled]
      rw [trees, List.filterMap_cons_none (by simp [setting?, spelled]), unnamed]
      exact onward
    | some key =>
      obtain ⟨own, setting, -, denoted⟩ := named entry List.mem_cons_self (by simp [spelled])
      obtain ⟨same, again, names⟩ := denotes_iff.mp denoted
      obtain rfl : key = same := Option.some.inj (spelled.symm.trans again)
      have first : setting? entry = some (key, written entry.2) := by simp [setting?, spelled]
      rw [trees, List.filterMap_cons_some first, List.map_cons, topmost?, names,
        pathNames_map_child, at?_nest_of_leaf free rfl setting here]
      by_cases hit : path = own
      · subst hit
        -- the variables after this one name other settings
        have later : told? rest path = none := by
          refine List.findSome?_eq_none_iff.mpr fun other there => ?_
          rw [apart other there path here denoted]
          rfl
        have nothing : topmost? path (trees rest) = none := onward.trans later
        rw [if_pos rfl, denoted, if_pos rfl]
        exact congrArg (fun above => above.or (some (written entry.2))) nothing
      · have missed : denotes entry.1 path = false := by
          rw [Bool.eq_false_iff]
          exact fun found => hit (path_unique found denoted)
        rw [if_neg hit, Option.or_none, missed]
        exact onward

end Environment

end ClusterGateway
