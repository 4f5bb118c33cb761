import ClusterGateway.Proofs.Text.Lowercase
import ClusterGateway.Settings.Layer
import Mathlib.Data.List.Infix

/-!
# Trees of settings

A tree of settings is what its paths lead to. Where two trees have their values at the same
paths, one of them laid over the other has at each path the value of the upper tree, if it
has one there, and otherwise that of the lower one. Whatever is laid over what, the keys of each
table of the result are distinct and lowercase. Main statements: `ValuesAt.laid`,
`ValuesAt.layOver`, `regular_ofLayers`.
-/

namespace ClusterGateway.Setting

variable {base raw setting value node : Setting} {key other : String} {path : List String}
  {entries : List (String × Setting)}

/-- The entry of a key, if there is one. -/
def child? (setting : Setting) (key : String) : Option Setting := setting.entries.lookup key

/-- What a path of keys leads to. -/
def at? (setting : Setting) : List String → Option Setting
  | [] => some setting
  | key :: path => (setting.child? key).bind fun inner => inner.at? path

/-- A table, not a value. -/
def isTable : Setting → Bool
  | .table _ _ => true
  | _ => false

/-- The keys of a table. -/
def keys (setting : Setting) : List String := setting.entries.map (·.1)

/-- An entry that was put under a key is there, and no other entry has changed. -/
theorem child?_put (setting : Setting) (key : String) (value : Setting) (other : String) :
    (setting.put key value).child? other = if other = key then some value else setting.child? other := by
  by_cases same : other = key
  · subst same
    cases setting <;> simp [put, child?, Setting.entries, lookup_assign_self]
  · rw [if_neg same]
    cases setting with
    | table origin there => exact lookup_assign_of_ne value there same
    | _ =>
      have apart : (other == key) = false := by simpa using same
      simp [put, child?, Setting.entries, List.lookup_cons, apart]

/-- What something was put into is a table. -/
theorem isTable_put (setting : Setting) (key : String) (value : Setting) :
    (setting.put key value).isTable = true := by
  cases setting <;> rfl

/-- A key of a table has an entry. -/
theorem isSome_child?_iff : (setting.child? key).isSome = true ↔ key ∈ setting.keys :=
  isSome_lookup_iff key setting.entries

/-- A value has no entries. -/
theorem child?_of_value (single : setting.isTable = false) (key : String) :
    setting.child? key = none := by
  cases setting with
  | table => simp [isTable] at single
  | _ => rfl

/-- A value lies over whatever is there. -/
theorem layOver_of_value (single : value.isTable = false) (base : Setting) :
    layOver base value = value := by
  cases value with
  | table => simp [isTable] at single
  | _ => simp [layOver]

/-- No path leads on from a value. -/
theorem at?_of_value (single : setting.isTable = false) (key : String) (path : List String) :
    setting.at? (key :: path) = none := by
  rw [at?, child?_of_value single]
  rfl

/-- A path that goes on leads to where its second part leads from where its first part leads. -/
theorem at?_append (setting : Setting) (first second : List String) :
    setting.at? (first ++ second) = (setting.at? first).bind fun inner => inner.at? second := by
  induction first generalizing setting with
  | nil => rfl
  | cons key path ih =>
    rw [List.cons_append, at?, at?, Option.bind_assoc]
    congr 1
    funext inner
    exact ih inner

/-- A path of one key leads to the entry of the key. -/
theorem at?_single (setting : Setting) (key : String) : setting.at? [key] = setting.child? key := by
  simp [at?]

/-- A path of two keys leads to the entry of an entry. -/
theorem at?_pair (setting : Setting) (key other : String) :
    setting.at? [key, other] = (setting.child? key).bind fun inner => inner.child? other := by
  simp [at?]

/-- Nothing is below the root of the table without entries. -/
theorem at?_emptyTable (nonempty : path ≠ []) : emptyTable.at? path = none := by
  cases path with
  | nil => exact absurd rfl nonempty
  | cons key path => rfl

/-- A property of all that paths lead to. -/
def Everywhere (P : Setting → Prop) (setting : Setting) : Prop :=
  ∀ path node, setting.at? path = some node → P node

/-- No table holds a key twice. -/
def Distinct (setting : Setting) : Prop := setting.Everywhere fun node => node.keys.Nodup

/-- All keys are lowercase. -/
def Small (setting : Setting) : Prop :=
  setting.Everywhere fun node => ∀ key ∈ node.keys, Text.lowercase key = key

/-- What holds everywhere in a tree holds at its root. -/
theorem Everywhere.root {P : Setting → Prop} (all : setting.Everywhere P) : P setting :=
  all [] setting rfl

/-- What holds everywhere in a tree holds everywhere below an entry. -/
theorem Everywhere.child {P : Setting → Prop} (all : setting.Everywhere P)
    (there : setting.child? key = some value) : value.Everywhere P := by
  intro path node leads
  refine all (key :: path) node ?_
  rw [at?, there]
  exact leads

/-- What holds at the root and everywhere below each entry holds everywhere. -/
theorem Everywhere.of_children {P : Setting → Prop} (root : P setting)
    (below : ∀ key value, setting.child? key = some value → value.Everywhere P) :
    setting.Everywhere P := by
  intro path node leads
  cases path with
  | nil =>
    obtain rfl := Option.some.inj leads
    exact root
  | cons key path =>
    obtain ⟨inner, there, onward⟩ := Option.bind_eq_some_iff.mp leads
    exact below key inner there path node onward

/-- The keys of a table are distinct and lowercase. -/
def Regular (setting : Setting) : Prop :=
  setting.Everywhere fun node => node.keys.Nodup ∧ ∀ key ∈ node.keys, Text.lowercase key = key

/-- Where the keys are regular, none comes twice. -/
theorem Regular.distinct (regular : base.Regular) : base.Distinct :=
  fun path node leads => (regular path node leads).1

/-- A table without entries is regular. -/
theorem regular_emptyTable : emptyTable.Regular :=
  Everywhere.of_children ⟨List.nodup_nil, nofun⟩ nofun

/-- What holds of settings without keys holds everywhere in a value. -/
theorem everywhere_of_value {P : Setting → Prop} (single : value.isTable = false) (root : P value) :
    value.Everywhere P :=
  Everywhere.of_children root fun key inner there => by simp [child?_of_value single] at there

/-- A value has no keys. -/
theorem keys_of_value (single : value.isTable = false) : value.keys = [] := by
  cases value with
  | table => simp [isTable] at single
  | _ => rfl

/-- A value is regular. -/
theorem regular_of_value (single : value.isTable = false) : value.Regular :=
  everywhere_of_value single (by simp [keys_of_value single])

/-- The entry of a key is regular. -/
theorem Regular.entry (regular : base.Regular) (key : String) : (base.entry key).Regular := by
  show ((base.child? key).getD emptyTable).Regular
  cases there : base.child? key with
  | none => exact regular_emptyTable
  | some inner => exact Everywhere.child regular there

/-- The keys of a table after an entry was put under one of them. -/
theorem keys_put (setting : Setting) (key : String) (value : Setting) :
    (setting.put key value).keys =
      if (setting.child? key).isSome then setting.keys else setting.keys ++ [key] := by
  cases setting with
  | table origin there => exact keys_assign key value there
  | _ => rfl

/-- Putting an entry under a lowercase key leaves keys regular. -/
theorem Regular.put (regular : base.Regular) (inner : value.Regular)
    (small : Text.lowercase key = key) : (base.put key value).Regular := by
  obtain ⟨distinct, lowercase⟩ := Everywhere.root regular
  refine Everywhere.of_children ?_ fun other found there => ?_
  · rw [keys_put]
    split
    · exact ⟨distinct, lowercase⟩
    · rename_i absent
      rw [isSome_child?_iff] at absent
      refine ⟨List.nodup_append.mpr ⟨distinct, List.pairwise_singleton _ key, ?_⟩, ?_⟩
      · intro earlier there later here
        rw [List.mem_singleton.mp here]
        exact fun same => absent (same ▸ there)
      · intro other there
        rw [List.mem_append, List.mem_singleton] at there
        obtain before | rfl := there
        · exact lowercase other before
        · exact small
  · rw [child?_put] at there
    split at there
    · obtain rfl := Option.some.inj there
      exact inner
    · exact Everywhere.child regular there

mutual

/-- What is laid over a tree leaves keys regular. -/
theorem Regular.layOver {base : Setting} (regular : base.Regular) :
    (value : Setting) → (Setting.layOver base value).Regular
  | .scalar origin value => by
    rw [Setting.layOver]
    exact regular_of_value rfl
  | .list origin elements => by
    rw [Setting.layOver]
    exact regular_of_value rfl
  | .table origin entries => by
    rw [Setting.layOver]
    exact Regular.layEntries regular entries

/-- Entries that are laid over a tree leave keys regular. -/
theorem Regular.layEntries {base : Setting} (regular : base.Regular) :
    (entries : List (String × Setting)) → (Setting.layEntries base entries).Regular
  | [] => by
    rw [Setting.layEntries]
    exact regular
  | (key, value) :: rest => by
    rw [Setting.layEntries]
    have inner := Regular.layOver (regular.entry (Text.lowercase key)) value
    exact Regular.layEntries (regular.put inner (Text.lowercase_lowercase key)) rest

end

/-- Laying a value over the place that a path leads to leaves keys regular. -/
theorem Regular.place (regular : base.Regular) (value : Setting) (path : KeyPath) :
    (Setting.place value path base).Regular := by
  have listed (setting : Setting) (index : Int) (change : Setting → Setting) :
      (setting.onElement index change).Regular := by
    unfold onElement
    dsimp only
    split <;> exact regular_of_value rfl
  induction path generalizing base with
  | nil => exact regular.layOver value
  | cons step path ih =>
    cases step with
    | child name => exact regular.put (ih (regular.entry _)) (Text.lowercase_lowercase name)
    | element index =>
      cases path with
      | nil => exact listed base index _
      | cons => exact listed base index _

/-- The path of a key starts with a name. -/
theorem exists_child_ofKey (key : String) :
    ∃ name path, KeyPath.ofKey key = .child name :: path := by
  rw [KeyPath.ofKey]
  cases spelled : KeyPath.parse? key with
  | none => exact ⟨key, [], rfl⟩
  | some path =>
    simp only [KeyPath.parse?, Option.bind_eq_bind, Option.bind_eq_some_iff,
      Option.some.injEq] at spelled
    obtain ⟨⟨name, _⟩, -, steps, -, rfl⟩ := spelled
    exact ⟨name, steps, rfl⟩

/-- What holds of the table without entries, and is kept when a value is laid over the place of a
key, holds of the settings of several layers. -/
theorem ofLayers_keeps {P : Setting → Prop} (start : P emptyTable)
    (keeps : ∀ base value key, P base → P (place value (KeyPath.ofKey key) base))
    (layers : List (List (String × Setting))) : P (ofLayers layers) := by
  have layered (base : Setting) (holds : P base) (entries : List (String × Setting)) :
      P (base.layer entries) := by
    induction entries generalizing base with
    | nil => exact holds
    | cons entry rest ih => exact ih _ (keeps base entry.2 entry.1 holds)
  have from_base (base : Setting) (holds : P base) : P (layers.foldl layer base) := by
    induction layers generalizing base with
    | nil => exact holds
    | cons first rest ih => exact ih _ (layered base holds first)
  exact from_base emptyTable start

/-- In the settings of several layers, the keys of each table are distinct and lowercase. -/
theorem regular_ofLayers (layers : List (List (String × Setting))) : (ofLayers layers).Regular :=
  ofLayers_keeps regular_emptyTable
    (fun _ value key regular => Regular.place regular value (KeyPath.ofKey key)) layers

/-- The settings of several layers are a table. -/
theorem isTable_ofLayers (layers : List (List (String × Setting))) :
    (ofLayers layers).isTable = true := by
  refine ofLayers_keeps (P := fun all => all.isTable = true) rfl (fun base value key _ => ?_) layers
  obtain ⟨name, path, spelled⟩ := exists_child_ofKey key
  rw [spelled, Setting.place]
  exact isTable_put base _ _

/-- Entries with distinct lowercase keys are laid each over the entry of its key. -/
theorem child?_layEntries (base : Setting) (distinct : (entries.map (·.1)).Nodup)
    (small : ∀ key ∈ entries.map (·.1), Text.lowercase key = key) (key : String) :
    (layEntries base entries).child? key =
      match entries.lookup key with
      | none => base.child? key
      | some value => some (layOver (base.entry key) value) := by
  induction entries generalizing base with
  | nil => rfl
  | cons entry rest ih =>
    obtain ⟨first, value⟩ := entry
    rw [List.map_cons, List.nodup_cons] at distinct
    have same : Text.lowercase first = first := small first List.mem_cons_self
    rw [layEntries, same, ih _ distinct.2 fun other there => small other (List.mem_cons_of_mem _ there)]
    by_cases here : key = first
    · subst here
      have absent : rest.lookup key = none := by
        rw [← Option.not_isSome_iff_eq_none, isSome_lookup_iff]
        exact distinct.1
      rw [absent, List.lookup_cons_self]
      simp [child?_put]
    · have apart : (key == first) = false := by simpa using here
      rw [List.lookup_cons, apart]
      have kept : (base.put first (layOver (base.entry first) value)).child? key =
          base.child? key := by
        rw [child?_put, if_neg here]
      have entry_kept : (base.put first (layOver (base.entry first) value)).entry key =
          base.entry key := congrArg (·.getD emptyTable) kept
      rw [kept, entry_kept]

/-- A table with distinct lowercase keys that is laid over a tree has each of its entries laid over
the entry of its key. -/
theorem child?_layOver (base : Setting) (tabled : raw.isTable = true)
    (distinct : raw.keys.Nodup) (small : ∀ key ∈ raw.keys, Text.lowercase key = key)
    (key : String) : (layOver base raw).child? key =
      match raw.child? key with
      | none => base.child? key
      | some value => some (layOver (base.entry key) value) := by
  cases raw with
  | table origin entries =>
    rw [layOver]
    exact child?_layEntries base distinct small key
  | _ => simp [isTable] at tabled

/-- A table that is laid over a table makes a table. -/
theorem isTable_layOver (table : base.isTable = true) (tabled : raw.isTable = true) :
    (layOver base raw).isTable = true := by
  have layered (entries : List (String × Setting)) {base : Setting} (table : base.isTable = true) :
      (layEntries base entries).isTable = true := by
    induction entries generalizing base with
    | nil => exact table
    | cons entry rest ih =>
      rw [layEntries]
      exact ih (isTable_put base _ _)
  cases raw with
  | table origin entries =>
    rw [layOver]
    exact layered entries table
  | _ => simp [isTable] at tabled

/-- A tree has values at the given paths, where they lead somewhere in it, and tables at all
others. -/
def ValuesAt (leaf : List String → Prop) (setting : Setting) : Prop :=
  ∀ path node, setting.at? path = some node → (leaf path ↔ node.isTable = false)

/-- Below an entry a tree has values at the rest of the paths. -/
theorem ValuesAt.child {leaf : List String → Prop} (values : setting.ValuesAt leaf)
    (there : setting.child? key = some value) :
    value.ValuesAt fun path => leaf (key :: path) := by
  intro path node leads
  refine values (key :: path) node ?_
  rw [at?, there]
  exact leads

/-- What a tree does at a path that is laid over another one with values at the same paths, or over
nothing. -/
structure Laid (leaf : Prop) (lower upper both : Option Setting) : Prop where
  value : leaf → both = upper.or lower
  somewhere : both.isSome = (upper.isSome || lower.isSome)
  table : ¬ leaf → ∀ node, both = some node → node.isTable = true

/-- Where the upper tree leads nowhere, the lower one stays as it is. -/
theorem Laid.of_lower {leaf : Prop} {lower : Option Setting}
    (values : ∀ node, lower = some node → (leaf ↔ node.isTable = false)) :
    Laid leaf lower none lower where
  value := fun _ => rfl
  somewhere := rfl
  table := fun branch node there => by simpa [branch] using values node there

/-- A tree laid over another one with values at the same paths, or over nothing. -/
theorem laid_layOver {leaf : List String → Prop} (base : Option Setting)
    (lower : ∀ setting, base = some setting → setting.ValuesAt leaf)
    (upper : raw.ValuesAt leaf) (distinct : raw.Distinct) (small : raw.Small)
    (path : List String) :
    Laid (leaf path) (base.bind fun setting => setting.at? path) (raw.at? path)
      ((layOver (base.getD emptyTable) raw).at? path) := by
  -- the induction is on the path; below an entry, the entry of the base may be missing
  induction path generalizing leaf base raw with
  | nil =>
    have root := upper [] raw rfl
    refine ⟨fun here => ?_, rfl, fun branch node leads => ?_⟩
    · rw [layOver_of_value (root.mp here)]
      rfl
    · obtain rfl := Option.some.inj leads
      have tabled : raw.isTable = true := by simpa [branch] using root
      refine isTable_layOver ?_ tabled
      cases base with
      | none => rfl
      | some setting => simpa [branch] using lower setting rfl [] setting rfl
  | cons key path ih =>
    cases tabled : raw.isTable with
    | false =>
      have nothing : (base.bind fun setting => setting.at? (key :: path)) = none := by
        cases base with
        | none => rfl
        | some setting =>
          have root := (upper [] raw rfl).mpr tabled
          exact at?_of_value ((lower setting rfl [] setting rfl).mp root) key path
      rw [layOver_of_value tabled, at?_of_value tabled, nothing]
      exact .of_lower nofun
    | true =>
      -- what is below the entry in the base, if the base and the entry are there
      have below : (base.getD emptyTable).child? key =
          base.bind fun setting => setting.child? key := by
        cases base <;> rfl
      have entry : (base.getD emptyTable).entry key =
          (base.bind fun setting => setting.child? key).getD emptyTable :=
        congrArg (·.getD emptyTable) below
      have onward : (base.bind fun setting => setting.at? (key :: path)) =
          (base.bind fun setting => setting.child? key).bind fun inner => inner.at? path :=
        (Option.bind_assoc ..).symm
      have values (inner : Setting)
          (there : (base.bind fun setting => setting.child? key) = some inner) :
          inner.ValuesAt fun path => leaf (key :: path) := by
        obtain ⟨setting, same, found⟩ := Option.bind_eq_some_iff.mp there
        exact (lower setting same).child found
      rw [at?, at?, child?_layOver _ tabled distinct.root small.root, onward, below, entry]
      cases found : raw.child? key with
      | none =>
        refine .of_lower fun node leads => ?_
        obtain ⟨inner, there, onward⟩ := Option.bind_eq_some_iff.mp leads
        exact values inner there path node onward
      | some inner =>
        exact ih _ values (upper.child found) (Everywhere.child distinct found)
          (Everywhere.child small found)

variable {leaf : List String → Prop}

/-- What a tree has at a path that is laid over another one with values at the same paths. -/
theorem ValuesAt.laid (lower : base.ValuesAt leaf) (upper : raw.ValuesAt leaf)
    (distinct : raw.Distinct) (small : raw.Small) (path : List String) :
    Laid (leaf path) (base.at? path) (raw.at? path) ((Setting.layOver base raw).at? path) := by
  refine laid_layOver (some base) ?_ upper distinct small path
  rintro setting same
  obtain rfl := Option.some.inj same
  exact lower

/-- A tree laid over another one has its values at the same paths. -/
theorem ValuesAt.layOver (lower : base.ValuesAt leaf) (upper : raw.ValuesAt leaf)
    (distinct : raw.Distinct) (small : raw.Small) : (Setting.layOver base raw).ValuesAt leaf := by
  intro path node leads
  have laid := lower.laid upper distinct small path
  by_cases here : leaf path
  · rw [laid.value here, Option.or_eq_some_iff] at leads
    obtain above | ⟨-, below⟩ := leads
    · exact upper path node above
    · exact lower path node below
  · simp [here, laid.table here node leads]

end ClusterGateway.Setting
