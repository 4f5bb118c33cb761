import ClusterGateway.Proofs.Settings.Trees
import ClusterGateway.Settings.Files

/-!
# Documents hold each key once

Whatever text is read, in either format, the tables of the settings that come of it hold no key
twice: a TOML document that sets a key again is refused, and a later member of a JSON object
takes the place of the earlier one. Main statement: `FileTree.distinct_settings`.
-/

namespace ClusterGateway

namespace Setting

/-- A table holds no key twice if its own keys are distinct and its entries hold none twice. -/
theorem distinct_table {entries : List (String × Setting)} (origin : Option String)
    (keys : (entries.map (·.1)).Nodup) (inner : ∀ entry ∈ entries, entry.2.Distinct) :
    (Setting.table origin entries).Distinct := by
  refine Everywhere.of_children keys fun key value there => ?_
  obtain ⟨before, after, rfl, -⟩ := List.lookup_eq_some_iff.mp there
  exact inner (key, value) (by simp)

end Setting

namespace Toml

/-- No table of a value holds a key twice. -/
def Distinct (value : Toml) : Prop := ∀ origin, (Setting.ofToml origin value).Distinct

/-- What is no table holds no key twice. -/
theorem distinct_of_ne_table {value : Toml} (single : ∀ entries, value ≠ .table entries) :
    value.Distinct := by
  intro origin
  cases value with
  | table entries => exact absurd rfl (single entries)
  | _ => exact (Setting.regular_of_value rfl).distinct

/-- No table of a part of a document holds a key twice, as far as keys lead to it. -/
inductive Node.Distinct : Node → Prop
  | value {value : Toml} (inner : value.Distinct) : Node.Distinct (.value value)
  | table {entries : Entries} (origin : TableOrigin) (keys : (entries.map (·.1)).Nodup)
      (inner : ∀ entry ∈ entries, Node.Distinct entry.2) : Node.Distinct (.table origin entries)
  | tables (elements : List Entries) : Node.Distinct (.tables elements)

/-- Entries with distinct keys that hold no key twice. -/
structure Tidy (entries : Entries) : Prop where
  keys : (entries.map (·.1)).Nodup
  inner : ∀ entry ∈ entries, entry.2.Distinct

variable {key last : String} {node : Node} {entries result : Entries}

/-- No entries are tidy. -/
theorem tidy_nil : Tidy [] := ⟨List.nodup_nil, nofun⟩

/-- What is found in tidy entries holds no key twice. -/
theorem Tidy.found (tidy : Tidy entries) (there : entries.lookup key = some node) :
    node.Distinct := by
  obtain ⟨before, after, rfl, -⟩ := List.lookup_eq_some_iff.mp there
  exact tidy.inner (key, node) (by simp)

/-- A table among tidy entries is tidy. -/
theorem Tidy.table (tidy : Tidy entries) {origin : TableOrigin} {inner : Entries}
    (there : entries.lookup key = some (.table origin inner)) : Tidy inner := by
  cases tidy.found there with
  | table _ keys within => exact ⟨keys, within⟩

/-- A new key at the end leaves entries tidy. -/
theorem Tidy.append (tidy : Tidy entries) (absent : entries.lookup key = none)
    (distinct : node.Distinct) : Tidy (entries ++ [(key, node)]) := by
  have fresh : key ∉ entries.map (·.1) := by
    rw [← isSome_lookup_iff, absent]
    simp
  rw [← assign_of_not_mem node fresh]
  refine ⟨nodup_keys_assign key node tidy.keys, fun entry there => ?_⟩
  obtain rfl | old := mem_assign there
  · exact distinct
  · exact tidy.inner entry old

/-- Setting the value of a key leaves entries tidy. -/
theorem Tidy.assign (tidy : Tidy entries) (distinct : node.Distinct) (key : String) :
    Tidy (assign key node entries) := by
  refine ⟨nodup_keys_assign key node tidy.keys, fun entry there => ?_⟩
  obtain rfl | old := mem_assign there
  · exact distinct
  · exact tidy.inner entry old

/-- Setting a new key leaves entries tidy. -/
theorem Tidy.setNew? (tidy : Tidy entries) (distinct : node.Distinct)
    (set : Toml.setNew? key node entries = some result) : Tidy result := by
  rw [Toml.setNew?] at set
  split at set
  · simp at set
  · rename_i absent
    obtain rfl := Option.some.inj set
    exact tidy.append (Option.not_isSome_iff_eq_none.mp absent) distinct

/-- Setting a dotted key leaves entries tidy. -/
theorem Tidy.setDotted? {value : Toml} {path : List String} (tidy : Tidy entries)
    (distinct : value.Distinct) (set : Toml.setDotted? last value path entries = some result) :
    Tidy result := by
  induction path generalizing entries result with
  | nil => exact tidy.setNew? (.value distinct) set
  | cons key path ih =>
    rw [Toml.setDotted?] at set
    cases found : entries.lookup key with
    | none =>
      simp only [found, Option.map_eq_some_iff] at set
      obtain ⟨inner, made, rfl⟩ := set
      have within := ih tidy_nil made
      exact tidy.append found (.table .dotted within.keys within.inner)
    | some node =>
      cases node with
      | value _ => simp [found] at set
      | table origin inner =>
        simp only [found, Option.ite_none_left_eq_some, Option.map_eq_some_iff] at set
        obtain ⟨-, inner, made, rfl⟩ := set
        have within := ih (tidy.table found) made
        exact tidy.assign (.table origin within.keys within.inner) key
      | tables elements =>
        cases elements with
        | nil => simp [found] at set
        | cons element others =>
          simp only [found, Option.ite_none_left_eq_some, Option.map_eq_some_iff] at set
          obtain ⟨-, inner, -, rfl⟩ := set
          exact tidy.assign (.tables _) key

/-- A change of the table that a header path leads to leaves entries tidy if it leaves that table
so. -/
theorem Tidy.onTable? {change : Entries → Option Entries} {path : List String}
    (keeps : ∀ {entries result : Entries}, Tidy entries → change entries = some result → Tidy result)
    (tidy : Tidy entries) (changed : Toml.onTable? change path entries = some result) :
    Tidy result := by
  induction path generalizing entries result with
  | nil => exact keeps tidy changed
  | cons key path ih =>
    rw [Toml.onTable?] at changed
    cases found : entries.lookup key with
    | none =>
      simp only [found, Option.map_eq_some_iff] at changed
      obtain ⟨inner, made, rfl⟩ := changed
      have within := ih tidy_nil made
      exact tidy.append found (.table .passed within.keys within.inner)
    | some node =>
      cases node with
      | value _ => simp [found] at changed
      | table origin inner =>
        simp only [found, Option.map_eq_some_iff] at changed
        obtain ⟨inner, made, rfl⟩ := changed
        have within := ih (tidy.table found) made
        exact tidy.assign (.table origin within.keys within.inner) key
      | tables elements =>
        cases elements with
        | nil => simp [found] at changed
        | cons element others =>
          simp only [found, Option.map_eq_some_iff] at changed
          obtain ⟨inner, -, rfl⟩ := changed
          exact tidy.assign (.tables _) key

/-- Opening a table leaves entries tidy. -/
theorem Tidy.openTable? (tidy : Tidy entries) (opened : Toml.openTable? last entries = some result) :
    Tidy result := by
  rw [Toml.openTable?] at opened
  split at opened
  · rename_i absent
    obtain rfl := Option.some.inj opened
    exact tidy.append absent (.table .header List.nodup_nil nofun)
  · rename_i inner found
    obtain rfl := Option.some.inj opened
    have within := tidy.table found
    exact tidy.assign (.table .header within.keys within.inner) last
  · simp at opened

/-- Opening an element of a list of tables leaves entries tidy. -/
theorem Tidy.openElement? (tidy : Tidy entries)
    (opened : Toml.openElement? last entries = some result) : Tidy result := by
  rw [Toml.openElement?] at opened
  split at opened
  · rename_i absent
    obtain rfl := Option.some.inj opened
    exact tidy.append absent (.tables _)
  · obtain rfl := Option.some.inj opened
    exact tidy.assign (.tables _) last
  · simp at opened

/-- The keys of entries are those of their values. -/
theorem keys_buildEntries (origin : Option String) (entries : Entries) :
    (Setting.ofTomlEntries origin (buildEntries entries)).map (·.1) = entries.map (·.1) := by
  induction entries with
  | nil => rfl
  | cons entry rest ih =>
    obtain ⟨key, node⟩ := entry
    rw [buildEntries, Setting.ofTomlEntries, List.map_cons, List.map_cons, ih]

/-- The values of entries are those of their parts. -/
theorem mem_buildEntries {origin : Option String} {entry : String × Setting}
    (there : entry ∈ Setting.ofTomlEntries origin (buildEntries entries)) :
    ∃ part ∈ entries, entry.2 = Setting.ofToml origin part.2.build := by
  induction entries with
  | nil => simp [buildEntries, Setting.ofTomlEntries] at there
  | cons first rest ih =>
    obtain ⟨key, node⟩ := first
    rw [buildEntries, Setting.ofTomlEntries] at there
    obtain rfl | later := List.mem_cons.mp there
    · exact ⟨(key, node), List.mem_cons_self, rfl⟩
    · obtain ⟨part, member, same⟩ := ih later
      exact ⟨part, List.mem_cons_of_mem _ member, same⟩

/-- The value of a part that holds no key twice holds none twice. -/
theorem Node.Distinct.build (distinct : node.Distinct) : node.build.Distinct := by
  induction distinct with
  | value inner =>
    rw [Node.build]
    exact inner
  | table origin keys inner ih =>
    intro place
    rw [Node.build, Setting.ofToml]
    refine Setting.distinct_table place ((keys_buildEntries place _).symm ▸ keys) fun entry there => ?_
    obtain ⟨part, member, same⟩ := mem_buildEntries there
    rw [same]
    exact ih part member place
  | tables elements =>
    rw [Node.build]
    exact distinct_of_ne_table nofun

/-- The table of tidy entries holds no key twice. -/
theorem Tidy.build (tidy : Tidy entries) : (Toml.table (buildEntries entries)).Distinct := by
  have whole := (Node.Distinct.table .header tidy.keys tidy.inner).build
  rwa [Node.build] at whole

/-- A whole number is no table. -/
theorem whole?_ne_table {number : Int} {value : Toml} (fits : whole? number = some value)
    (entries : List (String × Toml)) : value ≠ .table entries := by
  rw [whole?, Option.ite_none_right_eq_some] at fits
  obtain ⟨-, same⟩ := fits
  exact Option.some.inj same ▸ nofun

section Numbers

variable {input rest : List Char} {value : Toml}

/-- A number in a base is no table. -/
theorem readInBase?_ne_table {base : Nat} (read : readInBase? base input = some (value, rest))
    (entries : List (String × Toml)) : value ≠ .table entries := by
  simp only [readInBase?, Option.bind_eq_bind, Option.bind_eq_some_iff, Option.some.injEq,
    Prod.mk.injEq] at read
  obtain ⟨_, -, _, fits, rfl, -⟩ := read
  exact whole?_ne_table fits entries

/-- A number after its sign is no table. -/
theorem readUnsigned?_ne_table {negative : Bool}
    (read : readUnsigned? negative input = some (value, rest)) (entries : List (String × Toml)) :
    value ≠ .table entries := by
  simp only [readUnsigned?, Option.bind_eq_bind, Option.bind_eq_some_iff] at read
  obtain ⟨_, -, read⟩ := read
  split at read
  · simp only [Option.bind_eq_some_iff, Option.ite_none_left_eq_some, Option.some.injEq,
      Prod.mk.injEq] at read
    obtain ⟨_, -, _, -, -, rfl, -⟩ := read
    nofun
  · simp only [Option.bind_eq_some_iff, Option.some.injEq, Prod.mk.injEq] at read
    obtain ⟨_, fits, rfl, -⟩ := read
    exact whole?_ne_table fits entries

/-- A number, or what stands for none or for an infinite one, is no table. -/
theorem readSigned?_ne_table {negative : Bool}
    (read : readSigned? negative input = some (value, rest)) (entries : List (String × Toml)) :
    value ≠ .table entries := by
  unfold readSigned? at read
  split at read
  · obtain ⟨rfl, -⟩ := Prod.mk.inj (Option.some.inj read)
    nofun
  · obtain ⟨rfl, -⟩ := Prod.mk.inj (Option.some.inj read)
    nofun
  · exact readUnsigned?_ne_table read entries

/-- A number is no table. -/
theorem readNumber?_ne_table (read : readNumber? input = some (value, rest))
    (entries : List (String × Toml)) : value ≠ .table entries := by
  unfold readNumber? at read
  split at read
  · exact readInBase?_ne_table read entries
  · exact readInBase?_ne_table read entries
  · exact readInBase?_ne_table read entries
  · exact readSigned?_ne_table read entries
  · exact readSigned?_ne_table read entries
  · exact readSigned?_ne_table read entries

end Numbers

/-- The elements of a list make a list. -/
theorem readElements?_ne_table {fuel depth : Nat} {seen : List Toml} {input rest : List Char}
    {value : Toml} (read : readElements? fuel depth seen input = some (value, rest))
    (entries : List (String × Toml)) : value ≠ .table entries := by
  induction fuel generalizing seen input with
  | zero => simp [readElements?] at read
  | succ fuel ih =>
    rw [readElements?] at read
    split at read
    · obtain ⟨rfl, -⟩ := Prod.mk.inj (Option.some.inj read)
      nofun
    · simp only [Option.bind_eq_bind, Option.bind_eq_some_iff] at read
      obtain ⟨_, -, read⟩ := read
      split at read
      · exact ih read
      · obtain ⟨rfl, -⟩ := Prod.mk.inj (Option.some.inj read)
        nofun
      · simp at read

/-- A value holds no key twice, and so does a table in braces whose entries so far are tidy. -/
theorem distinct_readValue? (fuel : Nat) :
    (∀ {depth : Nat} {input rest : List Char} {value : Toml},
      readValue? fuel depth input = some (value, rest) → value.Distinct) ∧
    (∀ {depth : Nat} {seen : Entries} {input rest : List Char} {value : Toml}, Tidy seen →
      readEntries? fuel depth seen input = some (value, rest) → value.Distinct) := by
  induction fuel with
  | zero => exact ⟨by simp [readValue?], by simp [readEntries?]⟩
  | succ fuel ih =>
    obtain ⟨values, tables⟩ := ih
    constructor
    · intro depth input rest value read
      unfold readValue? at read
      split at read
      · obtain ⟨rfl, -⟩ := Prod.mk.inj (Option.some.inj read)
        exact distinct_of_ne_table nofun
      · obtain ⟨rfl, -⟩ := Prod.mk.inj (Option.some.inj read)
        exact distinct_of_ne_table nofun
      · rw [Option.ite_none_left_eq_some] at read
        exact distinct_of_ne_table (readElements?_ne_table read.2)
      · rw [Option.ite_none_left_eq_some] at read
        obtain ⟨-, read⟩ := read
        split at read
        · obtain ⟨rfl, -⟩ := Prod.mk.inj (Option.some.inj read)
          exact tidy_nil.build
        · exact tables tidy_nil read
      · obtain ⟨_, -, same⟩ := Option.map_eq_some_iff.mp read
        obtain ⟨rfl, -⟩ := Prod.mk.inj same
        exact distinct_of_ne_table nofun
      · obtain ⟨_, -, same⟩ := Option.map_eq_some_iff.mp read
        obtain ⟨rfl, -⟩ := Prod.mk.inj same
        exact distinct_of_ne_table nofun
      · split at read
        · obtain ⟨rfl, -⟩ := Prod.mk.inj (Option.some.inj read)
          exact distinct_of_ne_table nofun
        · exact distinct_of_ne_table (readNumber?_ne_table read)
    · intro depth seen input rest value tidy read
      rw [readEntries?] at read
      simp only [Option.bind_eq_bind, Option.bind_eq_some_iff] at read
      obtain ⟨_, -, _, -, ⟨inner, _⟩, readInner, entries, set, read⟩ := read
      have tidy := tidy.setDotted? (values readInner) set
      split at read
      · exact tables tidy read
      · obtain ⟨rfl, -⟩ := Prod.mk.inj (Option.some.inj read)
        exact tidy.build
      · simp at read

/-- A line leaves the tables of a document tidy. -/
theorem tidy_readDocumentLine? {draft next : Draft} {input rest : List Char}
    (tidy : Tidy draft.entries) (read : readDocumentLine? draft input = some (next, rest)) :
    Tidy next.entries := by
  unfold readDocumentLine? at read
  split at read
  · simp only [readElementHeader?, Option.bind_eq_bind, Option.bind_eq_some_iff, Option.some.injEq,
      Prod.mk.injEq] at read
    obtain ⟨_, -, _, -, _, -, _, -, entries, opened, rfl, -⟩ := read
    exact tidy.onTable? Tidy.openElement? opened
  · simp only [readHeader?, Option.bind_eq_bind, Option.bind_eq_some_iff, Option.some.injEq,
      Prod.mk.injEq] at read
    obtain ⟨_, -, _, -, _, -, entries, opened, rfl, -⟩ := read
    exact tidy.onTable? Tidy.openTable? opened
  · split at read
    · obtain ⟨rfl, -⟩ := Prod.mk.inj (Option.some.inj read)
      exact tidy
    · simp only [readAssignment?, Option.bind_eq_bind, Option.bind_eq_some_iff, Option.some.injEq,
        Prod.mk.injEq] at read
      obtain ⟨_, -, _, -, ⟨value, _⟩, readValue, _, -, entries, set, rfl, -⟩ := read
      have distinct := (distinct_readValue? _).1 readValue
      exact tidy.onTable? (fun tidy set => tidy.setDotted? distinct set) set

/-- A document leaves its tables tidy. -/
theorem tidy_readDocument? {fuel : Nat} {draft whole : Draft} {input : List Char}
    (tidy : Tidy draft.entries) (read : readDocument? fuel draft input = some whole) :
    Tidy whole.entries := by
  induction fuel generalizing draft input with
  | zero => simp [readDocument?] at read
  | succ fuel ih =>
    rw [readDocument?] at read
    split at read
    · obtain rfl := Option.some.inj read
      exact tidy
    · simp only [Option.bind_eq_bind, Option.bind_eq_some_iff] at read
      obtain ⟨⟨next, _⟩, line, onward⟩ := read
      exact ih (tidy_readDocumentLine? tidy line) onward

/-- The table of a document holds no key twice. -/
theorem distinct_parse? {text : String} {entries : List (String × Toml)}
    (read : parse? text = some entries) : (Toml.table entries).Distinct := by
  obtain ⟨draft, whole, rfl⟩ := Option.map_eq_some_iff.mp read
  exact (tidy_readDocument? tidy_nil whole).build

end Toml

namespace Json

/-- No table of a value holds a key twice. -/
def Distinct (value : Json) : Prop := ∀ origin, (Setting.ofJson origin value).Distinct

/-- What is no object holds no key twice. -/
theorem distinct_of_ne_obj {value : Json} (single : ∀ members, value ≠ .obj members) :
    value.Distinct := by
  intro origin
  cases value with
  | obj members => exact absurd rfl (single members)
  | _ => exact (Setting.regular_of_value rfl).distinct

/-- Members with distinct keys that hold no key twice. -/
structure Tidy (members : List (String × Json)) : Prop where
  keys : (members.map (·.1)).Nodup
  inner : ∀ member ∈ members, member.2.Distinct

variable {members : List (String × Json)} {value : Json} {rest : List Char}

/-- Setting a member leaves members tidy. -/
theorem Tidy.assign (tidy : Tidy members) (distinct : value.Distinct) (key : String) :
    Tidy (assign key value members) := by
  refine ⟨nodup_keys_assign key value tidy.keys, fun member there => ?_⟩
  obtain rfl | old := mem_assign there
  · exact distinct
  · exact tidy.inner member old

/-- The keys of an object are those of its members. -/
theorem keys_ofJsonMembers (origin : Option String) (members : List (String × Json)) :
    (Setting.ofJsonMembers origin members).map (·.1) = members.map (·.1) := by
  induction members with
  | nil => rfl
  | cons member rest ih =>
    obtain ⟨key, value⟩ := member
    rw [Setting.ofJsonMembers, List.map_cons, List.map_cons, ih]

/-- The entries of an object are its members. -/
theorem mem_ofJsonMembers {origin : Option String} {entry : String × Setting}
    (there : entry ∈ Setting.ofJsonMembers origin members) :
    ∃ member ∈ members, entry.2 = Setting.ofJson origin member.2 := by
  induction members with
  | nil => simp [Setting.ofJsonMembers] at there
  | cons first rest ih =>
    obtain ⟨key, value⟩ := first
    rw [Setting.ofJsonMembers] at there
    obtain rfl | later := List.mem_cons.mp there
    · exact ⟨(key, value), List.mem_cons_self, rfl⟩
    · obtain ⟨member, here, same⟩ := ih later
      exact ⟨member, List.mem_cons_of_mem _ here, same⟩

/-- The object of tidy members holds no key twice. -/
theorem Tidy.obj (tidy : Tidy members) : (Json.obj members).Distinct := by
  intro origin
  rw [Setting.ofJson]
  refine Setting.distinct_table origin ((keys_ofJsonMembers origin members).symm ▸ tidy.keys)
    fun entry there => ?_
  obtain ⟨member, here, same⟩ := mem_ofJsonMembers there
  rw [same]
  exact tidy.inner member here origin

/-- A number is no object. -/
theorem readNumber?_ne_obj {negative : Bool} {input : List Char}
    (read : readNumber? negative input = some (value, rest)) (members : List (String × Json)) :
    value ≠ .obj members := by
  have fraction {found : Option Binary64} {after : List Char}
      (made : found.map (fun number => (Json.float number, after)) = some (value, rest)) :
      value ≠ .obj members := by
    obtain ⟨_, -, same⟩ := Option.map_eq_some_iff.mp made
    obtain ⟨rfl, -⟩ := Prod.mk.inj same
    nofun
  simp only [readNumber?, Option.ite_none_left_eq_some] at read
  obtain ⟨-, read⟩ := read
  -- every branch is refused, is a fraction, or is a whole number or a zero as it stands
  repeat' split at read
  all_goals first
    | exact fraction read
    | obtain ⟨rfl, -⟩ := Prod.mk.inj (Option.some.inj read)
      nofun
    | simp at read

/-- The elements of an array make an array. -/
theorem readElements?_ne_obj {fuel depth : Nat} {seen : List Json} {input : List Char}
    (read : readElements? fuel depth seen input = some (value, rest))
    (members : List (String × Json)) : value ≠ .obj members := by
  induction fuel generalizing seen input with
  | zero => simp [readElements?] at read
  | succ fuel ih =>
    simp only [readElements?, Option.bind_eq_bind, Option.bind_eq_some_iff] at read
    obtain ⟨_, -, read⟩ := read
    split at read
    · exact ih read
    · obtain ⟨rfl, -⟩ := Prod.mk.inj (Option.some.inj read)
      nofun
    · simp at read

/-- A value holds no key twice, and so does an object whose members so far are tidy. -/
theorem distinct_readValue? (fuel : Nat) :
    (∀ {depth : Nat} {input rest : List Char} {value : Json},
      readValue? fuel depth input = some (value, rest) → value.Distinct) ∧
    (∀ {depth : Nat} {seen : List (String × Json)} {input rest : List Char} {value : Json},
      Tidy seen → readMembers? fuel depth seen input = some (value, rest) → value.Distinct) := by
  have empty : Tidy [] := ⟨List.nodup_nil, nofun⟩
  induction fuel with
  | zero => exact ⟨by simp [readValue?], by simp [readMembers?]⟩
  | succ fuel ih =>
    obtain ⟨values, objects⟩ := ih
    constructor
    · intro depth input rest value read
      unfold readValue? at read
      split at read
      · obtain ⟨rfl, -⟩ := Prod.mk.inj (Option.some.inj read)
        exact distinct_of_ne_obj nofun
      · obtain ⟨rfl, -⟩ := Prod.mk.inj (Option.some.inj read)
        exact distinct_of_ne_obj nofun
      · obtain ⟨rfl, -⟩ := Prod.mk.inj (Option.some.inj read)
        exact distinct_of_ne_obj nofun
      · obtain ⟨_, -, same⟩ := Option.map_eq_some_iff.mp read
        obtain ⟨rfl, -⟩ := Prod.mk.inj same
        exact distinct_of_ne_obj nofun
      · exact distinct_of_ne_obj (readNumber?_ne_obj read)
      · rw [Option.ite_none_left_eq_some] at read
        obtain ⟨-, read⟩ := read
        split at read
        · obtain ⟨rfl, -⟩ := Prod.mk.inj (Option.some.inj read)
          exact distinct_of_ne_obj nofun
        · exact distinct_of_ne_obj (readElements?_ne_obj read)
      · rw [Option.ite_none_left_eq_some] at read
        obtain ⟨-, read⟩ := read
        split at read
        · obtain ⟨rfl, -⟩ := Prod.mk.inj (Option.some.inj read)
          exact empty.obj
        · exact objects empty read
      · exact distinct_of_ne_obj (readNumber?_ne_obj read)
    · intro depth seen input rest value tidy read
      unfold readMembers? at read
      split at read
      · simp only [Option.bind_eq_bind, Option.bind_eq_some_iff] at read
        obtain ⟨⟨key, _⟩, -, read⟩ := read
        split at read
        · simp only [Option.bind_eq_some_iff] at read
          obtain ⟨⟨inner, _⟩, readInner, read⟩ := read
          have tidy := tidy.assign (values readInner) key
          split at read
          · exact objects tidy read
          · obtain ⟨rfl, -⟩ := Prod.mk.inj (Option.some.inj read)
            exact tidy.obj
          · simp at read
        · simp at read
      · simp at read

/-- The value of a document holds no key twice. -/
theorem distinct_parse? {text : String} (read : parse? text = some value) : value.Distinct := by
  rw [parse?] at read
  split at read
  · rename_i found
    rw [Option.ite_none_right_eq_some] at read
    obtain rfl := Option.some.inj read.2
    exact (distinct_readValue? _).1 found
  · simp at read

end Json

/-- The settings in a text hold no key twice. -/
theorem FileFormat.distinct_read? {format : FileFormat} {origin text : String}
    {entries : List (String × Setting)} (read : format.read? origin text = some entries)
    (root : Option String) : (Setting.table root entries).Distinct := by
  -- where a table was written makes no difference to its keys
  have moved (other : Option String) (distinct : (Setting.table other entries).Distinct) :
      (Setting.table root entries).Distinct :=
    Setting.Everywhere.of_children distinct.root fun _ _ there => distinct.child there
  cases format with
  | toml =>
    obtain ⟨document, parsed, rfl⟩ := Option.map_eq_some_iff.mp read
    exact moved (some origin) (Toml.distinct_parse? parsed (some origin))
  | json =>
    rw [FileFormat.read?] at read
    split at read
    · rename_i members parsed
      obtain rfl := Option.some.inj read
      exact moved (some origin) (Json.distinct_parse? parsed (some origin))
    · simp at read

/-- The settings of a file hold no key twice. -/
theorem FileTree.distinct_settings {tree : FileTree} {path : String}
    {entries : List (String × Setting)} (read : tree.settings path = .ok entries) :
    (Setting.table none entries).Distinct := by
  rw [FileTree.settings] at read
  split at read
  · obtain rfl := Except.ok.inj read
    exact Setting.regular_emptyTable.distinct
  · split at read
    · obtain rfl := Except.ok.inj read
      exact Setting.regular_emptyTable.distinct
    · dsimp only at read
      split at read
      · rename_i found
        obtain rfl := Except.ok.inj read
        exact FileFormat.distinct_read? found none
      · simp at read

end ClusterGateway
