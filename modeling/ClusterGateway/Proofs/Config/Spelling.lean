import ClusterGateway.Proofs.Config.Names
import ClusterGateway.Proofs.Settings.Variables

/-!
# How variables of settings are spelled

A setting is set from the environment by the variable that has the mark of the program and the
keys of its path in its name, with two underscores between the keys, in whatever letter case.
That holds for every setting of a cluster with a plain name: small letters, digits and single
underscores, none of them at the end. Main statements: `denotes_of_spelled`, `denotes_setting`.
-/

namespace ClusterGateway

/-- Characters without two underscores in a row, and without one at the end. -/
def isUnbroken : List Char → Bool
  | '_' :: [] => false
  | '_' :: '_' :: _ => false
  | _ :: rest => isUnbroken rest
  | [] => true

/-- A key of small letters, digits and single underscores, none of them at the end. -/
structure IsPlainKey (key : String) : Prop where
  nonempty : key.toList ≠ []
  plain : key.toList.all Text.isPlainChar = true
  unbroken : isUnbroken key.toList = true

instance (key : String) : Decidable (IsPlainKey key) :=
  decidable_of_iff (key.toList ≠ [] ∧ key.toList.all Text.isPlainChar = true ∧
      isUnbroken key.toList = true)
    ⟨fun ⟨nonempty, plain, unbroken⟩ => ⟨nonempty, plain, unbroken⟩,
      fun ⟨nonempty, plain, unbroken⟩ => ⟨nonempty, plain, unbroken⟩⟩

/-- The characters of a plain key are those of a name in a path. -/
theorem IsPlainKey.isNameChar {key : String} (plain : IsPlainKey key) :
    ∀ character ∈ key.toList, KeyPath.isNameChar character = true := by
  intro character there
  have here := List.all_eq_true.mp plain.plain character there
  simp only [Text.isPlainChar, Bool.or_eq_true] at here
  simp only [KeyPath.isNameChar, Char.isAlphanum, Bool.or_eq_true]
  obtain (letter | digit) | underscore := here
  · have alphabetic : (character.isUpper || character.isLower) = true := by
      rw [letter, Bool.or_true]
    exact .inl (.inl (.inl (.inl alphabetic)))
  · exact .inl (.inl (.inl (.inr digit)))
  · exact .inl (.inl (.inr underscore))

namespace Environment

/-- A point comes after the key that two underscores come after. -/
theorem dotted_append {key : List Char} (unbroken : isUnbroken key = true) (rest : List Char) :
    dotted (key ++ '_' :: '_' :: rest) = key ++ '.' :: dotted rest := by
  fun_induction isUnbroken key with
  | case1 => contradiction
  | case2 => contradiction
  | case3 character key last inner ih =>
    rw [List.cons_append, dotted, ih unbroken, List.cons_append]
    -- the character does not begin a pair of underscores
    intro beyond underscore pair
    cases key with
    | nil => exact last underscore rfl
    | cons next key =>
      obtain ⟨rfl, -⟩ := List.cons.inj pair
      exact inner key underscore rfl
  | case4 => rfl

/-- The last key has no points in it. -/
theorem dotted_of_isUnbroken {key : List Char} (unbroken : isUnbroken key = true) :
    dotted key = key := by
  fun_induction isUnbroken key with
  | case1 => contradiction
  | case2 => contradiction
  | case3 character key last inner ih =>
    rw [dotted, ih unbroken]
    rintro beyond underscore rfl
    exact inner beyond underscore rfl
  | case4 => rfl

/-- Keys with two underscores between them become keys with points between them. -/
theorem dotted_intercalate {keys : List (List Char)}
    (unbroken : ∀ key ∈ keys, isUnbroken key = true) :
    dotted (['_', '_'].intercalate keys) = ['.'].intercalate keys := by
  induction keys with
  | nil => rfl
  | cons key keys ih =>
    have first := unbroken key List.mem_cons_self
    cases keys with
    | nil => simpa using dotted_of_isUnbroken first
    | cons next keys =>
      have later := ih fun other there => unbroken other (List.mem_cons_of_mem _ there)
      rw [List.intercalate_cons_cons, List.intercalate_cons_cons, List.append_assoc,
        List.append_assoc, List.cons_append, List.cons_append, List.nil_append, List.cons_append,
        List.nil_append, dotted_append first, later]

end Environment

namespace KeyPath

/-- Keys with a point before each. -/
def pointed (path : List String) : List Char := path.flatMap fun key => '.' :: key.toList

/-- Keys with points between them are the first one, and the others with a point before each. -/
theorem intercalate_eq_append_pointed (key : String) (path : List String) :
    ['.'].intercalate ((key :: path).map String.toList) = key.toList ++ pointed path := by
  induction path generalizing key with
  | nil => simp [pointed]
  | cons next path ih =>
    rw [List.map_cons, List.map_cons, List.intercalate_cons_cons, ← List.map_cons, ih]
    simp [pointed]

/-- A key is read up to the next point. -/
theorem readName?_append {key : String} (plain : IsPlainKey key) (path : List String) :
    readName? (key.toList ++ pointed path) = some (key, pointed path) := by
  have ends : (pointed path).takeWhile isNameChar = [] ∧
      (pointed path).dropWhile isNameChar = pointed path := by
    cases path <;> exact ⟨rfl, rfl⟩
  rw [readName?, List.takeWhile_append_of_pos plain.isNameChar,
    List.dropWhile_append_of_pos plain.isNameChar, ends.1, ends.2, List.append_nil]
  simp [plain.nonempty]

/-- The keys after the first one are read one after the other. -/
theorem readSteps?_pointed {path : List String} (plain : ∀ key ∈ path, IsPlainKey key) {fuel : Nat}
    (enough : path.length ≤ fuel) : readSteps? fuel (pointed path) = some (path.map .child) := by
  induction path generalizing fuel with
  | nil => cases fuel <;> rfl
  | cons key path ih =>
    obtain ⟨fuel, rfl⟩ : ∃ less, fuel = less + 1 := ⟨fuel - 1, by simp at enough; omega⟩
    have later := ih (fun other there => plain other (List.mem_cons_of_mem _ there))
      (Nat.le_of_succ_le_succ enough)
    have split : pointed (key :: path) = '.' :: (key.toList ++ pointed path) := rfl
    rw [split, readSteps?, readName?_append (plain key List.mem_cons_self)]
    simp [later]

/-- There are at least as many characters as keys. -/
theorem length_le_pointed (path : List String) : path.length ≤ (pointed path).length := by
  induction path with
  | nil => exact Nat.le_refl 0
  | cons key path ih =>
    simp only [pointed, List.flatMap_cons, List.length_append, List.length_cons] at ih ⊢
    omega

/-- Plain keys with points between them spell the path of the keys. -/
theorem ofKey_intercalate {path : List String} (nonempty : path ≠ [])
    (plain : ∀ key ∈ path, IsPlainKey key) :
    ofKey (String.ofList (['.'].intercalate (path.map String.toList))) = path.map .child := by
  cases path with
  | nil => contradiction
  | cons key path =>
    have later := readSteps?_pointed (fun other there => plain other (List.mem_cons_of_mem _ there))
      (Nat.le_succ_of_le (length_le_pointed path))
    rw [intercalate_eq_append_pointed, ofKey, parse?, String.toList_ofList,
      readName?_append (plain key List.mem_cons_self)]
    simp [later]

end KeyPath

namespace Environment

/-- The lowercase name of the variable that sets what plain keys lead to. -/
def spelling (path : List String) : String := mark ++ "__".intercalate path

/-- A variable that is spelled with the keys of a path, in any letter case, names what the path
leads to. -/
theorem denotes_of_spelled {name : String} {path : List String} (nonempty : path ≠ [])
    (plain : ∀ key ∈ path, IsPlainKey key) (spelled : Text.lowercase name = spelling path) :
    denotes name path = true := by
  have rest : dotted (['_', '_'].intercalate (path.map String.toList)) =
      ['.'].intercalate (path.map String.toList) := by
    refine dotted_intercalate fun key there => ?_
    obtain ⟨source, member, rfl⟩ := List.mem_map.mp there
    exact (plain source member).unbroken
  have small : (Text.lowercase name).toList =
      mark.toList ++ ['_', '_'].intercalate (path.map String.toList) := by
    rw [spelled, spelling, String.toList_append, String.toList_intercalate]
    rfl
  have marked : mark.toList.isPrefixOf (Text.lowercase name).toList = true := by
    rw [small]
    exact List.isPrefixOf_iff_prefix.mpr (List.prefix_append _ _)
  refine denotes_iff.mpr ⟨_, if_pos marked, ?_⟩
  rw [small, List.drop_left, rest]
  exact KeyPath.ofKey_intercalate nonempty plain

end Environment

/-- A setting of the configuration itself, or of a cluster with a plain name. -/
def SettingName.IsPlain : SettingName → Prop
  | .cluster name _ => IsPlainKey name
  | _ => True

/-- All keys on the path of such a setting are plain. -/
theorem isPlainKey_of_mem_path {setting : SettingName} (plain : setting.IsPlain) :
    ∀ key ∈ setting.path, IsPlainKey key := by
  cases setting with
  | cluster name setting =>
    have sectionKey : IsPlainKey setting.sectionKey := by
      cases setting <;> rw [ClusterSetting.sectionKey] <;> decide
    have key : IsPlainKey setting.key := by
      cases setting <;> rename_i setting <;> cases setting <;> decide
    simp only [SettingName.path, ClusterSetting.path, List.mem_cons, List.not_mem_nil, or_false]
    rintro _ (rfl | rfl | rfl | rfl)
    · decide
    · exact plain
    · exact sectionKey
    · exact key
  | _ =>
    simp only [SettingName.path, List.mem_cons, List.not_mem_nil, or_false]
    rintro _ (rfl | rfl) <;> decide

/-- Such a setting is small. -/
theorem SettingName.IsPlain.isSmall {setting : SettingName} (plain : setting.IsPlain) :
    setting.IsSmall := by
  cases setting with
  | cluster name setting => exact Text.lowercase_of_plain (IsPlainKey.plain plain)
  | _ => trivial

/-- The variable that is spelled with the keys of a setting names it, in any letter case. -/
theorem denotes_setting {name : String} {setting : SettingName} (plain : setting.IsPlain)
    (spelled : Text.lowercase name = Environment.spelling setting.path) :
    Environment.denotes name setting.path = true := by
  refine Environment.denotes_of_spelled ?_ (isPlainKey_of_mem_path plain) spelled
  cases setting <;> simp [SettingName.path]

example : Environment.spelling (SettingName.cluster "us_east_1" (.kafka .version)).path =
    "broker_proxy__proxies__us_east_1__kafka__version" := by
  decide +kernel

end ClusterGateway
