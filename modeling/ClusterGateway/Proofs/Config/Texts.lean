import ClusterGateway.Proofs.Config.Fitting
import ClusterGateway.Proofs.Config.Spelling

/-!
# Texts from the environment

The text of a variable is taken for a truth value or a number if it looks like one, and a setting
that needs a text prints it again. So the setting is loaded as the variable has it exactly when
the text is spelled the way it is printed. Main statement: `load_text_of_variable`.
-/

namespace ClusterGateway

open Setting

/-- A scalar as a setting that needs a text has it. -/
def Scalar.shown : Scalar → String
  | .absent => ""
  | .flag value => if value then "true" else "false"
  | .whole value => toString value
  | .decimal value => value.text
  | .text value => value

/-- A text that is spelled as what it is taken for is printed. -/
def IsPrinted (text : String) : Prop :=
  match Environment.guess text with
  | .flag value => text = if value then "true" else "false"
  | .whole value => text = toString value
  | .decimal value => text = value.text
  | _ => True

/-- A text is taken for a truth value, a number, or itself. -/
theorem guess_forms (text : String) :
    (∃ flag, Environment.guess text = .flag flag) ∨ (∃ whole, Environment.guess text = .whole whole) ∨
      (∃ decimal, Environment.guess text = .decimal decimal) ∨ Environment.guess text = .text text := by
  simp only [Environment.guess]
  split
  · exact .inl ⟨true, rfl⟩
  · split
    · exact .inl ⟨false, rfl⟩
    · cases readLong? text with
      | some whole => exact .inr (.inl ⟨whole, rfl⟩)
      | none =>
        cases readDecimal? text with
        | some decimal => exact .inr (.inr (.inl ⟨decimal, rfl⟩))
        | none => exact .inr (.inr (.inr rfl))

/-- What a text is taken for is printed as the text exactly when the text is spelled so. -/
theorem shown_guess_iff (text : String) :
    (Environment.guess text).shown = text ↔ IsPrinted text := by
  rw [IsPrinted]
  obtain ⟨flag, taken⟩ | ⟨whole, taken⟩ | ⟨decimal, taken⟩ | taken := guess_forms text <;>
    simp only [taken, Scalar.shown, eq_comm]

/-- Two paths part at a name before either of them ends. -/
def Apart : KeyPath → List String → Prop
  | .child name :: steps, key :: path => Text.lowercase name = key → Apart steps path
  | _, _ => False

/-- A path of lowercase keys does not part from itself. -/
theorem not_apart_self {path : List String} (small : ∀ key ∈ path, Text.lowercase key = key) :
    ¬ Apart (path.map .child) path := by
  induction path with
  | nil => exact id
  | cons key path ih =>
    intro apart
    exact ih (fun other there => small other (List.mem_cons_of_mem _ there))
      (apart (small key List.mem_cons_self))

section Places

variable {base value : Setting} {steps : KeyPath} {path : List String}

/-- What is laid over the place of a path that parts from another one leaves the other one alone. -/
theorem at?_place_of_apart (apart : Apart steps path) :
    (place value steps base).at? path = base.at? path := by
  induction steps generalizing base path with
  | nil => simp [Apart] at apart
  | cons step steps ih =>
    cases step with
    | element index => simp [Apart] at apart
    | child name =>
      cases path with
      | nil => simp [Apart] at apart
      | cons key path =>
        rw [place, at?, at?, child?_put]
        split
        · rename_i same
          have apart : Apart steps path := apart same.symm
          have nonempty : path ≠ [] := by
            rintro rfl
            simp [Apart] at apart
          have entry : base.entry key = (base.child? key).getD emptyTable := rfl
          rw [Option.bind_some, ih apart, ← same, entry]
          cases base.child? key with
          | none => exact at?_emptyTable nonempty
          | some inner => rfl
        · rfl

/-- A value that is laid over the place of a path of lowercase keys is there. -/
theorem at?_place_self (single : value.isTable = false)
    (small : ∀ key ∈ path, Text.lowercase key = key) (base : Setting) :
    (place value (path.map .child) base).at? path = some value := by
  induction path generalizing base with
  | nil => exact congrArg some (layOver_of_value single base)
  | cons key path ih =>
    rw [List.map_cons, place, at?, child?_put, small key List.mem_cons_self, if_pos rfl,
      Option.bind_some]
    exact ih (fun other there => small other (List.mem_cons_of_mem _ there)) _

/-- A layer has at the path of one of its keys the value of the key, if the paths of all other keys
part from it. -/
theorem at?_layer {entries : List (String × Setting)} {key : String}
    (single : value.isTable = false) (small : ∀ key ∈ path, Text.lowercase key = key)
    (spelled : KeyPath.ofKey key = path.map .child)
    (each : ∀ entry ∈ entries, entry = (key, value) ∨ Apart (KeyPath.ofKey entry.1) path)
    (present : (key, value) ∈ entries ∨ base.at? path = some value) :
    (base.layer entries).at? path = some value := by
  induction entries generalizing base with
  | nil => exact present.resolve_left (by simp)
  | cons entry rest ih =>
    refine ih (fun other there => each other (List.mem_cons_of_mem _ there)) ?_
    show _ ∨ (place entry.2 (KeyPath.ofKey entry.1) base).at? path = _
    obtain rfl | parts := each entry List.mem_cons_self
    · rw [spelled]
      exact .inr (at?_place_self single small base)
    · rw [at?_place_of_apart parts]
      obtain inside | before := present
      · obtain rfl | later := List.mem_cons.mp inside
        · exact absurd (spelled ▸ parts) (not_apart_self small)
        · exact .inl later
      · exact .inr before

/-- Where tables stand on the way to a value, they do so to the end of its path. -/
theorem tabledTo_of_at? (leads : (base.at? path).isSome = true) : base.TabledTo path := by
  induction path generalizing base with
  | nil => trivial
  | cons key path ih =>
    obtain ⟨node, leads⟩ := Option.isSome_iff_exists.mp leads
    obtain ⟨inner, there, onward⟩ := Option.bind_eq_some_iff.mp leads
    refine ⟨?_, fun other found => ?_⟩
    · cases base with
      | table => rfl
      | _ => simp [child?, Setting.entries] at there
    · obtain rfl : inner = other := Option.some.inj (there.symm.trans found)
      exact ih (by simp [onward])

end Places

namespace Environment

variable {environment : Environment} {name text : String} {path : List String}

/-- Every setting of the environment is that of a variable. -/
theorem exists_variable {entry : String × Setting} (there : entry ∈ environment.settings) :
    ∃ source ∈ environment, setting? source = some entry := by
  rw [settings_eq_foldl] at there
  obtain found | none_there := mem_foldl_assign there
  · exact List.mem_filterMap.mp found
  · simp at none_there

/-- Every variable with the mark of the program has its key among the settings. -/
theorem mem_keys_settings {key : String} (there : (name, text) ∈ environment)
    (spelled : pathOf? name = some key) : key ∈ environment.settings.map (·.1) := by
  rw [settings_eq_foldl]
  refine mem_keys_foldl_assign (.inl ?_)
  refine List.mem_map.mpr ⟨(key, written text), List.mem_filterMap.mpr ⟨(name, text), there, ?_⟩, rfl⟩
  simp [setting?, spelled]

/-- The layer of the environment has at the path of a variable its value, if the paths of all other
variables part from it. -/
theorem at?_layer_settings (base : Setting) (small : ∀ key ∈ path, Text.lowercase key = key)
    (there : (name, text) ∈ environment) (denoted : denotes name path = true)
    (apart : ∀ other ∈ environment, other ≠ (name, text) → ∀ key, pathOf? other.1 = some key →
      Apart (KeyPath.ofKey key) path) :
    (base.layer environment.settings).at? path = some (written text) := by
  obtain ⟨key, spelled, steps⟩ := denotes_iff.mp denoted
  -- each entry is that of the variable, or its path parts
  have each : ∀ entry ∈ environment.settings,
      entry = (key, written text) ∨ Apart (KeyPath.ofKey entry.1) path := by
    intro entry member
    obtain ⟨source, here, made⟩ := exists_variable member
    obtain ⟨own, found, rfl⟩ := Option.map_eq_some_iff.mp made
    by_cases same : source = (name, text)
    · subst same
      obtain rfl : key = own := Option.some.inj (spelled.symm.trans found)
      exact .inl rfl
    · exact .inr (apart source here same own found)
  refine at?_layer rfl small steps each (.inl ?_)
  obtain ⟨entry, member, same⟩ := List.mem_map.mp (mem_keys_settings there spelled)
  obtain rfl | parts := each entry member
  · exact member
  · rw [same, steps] at parts
    exact absurd parts (not_apart_self small)

end Environment

/-- Where there are no files, none has settings. -/
theorem settings_of_no_files {files : FileTree} (none_there : files.files = []) (path : String) :
    files.settings path = .ok [] := by
  have missing (path : List String) : files.file? path = none := by
    simp [FileTree.file?, none_there]
  have incomplete (path : List String) (formats : List FileFormat) :
      files.complete? path formats = none := by
    induction formats with
    | nil => rfl
    | cons format formats ih => rw [FileTree.complete?, missing, ih]
  have nowhere : files.locate? path = none := by
    simp [FileTree.locate?, missing, incomplete]
  rw [FileTree.settings, nowhere]

/-- A configuration has a value at a setting that its settings have something at. -/
theorem exists_value {tree : Setting} {config : AppConfig}
    (names : config.proxies.names = clusterNames tree) {setting : SettingName}
    (there : (tree.at? setting.path).isSome = true) :
    ∃ value, config.value? setting = some value := by
  cases setting with
  | cluster cluster setting =>
    have whole : (SettingName.cluster cluster setting).path =
        ["proxies", cluster] ++ setting.path := rfl
    rw [whole, at?_append, at?_pair] at there
    obtain ⟨table, leads⟩ := Option.isSome_iff_exists.mp (Option.isSome_of_isSome_bind there)
    obtain ⟨clusters, found, inner⟩ := Option.bind_eq_some_iff.mp leads
    have configured : cluster ∈ config.proxies.names := by
      rw [names, clusterNames, found]
      exact isSome_child?_iff.mp (by simp [inner])
    obtain ⟨gateway, own⟩ := Option.isSome_iff_exists.mp
      ((isSome_lookup_iff cluster config.proxies.entries).mpr configured)
    have own : config.proxies.get? cluster = some gateway := own
    exact ⟨gateway.value setting, by rw [AppConfig.value?, own]; rfl⟩
  | _ => exact ⟨_, rfl⟩

/-- A setting that needs a text has a scalar as it is printed. -/
theorem decoded_shown {origin : Option String} {scalar : Scalar} {preset value : SettingValue}
    (decoded : Decoded .text (some (.scalar origin scalar)) preset value) :
    value = .text scalar.shown := by
  have read : ValueKind.text.decode (.scalar origin scalar) = .ok value := decoded
  cases scalar with
  | absent => simp [ValueKind.decode, toText, Except.map] at read
  | _ => exact (Except.ok.inj read).symm

/-- Without files, a setting that needs a text has what a variable is taken for, printed again, if
the loading succeeds and the paths of all other variables part from that of the setting. So it has
the text of the variable exactly when that is how it is printed. -/
theorem load_text_of_variable {files : FileTree} {directory : String} {environment : Environment}
    {config : AppConfig} {setting : SettingName} {name text : String}
    (none_there : files.files = []) (kind : setting.kind = .text) (small : setting.IsSmall)
    (there : (name, text) ∈ environment) (denoted : Environment.denotes name setting.path = true)
    (apart : ∀ other ∈ environment, other ≠ (name, text) →
      ∀ key, Environment.pathOf? other.1 = some key → Apart (KeyPath.ofKey key) setting.path)
    (loaded : AppConfig.load files directory environment = .ok config) :
    config.value? setting = some (.text (Environment.guess text).shown) ∧
      (config.value? setting = some (.text text) ↔ IsPrinted text) := by
  obtain ⟨layers, read, decodes⟩ := AppConfig.exists_layers loaded
  simp only [AppConfig.layers, settings_of_no_files none_there] at read
  obtain rfl : [AppConfig.presetSettings, [], [], environment.settings] = layers :=
    Except.ok.inj read
  have leads : (ofLayers [AppConfig.presetSettings, [], [], environment.settings]).at?
      setting.path = some (Environment.written text) :=
    Environment.at?_layer_settings _ (lowercase_of_mem_path setting small) there denoted apart
  obtain ⟨names, values⟩ := AppConfig.decoded decodes (isTable_ofLayers _)
    (regular_ofLayers _).distinct
  have present := Option.isSome_of_eq_some leads
  obtain ⟨value, found⟩ := exists_value names present
  have decoded := values setting value (tabledTo_of_at? present) found
  rw [leads, kind] at decoded
  rw [found, decoded_shown decoded, ← shown_guess_iff]
  simp

/-- Variables for the version of the default cluster and for the level of the log. -/
def versionEnvironment (version : String) : Environment :=
  [("BROKER_PROXY__LOGGING__LEVEL", "debug"),
    ("BROKER_PROXY__PROXIES__DEFAULT__KAFKA__VERSION", version)]

/-- The version of the default cluster. -/
def versionName : SettingName := .cluster "default" (.kafka .version)

/-- A version of three numbers is a text and nothing else. -/
theorem load_text_of_variable_version : ∃ config,
    AppConfig.load ⟨[]⟩ "config" (versionEnvironment "2.8.0") = .ok config ∧
    config.value? versionName = some (.text (Environment.guess "2.8.0").shown) ∧
    (config.value? versionName = some (.text "2.8.0") ↔ IsPrinted "2.8.0") := by
  have loads : (AppConfig.load ⟨[]⟩ "config" (versionEnvironment "2.8.0")).toOption.isSome = true := by
    decide +kernel
  cases loaded : AppConfig.load ⟨[]⟩ "config" (versionEnvironment "2.8.0") with
  | error fault => simp [loaded, Except.toOption] at loads
  | ok config =>
    have plain : versionName.IsPlain := (by decide : IsPlainKey "default")
    have denoted : Environment.denotes "BROKER_PROXY__PROXIES__DEFAULT__KAFKA__VERSION"
        versionName.path = true := denotes_setting plain (by decide +kernel)
    have level : Environment.pathOf? "BROKER_PROXY__LOGGING__LEVEL" = some "logging.level" := by
      decide +kernel
    have steps : KeyPath.ofKey "logging.level" = [.child "logging", .child "level"] := by decide
    refine ⟨config, rfl, load_text_of_variable rfl rfl plain.isSmall (.tail _ (.head _)) denoted ?_ loaded⟩
    intro other there differ key spelled
    simp only [List.mem_cons, List.not_mem_nil, or_false] at there
    rcases there with rfl | rfl
    · obtain rfl : "logging.level" = key := Option.some.inj (level.symm.trans spelled)
      rw [steps]
      exact fun same => absurd same (by decide)
    · exact absurd rfl differ

/-- A version that looks like a decimal with a zero at its end loses the zero. -/
theorem load_drops_zero :
    Environment.denotes "BROKER_PROXY__PROXIES__DEFAULT__KAFKA__VERSION" versionName.path = true ∧
    (AppConfig.load ⟨[]⟩ "config"
        [("BROKER_PROXY__PROXIES__DEFAULT__KAFKA__VERSION", "1.10")]).toOption.bind
      (fun config => config.value? versionName) = some (.text "1.1") := by
  constructor <;> decide +kernel

end ClusterGateway
