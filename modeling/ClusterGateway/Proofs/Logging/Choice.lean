import ClusterGateway.Proofs.Logging.Directives
import ClusterGateway.Proofs.Logging.Gathering

/-!
# The choice of a filter

The text of the environment decides alone if each of its pieces is a directive; one piece that is
none, wherever it stands, leaves the decision to the configured level, of whose text the pieces that
are no directives are dropped. Main statement: `choose_all_or_nothing`.
-/

namespace ClusterGateway.LogFilter

open Text (IsFree)

variable {text : String} {directive : Directive} {config : LoggingConfig}

/-- The directives among the pieces of a text, in order. -/
def directivesOf (text : String) : List Directive := (pieces text).filterMap Directive.parse?

/-- Each piece of a text is a directive. -/
def IsValid (text : String) : Prop :=
  ∀ piece ∈ pieces text, ∃ directive, Directive.IsWritten piece directive

/-- The directives that follow a level: those of its text, or errors alone for all records where
there are none. -/
def following (level : String) : List Directive :=
  match directivesOf (levelText level) with
  | [] => [⟨none, .error⟩]
  | directives => directives

/-- The directives of a text are those that its pieces are written as. -/
theorem mem_directivesOf_iff : directive ∈ directivesOf text ↔
    ∃ piece ∈ pieces text, Directive.IsWritten piece directive := by
  simp only [directivesOf, List.mem_filterMap, Directive.parse?_eq_some_iff]

/-- A text is valid if all of its pieces can be read. -/
theorem isValid_iff :
    IsValid text ↔ ∀ piece ∈ pieces text, (Directive.parse? piece).isSome = true := by
  simp only [IsValid, Option.isSome_iff_exists, Directive.parse?_eq_some_iff]

instance : Decidable (IsValid text) := decidable_of_iff _ isValid_iff.symm

/-- Reading one after the other succeeds if each reading does, and gives all that can be read. -/
theorem mapM_eq_ite {α β : Type} (read : α → Option β) (list : List α) : list.mapM read =
    if ∀ item ∈ list, (read item).isSome = true then some (list.filterMap read) else none := by
  induction list with
  | nil => rfl
  | cons item rest ih =>
    cases found : read item with
    | none => simp [List.mapM_cons, found]
    | some value =>
      by_cases later : ∀ item ∈ rest, (read item).isSome = true
      · simp [List.mapM_cons, found, ih, if_pos later]
      · simp [List.mapM_cons, found, ih, later]

/-- A valid text is the filter of its directives, and no other text is one. -/
theorem parseAll?_eq_ite (text : String) :
    parseAll? text = if IsValid text then some (ofDirectives (directivesOf text)) else none := by
  simp only [parseAll?, mapM_eq_ite, isValid_iff, apply_ite (Option.map ofDirectives)]
  rfl

/-- Without the environment the filter is that of the directives that follow the level. -/
theorem choose_none (config : LoggingConfig) :
    choose config none = ofDirectives (following config.level) := by
  have lenient : choose config none = parseValid (levelText config.level) := rfl
  rw [lenient, parseValid, following, directivesOf]
  cases (pieces (levelText config.level)).filterMap Directive.parse? <;> rfl

/-- The environment decides with a valid text. -/
theorem choose_of_isValid (valid : IsValid text) (config : LoggingConfig) :
    choose config (some text) = ofDirectives (directivesOf text) :=
  choose_eq_of_parseAll? ((parseAll?_eq_ite text).trans (if_pos valid)) config

/-- The environment has no say with a text that is not valid. -/
theorem choose_of_not_isValid {environment : Option String}
    (invalid : ∀ text, environment = some text → ¬ IsValid text) (config : LoggingConfig) :
    choose config environment = choose config none := by
  cases environment with
  | none => rfl
  | some text => simp [choose, parseAll?_eq_ite, invalid text rfl]

/-- The text that follows a level has two pieces: the level, and the program with the level. -/
theorem pieces_levelText {level : LevelFilter} {text : String} (written : level.IsWritten text) :
    pieces (levelText text) = [text, "broker_proxy=" ++ text] := by
  obtain ⟨some, plain⟩ := written.isPlain
  have free : IsFree ',' text := fun there => (plain ',' there).single rfl
  have rear : IsFree ',' ("broker_proxy=" ++ text) := Text.isFree_append.mpr ⟨by decide, free⟩
  have whole : levelText text = text ++ "," ++ ("broker_proxy=" ++ text) := by
    apply String.toList_injective
    simp [levelText]
  have filled : text.isEmpty = false := by
    rw [Bool.eq_false_iff, ne_eq, String.isEmpty_iff]
    rintro rfl
    exact some rfl
  rw [pieces, whole, Text.split_join rfl, Text.split_of_free free, Text.split_of_free rear]
  simp [filled]

/-- A level is followed by itself, for all records and for the program. -/
theorem following_of_isWritten {level : LevelFilter} {text : String}
    (written : level.IsWritten text) :
    following text = [⟨none, level⟩, ⟨some "broker_proxy", level⟩] := by
  have named : Directive.IsTarget "broker_proxy" :=
    ⟨⟨'b', "roker_proxy".toList, rfl, by decide, by decide⟩, by decide, by decide⟩
  have alone : Directive.parse? text = some ⟨none, level⟩ :=
    (Directive.IsWritten.level written).reads
  have assigned : Directive.parse? ("broker_proxy=" ++ text) = some ⟨some "broker_proxy", level⟩ :=
    (Directive.IsWritten.assigned named (.inl written)).reads
  have directives : directivesOf (levelText text) =
      [⟨none, level⟩, ⟨some "broker_proxy", level⟩] := by
    simp [directivesOf, pieces_levelText written, alone, assigned]
  rw [following, directives]

/-- A filter has no directives but those that it gathers. -/
theorem Gathers.mem {directives : List Directive} {filter : LogFilter}
    (gathers : Gathers directives filter) (there : directive ∈ filter.directives) :
    directive ∈ directives := by
  obtain ⟨earlier, later, rfl, -⟩ := (gathers.members directive).mp there
  exact List.mem_append_right _ List.mem_cons_self

/-- What follows a level is written in its text, unless there is nothing to be read. -/
theorem mem_following {level : String} (there : directive ∈ following level) :
    (∃ piece ∈ pieces (levelText level), Directive.IsWritten piece directive) ∨
      directive = ⟨none, .error⟩ ∧ directivesOf (levelText level) = [] := by
  rw [following] at there
  cases found : directivesOf (levelText level) with
  | nil =>
    rw [found] at there
    exact .inr ⟨List.mem_singleton.mp there, rfl⟩
  | cons first rest =>
    rw [found] at there
    exact .inl (mem_directivesOf_iff.mp (found ▸ there))

/-- Where every piece of the environment's text is a directive, the filter gathers these directives,
whatever is configured. Where there is no such text, or one of its pieces is no directive, the
filter is the one without the environment and gathers the directives that follow the level. No
filter has directives of both texts. A level is followed by two directives: the program's and, after
it, the one for all records. -/
theorem choose_all_or_nothing (config : LoggingConfig) (environment : Option String) :
    (∀ text, environment = some text → IsValid text →
      Gathers (directivesOf text) (choose config environment) ∧
        ∀ other, choose other environment = choose config environment) ∧
    ((∀ text, environment = some text → ¬ IsValid text) →
      Gathers (following config.level) (choose config environment) ∧
        choose config environment = choose config none) ∧
    ((∃ text, environment = some text ∧ ∀ directive ∈ (choose config environment).directives,
        ∃ piece ∈ pieces text, Directive.IsWritten piece directive) ∨
      ∀ directive ∈ (choose config environment).directives,
        (∃ piece ∈ pieces (levelText config.level), Directive.IsWritten piece directive) ∨
          directive = ⟨none, .error⟩ ∧ directivesOf (levelText config.level) = []) ∧
    (∀ level : LevelFilter, level.IsWritten config.level →
      (choose config none).directives = [⟨some "broker_proxy", level⟩, ⟨none, level⟩] ∧
        (choose config none).maxLevel = level) := by
  refine ⟨?_, ?_, ?_, ?_⟩
  · rintro text rfl valid
    have own := choose_of_isValid valid
    exact ⟨gathers_iff.mpr (own config), fun other => (own other).trans (own config).symm⟩
  · intro invalid
    have unset := choose_of_not_isValid invalid config
    exact ⟨gathers_iff.mpr (unset.trans (choose_none config)), unset⟩
  · by_cases valid : ∃ text, environment = some text ∧ IsValid text
    · obtain ⟨text, rfl, valid⟩ := valid
      refine .inl ⟨text, rfl, fun directive there => ?_⟩
      rw [choose_of_isValid valid] at there
      exact mem_directivesOf_iff.mp ((gathers_ofDirectives _).mem there)
    · have invalid : ∀ text, environment = some text → ¬ IsValid text :=
        fun text same fits => valid ⟨text, same, fits⟩
      refine .inr fun directive there => ?_
      rw [choose_of_not_isValid invalid, choose_none] at there
      exact mem_following ((gathers_ofDirectives _).mem there)
  · intro level written
    rw [choose_none, following_of_isWritten written]
    cases level <;> decide

/-- Empty pieces and a second directive for a target leave a text of the environment valid; a
directive without a target before its equals sign does not, and the level is followed, in capitals
too. -/
theorem choose_all_or_nothing_mixtures :
    (Gathers [⟨some "hyper", .trace⟩, ⟨some "h2", .info⟩, ⟨some "hyper", .off⟩]
        (choose ⟨"WARN", false⟩ (some "hyper=,,h2=3,hyper=0")) ∧
      choose ⟨"trace", true⟩ (some "hyper=,,h2=3,hyper=0") =
        choose ⟨"WARN", false⟩ (some "hyper=,,h2=3,hyper=0")) ∧
    (Gathers [⟨none, .warn⟩, ⟨some "broker_proxy", .warn⟩]
        (choose ⟨"WARN", false⟩ (some "debug,=info")) ∧
      choose ⟨"WARN", false⟩ (some "debug,=info") = choose ⟨"WARN", false⟩ none) ∧
    ((choose ⟨"WARN", false⟩ none).directives = [⟨some "broker_proxy", .warn⟩, ⟨none, .warn⟩] ∧
      (choose ⟨"WARN", false⟩ none).maxLevel = .warn) := by
  have valid : IsValid "hyper=,,h2=3,hyper=0" := by decide
  have own : directivesOf "hyper=,,h2=3,hyper=0" =
      [⟨some "hyper", .trace⟩, ⟨some "h2", .info⟩, ⟨some "hyper", .off⟩] := by decide
  have invalid : ∀ text, some "debug,=info" = some text → ¬ IsValid text := by
    rintro text same
    rw [← Option.some.inj same]
    decide
  have written : LevelFilter.warn.IsWritten "WARN" := .inl (by decide)
  obtain ⟨gathers, alone⟩ :=
    (choose_all_or_nothing ⟨"WARN", false⟩ (some "hyper=,,h2=3,hyper=0")).1 _ rfl valid
  obtain ⟨follows, unset⟩ :=
    (choose_all_or_nothing ⟨"WARN", false⟩ (some "debug,=info")).2.1 invalid
  rw [own] at gathers
  rw [following_of_isWritten written] at follows
  exact ⟨⟨gathers, alone _⟩, ⟨follows, unset⟩,
    (choose_all_or_nothing ⟨"WARN", false⟩ none).2.2.2 .warn written⟩

end ClusterGateway.LogFilter
