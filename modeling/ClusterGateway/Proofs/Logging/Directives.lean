import Mathlib.Data.List.TakeWhile
import ClusterGateway.Logging.Filter
import ClusterGateway.Proofs.Text.Lowercase
import ClusterGateway.Proofs.Text.Marks

/-!
# The grammar of directives

A level is written by its name, in any case, or by its rank. A directive is written as a level
alone, or as a target with nothing behind it, with an equals sign, or with an equals sign and a
level. Reading accepts exactly what is written so. Main statements: `LevelFilter.parse?_eq_some_iff`
and `Directive.parse?_eq_some_iff`.
-/

namespace ClusterGateway

open Text (IsFree)

/-- Digits are read as their value, and nothing but digits is. -/
theorem allDigits?_eq_some_iff {characters : List Char} {value : Nat} :
    allDigits? characters = some value ↔ characters ≠ [] ∧
      (∀ digit ∈ characters, isDecimalDigit digit = true) ∧ digitsValue characters = value := by
  rw [allDigits?]
  split
  · rename_i refused
    rw [Bool.or_eq_true, List.isEmpty_iff, Bool.not_eq_true', List.all_eq_false] at refused
    obtain rfl | ⟨digit, there, other⟩ := refused
    · simp
    · have mixed : ¬ ∀ digit ∈ characters, isDecimalDigit digit = true :=
        fun all => other (all digit there)
      simp [mixed]
  · rename_i accepted
    simp only [Bool.or_eq_true, List.isEmpty_iff, Bool.not_eq_true', not_or,
      Bool.not_eq_false, List.all_eq_true] at accepted
    rw [Option.some_inj]
    exact ⟨fun same => ⟨accepted.1, accepted.2, same⟩, fun all => all.2.2⟩

namespace LevelFilter

variable {level : LevelFilter} {text : String} {character : Char}

/-- Digits with the rank of a level as their value. -/
def Ranks (level : LevelFilter) (digits : List Char) : Prop :=
  digits ≠ [] ∧ (∀ digit ∈ digits, isDecimalDigit digit = true) ∧ digitsValue digits = level.rank

/-- A level is written by its name, in any case of ASCII, or by the digits of its rank. -/
def IsWritten (level : LevelFilter) (text : String) : Prop :=
  text.toList.map Char.toLower = level.text.toList ∨ level.Ranks text.toList

/-- Where it stands for nothing but a level, a text may also have a plus sign before the rank. -/
def IsRead (level : LevelFilter) (text : String) : Prop :=
  level.IsWritten text ∨ ∃ digits, text.toList = '+' :: digits ∧ level.Ranks digits

/-- The characters that levels are written with: they may begin a directive, and none of them has a
meaning of its own in a filter. -/
structure IsPlain (character : Char) : Prop where
  starts : Directive.mayStart character = true
  solid : Text.isBlankChar character = false
  unassigned : character ≠ '='
  flat : character ≠ '['
  single : character ≠ ','

instance : Decidable (IsPlain character) :=
  decidable_of_iff (Directive.mayStart character = true ∧ Text.isBlankChar character = false ∧
      character ≠ '=' ∧ character ≠ '[' ∧ character ≠ ',')
    ⟨fun all => ⟨all.1, all.2.1, all.2.2.1, all.2.2.2.1, all.2.2.2.2⟩,
      fun plain => ⟨plain.starts, plain.solid, plain.unassigned, plain.flat, plain.single⟩⟩

/-- Digits, and letters in any case, are plain; a digit has one case. -/
theorem isPlain_of_ascii (ascii : character.toNat < 0x80) :
    (isDecimalDigit character = true → character.toLower.isLower = false) ∧
      (isDecimalDigit character = true ∨ character.toLower.isLower = true → IsPlain character) := by
  revert ascii
  refine Text.forall_ascii (P := fun character =>
    (isDecimalDigit character = true → character.toLower.isLower = false) ∧
      (isDecimalDigit character = true ∨ character.toLower.isLower = true → IsPlain character)) ?_
  decide +kernel

/-- A character whose small form is a small letter of ASCII is in ASCII. -/
theorem ascii_of_toLower (small : character.toLower.isLower = true) : character.toNat < 0x80 := by
  unfold Char.toLower at small
  split at small
  · rename_i capital
    have above : character.val.toNat ≤ 0x5a := UInt32.le_iff_toNat_le.mp capital.2
    exact Nat.lt_of_le_of_lt above (by decide)
  · have above : character.val.toNat ≤ 0x7a :=
      UInt32.le_iff_toNat_le.mp (of_decide_eq_true (Bool.and_eq_true_iff.mp small).2)
    exact Nat.lt_of_le_of_lt above (by decide)

/-- The names of levels are small letters. -/
theorem isLower_of_mem_text (level : LevelFilter) (there : character ∈ level.text.toList) :
    character.isLower = true := by
  have all : level.text.toList.all Char.isLower = true := by cases level <;> decide
  exact List.all_eq_true.mp all character there

/-- A level is written with plain characters, and there is at least one. -/
theorem IsWritten.isPlain (written : level.IsWritten text) :
    text.toList ≠ [] ∧ ∀ character ∈ text.toList, IsPlain character := by
  obtain named | ⟨some, digits, -⟩ := written
  · have names : level.text.toList ≠ [] := by cases level <;> decide
    refine ⟨fun empty => names (by rw [← named, empty, List.map_nil]), fun character there => ?_⟩
    have small : character.toLower.isLower = true :=
      isLower_of_mem_text level (named ▸ List.mem_map_of_mem there)
    exact (isPlain_of_ascii (ascii_of_toLower small)).2 (.inr small)
  · refine ⟨some, fun digit there => ?_⟩
    have ascii : digit.toNat < 0x80 := by
      have inside := digits digit there
      simp only [isDecimalDigit, Bool.and_eq_true, decide_eq_true_eq] at inside
      have above : digit.val.toNat ≤ 0x39 := UInt32.le_iff_toNat_le.mp inside.2
      exact Nat.lt_of_le_of_lt above (by decide)
    exact (isPlain_of_ascii ascii).2 (.inl (digits digit there))

/-- A level is read from plain characters and plus signs, and there is at least one. -/
theorem IsRead.characters (read : level.IsRead text) :
    text.toList ≠ [] ∧ ∀ character ∈ text.toList, IsPlain character ∨ character = '+' := by
  obtain written | ⟨digits, signed, ranks⟩ := read
  · exact ⟨written.isPlain.1, fun character there => .inl (written.isPlain.2 character there)⟩
  · have written : level.IsWritten (String.ofList digits) :=
      .inr (by rwa [String.toList_ofList])
    rw [signed]
    refine ⟨List.cons_ne_nil _ _, fun character there => ?_⟩
    obtain rfl | later := List.mem_cons.mp there
    · exact .inr rfl
    · exact .inl (written.isPlain.2 character (by rwa [String.toList_ofList]))

/-- The rank of a level is that of no other. -/
theorem ofRank?_eq_some_iff {rank : Nat} : ofRank? rank = some level ↔ rank = level.rank := by
  constructor
  · intro found
    unfold ofRank? at found
    split at found <;> cases found <;> rfl
  · rintro rfl
    cases level <;> rfl

/-- The name of a level is that of no other. -/
theorem ofName?_eq_some_iff {name : String} :
    ofName? name = some level ↔ name.toList.map Char.toLower = level.text.toList := by
  constructor
  · intro found
    have fits := List.find?_some found
    exact (beq_iff_eq.mp fits).symm
  · intro named
    simp only [ofName?, named]
    cases level <;> decide

/-- A natural number is read from digits, with or without a plus sign. -/
theorem readNat?_eq_some_iff {value : Nat} : readNat? text = some value ↔
    allDigits? text.toList = some value ∨
      ∃ digits, text.toList = '+' :: digits ∧ allDigits? digits = some value := by
  rw [readNat?]
  cases characters : text.toList with
  | nil => simp
  | cons first rest =>
    by_cases signed : first = '+'
    · subst signed
      have unread : allDigits? ('+' :: rest) = none := by simp [allDigits?, isDecimalDigit]
      simp [unread]
    · have digits : (∃ digits, first :: rest = '+' :: digits ∧ allDigits? digits = some value) ↔
          False := by
        simp [signed]
      rw [digits, or_false]
      split
      · rename_i same
        exact absurd (List.cons_eq_cons.mp same).1 signed
      · rfl

/-- A name has no digits. -/
theorem unranked_of_named {value : Nat} (named : text.toList.map Char.toLower = level.text.toList) :
    readNat? text ≠ some value := by
  intro read
  have small (character : Char) (there : character ∈ text.toList) :
      character.toLower.isLower = true :=
    isLower_of_mem_text level (named ▸ List.mem_map_of_mem there)
  obtain plain | ⟨digits, signed, -⟩ := readNat?_eq_some_iff.mp read
  · obtain ⟨some, digits, -⟩ := allDigits?_eq_some_iff.mp plain
    obtain ⟨first, there⟩ := List.exists_mem_of_ne_nil _ some
    have capital := (isPlain_of_ascii (ascii_of_toLower (small first there))).1 (digits first there)
    simp [small first there] at capital
  · have first := small '+' (by simp [signed])
    exact absurd first (by decide)

/-- A level is read from its rank, with or without a plus sign. -/
theorem ranked_iff : (readNat? text).bind ofRank? = some level ↔ level.Ranks text.toList ∨
    ∃ digits, text.toList = '+' :: digits ∧ level.Ranks digits := by
  simp only [Option.bind_eq_some_iff, readNat?_eq_some_iff, ofRank?_eq_some_iff, Ranks,
    allDigits?_eq_some_iff]
  constructor
  · rintro ⟨_, plain | ⟨digits, signed, plain⟩, rfl⟩
    · exact .inl plain
    · exact .inr ⟨digits, signed, plain⟩
  · rintro (plain | ⟨digits, signed, plain⟩)
    · exact ⟨_, .inl plain, rfl⟩
    · exact ⟨_, .inr ⟨digits, signed, plain⟩, rfl⟩

/-- A level is read from its name, in any case, and from its rank, with or without a plus sign. -/
theorem parse?_eq_some_iff : parse? text = some level ↔ level.IsRead text := by
  rw [IsRead, IsWritten, or_assoc, ← ranked_iff, ← ofName?_eq_some_iff, parse?]
  cases rank : (readNat? text).bind ofRank? with
  | none => simp
  | some found =>
    -- a text with a rank is no name
    have nameless : ofName? text ≠ some level := by
      intro named
      obtain ⟨value, read, -⟩ := Option.bind_eq_some_iff.mp rank
      exact unranked_of_named (ofName?_eq_some_iff.mp named) read
    simp [nameless]

/-- A level that is read from a text which begins like a directive is written there. -/
theorem IsRead.isWritten {first : Char} {rest : List Char} (read : level.IsRead text)
    (begins : text.toList = first :: rest) (unsigned : first ≠ '+') : level.IsWritten text := by
  obtain written | ⟨digits, signed, -⟩ := read
  · exact written
  · exact absurd (List.cons_eq_cons.mp (begins.symm.trans signed)).1 unsigned

end LevelFilter

namespace Directive

open LevelFilter (IsPlain)

variable {level : LevelFilter} {directive : Directive} {piece : String}

/-- The name of a target begins with a character that may start a directive, and has neither an
equals sign nor a bracket. -/
structure IsTarget (target : String) : Prop where
  begins : ∃ first rest, target.toList = first :: rest ∧ Text.isBlankChar first = false ∧
    mayStart first = true
  unassigned : IsFree '=' target
  flat : IsFree '[' target

/-- How directives are written. Blanks may stand only before a target that has no level; they are
then part of its name. -/
inductive IsWritten : String → Directive → Prop
  | level {text : String} {level : LevelFilter} (written : level.IsWritten text) :
    IsWritten text ⟨none, level⟩
  | target {blanks target : String} (blank : Text.isBlank blanks = true) (named : IsTarget target)
    (other : ∀ level : LevelFilter, ¬ level.IsWritten (blanks ++ target)) :
    IsWritten (blanks ++ target) ⟨some (blanks ++ target), .trace⟩
  | opened {target : String} (named : IsTarget target) :
    IsWritten (target ++ "=") ⟨some target, .trace⟩
  | assigned {target text : String} {level : LevelFilter} (named : IsTarget target)
    (read : level.IsRead text) : IsWritten (target ++ "=" ++ text) ⟨some target, level⟩

section Reading

variable {blanks target rest : List Char} {first : Char}

/-- Leading blanks are passed over. -/
theorem dropWhile_blanks (blank : ∀ character ∈ blanks, Text.isBlankChar character = true)
    (solid : Text.isBlankChar first = false) :
    (blanks ++ first :: rest).dropWhile Text.isBlankChar = first :: rest := by
  rw [List.dropWhile_append_of_pos blank, List.dropWhile_cons_of_neg (by simp [solid])]

/-- A piece that is read begins like a directive after its blanks, and has no bracket there. -/
theorem exists_parts (read : parse? piece = some directive) : ∃ blanks first rest,
    piece.toList = blanks ++ first :: rest ∧
      (∀ character ∈ blanks, Text.isBlankChar character = true) ∧
      Text.isBlankChar first = false ∧ mayStart first = true ∧ '[' ∉ first :: rest := by
  cases trimmed : piece.toList.dropWhile Text.isBlankChar with
  | nil => simp [parse?, trimmed] at read
  | cons first rest =>
    have whole := List.takeWhile_append_dropWhile (p := Text.isBlankChar) (l := piece.toList)
    have solid := List.head_dropWhile_not Text.isBlankChar (l := piece.toList) (by simp [trimmed])
    simp only [trimmed, List.head_cons] at whole solid
    simp only [parse?, trimmed] at read
    split at read
    · cases read
    · rename_i accepted
      simp only [Bool.or_eq_true, Bool.not_eq_true', not_or, Bool.not_eq_false,
        List.contains_eq_mem, decide_eq_true_eq] at accepted
      exact ⟨_, first, rest, whole.symm, fun _ => List.mem_takeWhile_imp, solid, accepted⟩

/-- A piece without an equals sign is a level if it can be read as one, or else a target. -/
theorem parse?_unassigned (whole : piece.toList = blanks ++ first :: rest)
    (blank : ∀ character ∈ blanks, Text.isBlankChar character = true)
    (solid : Text.isBlankChar first = false) (begins : mayStart first = true)
    (flat : '[' ∉ first :: rest) (unassigned : '=' ∉ first :: rest) : parse? piece =
      (LevelFilter.parse? piece).elim (some ⟨some piece, .trace⟩) fun level => some ⟨none, level⟩ := by
  have reaches : (first :: rest).takeWhile (· != '=') = first :: rest := by
    rw [List.takeWhile_eq_self_iff]
    intro character there
    rw [bne_iff_ne]
    rintro rfl
    exact unassigned there
  simp only [parse?, whole, dropWhile_blanks blank solid, begins, List.contains_eq_mem, flat, reaches]
  cases LevelFilter.parse? piece <;> simp

/-- A piece with an equals sign is cut at the place that the first one has without the blanks. -/
theorem parse?_assigned (whole : piece.toList = blanks ++ (first :: target ++ '=' :: rest))
    (blank : ∀ character ∈ blanks, Text.isBlankChar character = true)
    (solid : Text.isBlankChar first = false) (begins : mayStart first = true)
    (flat : '[' ∉ first :: target ++ '=' :: rest) (unassigned : '=' ∉ first :: target) :
    parse? piece =
      if (piece.toList.drop (target.length + 2)).isEmpty then
        some ⟨some (String.ofList (piece.toList.take (target.length + 1))), .trace⟩
      else (LevelFilter.parse? (String.ofList (piece.toList.drop (target.length + 2)))).map fun level =>
        ⟨some (String.ofList (piece.toList.take (target.length + 1))), level⟩ := by
  have ahead : ∀ character ∈ first :: target, (character != '=') = true := by
    intro character there
    rw [bne_iff_ne]
    rintro rfl
    exact unassigned there
  have place : ((first :: target ++ '=' :: rest).takeWhile (· != '=')).length =
      target.length + 1 := by
    rw [List.takeWhile_append_of_pos ahead]
    simp
  have trimmed : piece.toList.dropWhile Text.isBlankChar = first :: (target ++ '=' :: rest) := by
    rw [whole]
    exact dropWhile_blanks blank solid
  have before : target.length + 1 ≠ (first :: (target ++ '=' :: rest)).length := by
    simp
  rw [List.cons_append] at place flat
  simp only [parse?, trimmed, begins, List.contains_eq_mem, flat, place, beq_eq_false_iff_ne.mpr before]
  simp

/-- A piece that begins like a directive has no plus sign before a level. -/
theorem isWritten_of_isRead (whole : piece.toList = blanks ++ first :: rest)
    (blank : ∀ character ∈ blanks, Text.isBlankChar character = true)
    (begins : mayStart first = true) (read : level.IsRead piece) : level.IsWritten piece := by
  cases blanks with
  | nil =>
    refine read.isWritten whole ?_
    rintro rfl
    exact absurd begins (by decide)
  | cons space blanks =>
    refine read.isWritten whole ?_
    rintro rfl
    exact absurd (blank '+' List.mem_cons_self) (by decide)

end Reading

/-- What stands behind a target and an equals sign is nothing or a level. -/
theorem parse?_join {target text : String} (named : IsTarget target) (flat : IsFree '[' text) :
    parse? (target ++ "=" ++ text) =
      if text.toList.isEmpty then some ⟨some target, .trace⟩
      else (LevelFilter.parse? text).map fun level => ⟨some target, level⟩ := by
  obtain ⟨first, rest, begins, solid, starts⟩ := named.begins
  have whole : (target ++ "=" ++ text).toList = [] ++ (first :: rest ++ '=' :: text.toList) := by
    simp [begins]
  have flat : '[' ∉ first :: rest ++ '=' :: text.toList := by
    have inside : '[' ∉ first :: rest := begins ▸ named.flat
    have behind : '[' ∉ text.toList := flat
    simpa [behind] using inside
  have taken : (target ++ "=" ++ text).toList.take (rest.length + 1) = target.toList := by
    rw [String.append_assoc, String.toList_append]
    exact List.take_left' (by rw [begins, List.length_cons])
  have dropped : (target ++ "=" ++ text).toList.drop (rest.length + 2) = text.toList := by
    rw [String.toList_append]
    exact List.drop_left' (by simp [begins])
  rw [parse?_assigned whole (by simp) solid starts flat (begins ▸ named.unassigned), taken, dropped,
    String.ofList_toList, String.ofList_toList]

/-- What is written as a directive is read as it. -/
theorem IsWritten.reads (written : IsWritten piece directive) : parse? piece = some directive := by
  cases written with
  | @level _ level written =>
    obtain ⟨some, plain⟩ := written.isPlain
    obtain ⟨first, rest, whole⟩ := List.exists_cons_of_ne_nil some
    have begins : IsPlain first := plain first (by simp [whole])
    have bare : piece.toList = [] ++ first :: rest := whole
    have unassigned : '=' ∉ first :: rest := fun there => (plain '=' (whole ▸ there)).unassigned rfl
    have flat : '[' ∉ first :: rest := fun there => (plain '[' (whole ▸ there)).flat rfl
    have read : LevelFilter.parse? piece = .some level :=
      LevelFilter.parse?_eq_some_iff.mpr (.inl written)
    rw [parse?_unassigned bare (by simp) begins.solid begins.starts flat unassigned, read]
    rfl
  | @target blanks target blank named other =>
    obtain ⟨first, rest, begins, solid, starts⟩ := named.begins
    have blank : ∀ character ∈ blanks.toList, Text.isBlankChar character = true :=
      List.all_eq_true.mp blank
    have whole : (blanks ++ target).toList = blanks.toList ++ first :: rest := by
      rw [String.toList_append, begins]
    have unread : LevelFilter.parse? (blanks ++ target) = none := by
      rw [Option.eq_none_iff_forall_ne_some]
      intro level read
      have read := LevelFilter.parse?_eq_some_iff.mp read
      exact other level (isWritten_of_isRead whole blank starts read)
    rw [parse?_unassigned whole blank solid starts (begins ▸ named.flat)
      (begins ▸ named.unassigned), unread]
    rfl
  | @opened target named =>
    have flat : IsFree '[' "" := by decide
    have reads := parse?_join named flat
    rwa [String.append_empty] at reads
  | @assigned target text level named read =>
    obtain ⟨some, characters⟩ := read.characters
    have flat : IsFree '[' text := by
      intro there
      obtain plain | plus := characters '[' there
      · exact plain.flat rfl
      · exact absurd plus (by decide)
    rw [parse?_join named flat, if_neg (by simpa using some),
      LevelFilter.parse?_eq_some_iff.mpr read]
    rfl

section Writing

variable {blanks target rest : List Char} {first : Char}

/-- The characters of a target. -/
theorem isTarget_ofList (solid : Text.isBlankChar first = false) (begins : mayStart first = true)
    (flat : '[' ∉ first :: rest) (unassigned : '=' ∉ first :: rest) :
    IsTarget (String.ofList (first :: rest)) where
  begins := ⟨first, rest, String.toList_ofList, solid, begins⟩
  unassigned := by rwa [IsFree, String.toList_ofList]
  flat := by rwa [IsFree, String.toList_ofList]

/-- A piece without an equals sign that is read is a level or a target. -/
theorem isWritten_of_unassigned (whole : piece.toList = blanks ++ first :: rest)
    (blank : ∀ character ∈ blanks, Text.isBlankChar character = true)
    (solid : Text.isBlankChar first = false) (begins : mayStart first = true)
    (flat : '[' ∉ first :: rest) (unassigned : '=' ∉ first :: rest)
    (read : parse? piece = some directive) : IsWritten piece directive := by
  rw [parse?_unassigned whole blank solid begins flat unassigned] at read
  cases found : LevelFilter.parse? piece with
  | some level =>
    rw [found] at read
    obtain rfl := Option.some.inj read
    exact .level (isWritten_of_isRead whole blank begins (LevelFilter.parse?_eq_some_iff.mp found))
  | none =>
    rw [found] at read
    obtain rfl := Option.some.inj read
    have named := isTarget_ofList solid begins flat unassigned
    have same : piece = String.ofList blanks ++ String.ofList (first :: rest) := by
      apply String.toList_injective
      simp [whole]
    have blanked : Text.isBlank (String.ofList blanks) = true := by
      rw [Text.isBlank, String.toList_ofList]
      exact List.all_eq_true.mpr blank
    rw [same] at found ⊢
    refine .target blanked named fun level written => ?_
    have present := LevelFilter.parse?_eq_some_iff.mpr (.inl written)
    exact absurd (found.symm.trans present) (Option.some_ne_none level).symm

/-- A piece with an equals sign that is read is a target with nothing or a level behind the sign. -/
theorem isWritten_of_assigned (whole : piece.toList = first :: target ++ '=' :: rest)
    (solid : Text.isBlankChar first = false) (begins : mayStart first = true)
    (flat : '[' ∉ first :: target ++ '=' :: rest) (unassigned : '=' ∉ first :: target)
    (read : parse? piece = some directive) : IsWritten piece directive := by
  have named : IsTarget (String.ofList (first :: target)) :=
    isTarget_ofList solid begins (fun there => flat (List.mem_append_left _ there)) unassigned
  have same : piece = String.ofList (first :: target) ++ "=" ++ String.ofList rest := by
    apply String.toList_injective
    simp [whole]
  have behind : IsFree '[' (String.ofList rest) := by
    rw [IsFree, String.toList_ofList]
    exact fun there => flat (List.mem_append_right _ (List.mem_cons_of_mem _ there))
  rw [same, parse?_join named behind, String.toList_ofList] at read
  rw [same]
  split at read
  · rename_i nothing
    obtain rfl := Option.some.inj read
    rw [List.isEmpty_iff.mp nothing, String.ofList_nil, String.append_empty]
    exact .opened named
  · obtain ⟨level, found, rfl⟩ := Option.map_eq_some_iff.mp read
    exact .assigned named (LevelFilter.parse?_eq_some_iff.mp found)

/-- Blanks before a target shift an equals sign into its level, which is none then. -/
theorem unread_of_blanks {space : Char}
    (whole : piece.toList = space :: blanks ++ (first :: target ++ '=' :: rest))
    (blank : ∀ character ∈ space :: blanks, Text.isBlankChar character = true)
    (solid : Text.isBlankChar first = false) (begins : mayStart first = true)
    (flat : '[' ∉ first :: target ++ '=' :: rest) (unassigned : '=' ∉ first :: target) :
    parse? piece = none := by
  have kept : '=' ∈ piece.toList.drop (target.length + 2) := by
    have early : target.length + 2 ≤ (space :: blanks ++ first :: target).length := by
      simp only [List.length_append, List.length_cons]
      omega
    rw [whole, ← List.append_assoc, List.drop_append_of_le_length early]
    simp
  have unread : LevelFilter.parse? (String.ofList (piece.toList.drop (target.length + 2))) = none := by
    rw [Option.eq_none_iff_forall_ne_some]
    intro level found
    have read := LevelFilter.parse?_eq_some_iff.mp found
    obtain plain | plus := read.characters.2 '=' (by rwa [String.toList_ofList])
    · exact plain.unassigned rfl
    · exact absurd plus (by decide)
  rw [parse?_assigned whole blank solid begins flat unassigned, unread, if_neg]
  · rfl
  · rw [List.isEmpty_iff]
    exact List.ne_nil_of_mem kept

end Writing

/-- What is read as a directive is written as it. -/
theorem isWritten_of_parse? (read : parse? piece = some directive) : IsWritten piece directive := by
  obtain ⟨blanks, first, rest, whole, blank, solid, begins, flat⟩ := exists_parts read
  by_cases assigned : '=' ∈ first :: rest
  · obtain ⟨target, behind, parts, unassigned⟩ := List.eq_append_cons_of_mem assigned
    cases target with
    | nil =>
      obtain ⟨rfl, -⟩ := List.cons_eq_cons.mp parts
      exact absurd begins (by decide)
    | cons head target =>
      obtain ⟨rfl, rfl⟩ := List.cons_eq_cons.mp parts
      cases blanks with
      | nil => exact isWritten_of_assigned whole solid begins flat unassigned read
      | cons space blanks =>
        have unread := unread_of_blanks whole blank solid begins flat unassigned
        exact absurd (unread.symm.trans read) (Option.some_ne_none directive).symm
  · exact isWritten_of_unassigned whole blank solid begins flat assigned read

/-- Reading accepts exactly what is written. -/
theorem parse?_eq_some_iff : parse? piece = some directive ↔ IsWritten piece directive :=
  ⟨isWritten_of_parse?, IsWritten.reads⟩

-- a rank with a plus sign is a level behind an equals sign, but no directive
example : parse? "a=+3" = some ⟨some "a", .info⟩ ∧ parse? "+3" = none := by decide

end Directive

end ClusterGateway
