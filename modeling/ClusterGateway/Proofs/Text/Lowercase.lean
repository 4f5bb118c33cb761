import ClusterGateway.Text.Lowercase

/-!
# Lowercase texts

Taking the lowercase form of a text twice does no more than taking it once, for every text:
no small form is a capital sigma, and none has a small form other than itself. Texts of small
letters, digits and underscores are their own lowercase form. Main statement:
`lowercase_lowercase`.
-/

namespace ClusterGateway.Text

/-- A character that stays as it is, whatever stands beside it. -/
def IsSmall (character : Char) : Prop :=
  character.toNat ≠ 0x3a3 ∧ lowercaseChar character = [character]

/-- Small characters are their own lowercase form. -/
theorem lowercaseFrom_of_small {characters : List Char}
    (small : ∀ character ∈ characters, IsSmall character) (before : List Char) :
    lowercaseFrom before characters = characters := by
  induction characters generalizing before with
  | nil => rfl
  | cons character rest ih =>
    obtain ⟨plain, same⟩ := small character List.mem_cons_self
    have apart : (character.toNat == 0x3a3) = false := by simpa using plain
    rw [lowercaseFrom, apart, ih fun other there => small other (List.mem_cons_of_mem _ there)]
    simp [same]

/-- No run changes a point from `low` to `high`; where `even` holds, only those an even distance
from `low` count. -/
def CaseRun.spare (low high : Nat) (even : Bool) : List CaseRun → Bool
  | [] => true
  | run :: rest =>
    Nat.blt high run.first ||
      ((Nat.blt run.last low || (even && run.stride == 2 && (low + run.first) % 2 == 1)) &&
        spare low high even rest)

/-- A point that is spared by the runs stays as it is. -/
theorem CaseRun.apply_of_spare {low high point : Nat} {even : Bool} {runs : List CaseRun}
    (spared : spare low high even runs = true) (above : low ≤ point) (below : point ≤ high)
    (parity : even = true → (point - low) % 2 = 0) : apply runs point = point := by
  induction runs with
  | nil => rfl
  | cons run rest ih =>
    rw [apply]
    split
    · rfl
    · rename_i reached
      rw [spare, Bool.or_eq_true, Bool.and_eq_true, Bool.or_eq_true] at spared
      obtain beyond | ⟨passed, onward⟩ := spared
      · have beyond := Nat.blt_eq.mp beyond
        omega
      · rw [if_neg, ih onward]
        rw [Bool.and_eq_true, not_and, decide_eq_true_eq, beq_iff_eq]
        intro within
        obtain before | odd := passed
        · have before := Nat.blt_eq.mp before
          omega
        · rw [Bool.and_eq_true, Bool.and_eq_true, beq_iff_eq, beq_iff_eq] at odd
          obtain ⟨⟨skips, two⟩, apart⟩ := odd
          have parity := parity skips
          rw [two]
          omega

/-- The small forms of a run lie outside of all runs, and none is the dotted capital. -/
def CaseRun.settles (run : CaseRun) : Bool :=
  let low := (Int.ofNat run.first + run.shift).toNat
  let high := (Int.ofNat run.last + run.shift).toNat
  decide (0 ≤ Int.ofNat run.first + run.shift) && (Nat.blt high 0x130 || Nat.blt 0x130 low) &&
    spare low high (run.stride == 2 || low == high) lowercaseRuns

/-- The small forms of all runs lie outside of all runs. -/
theorem settles_lowercaseRuns : lowercaseRuns.all CaseRun.settles = true := by
  decide +kernel

/-- A point stays as it is, or it belongs to a run that moves it. -/
theorem CaseRun.apply_forms (runs : List CaseRun) (point : Nat) :
    apply runs point = point ∨ ∃ run ∈ runs, run.first ≤ point ∧ point ≤ run.last ∧
      (point - run.first) % run.stride = 0 ∧
      apply runs point = (Int.ofNat point + run.shift).toNat := by
  induction runs with
  | nil => exact .inl rfl
  | cons run rest ih =>
    rw [apply]
    split
    · exact .inl rfl
    · rename_i reached
      split
      · rename_i inside
        rw [Bool.and_eq_true, decide_eq_true_eq, beq_iff_eq] at inside
        exact .inr ⟨run, List.mem_cons_self, by omega, inside.1, inside.2, rfl⟩
      · obtain same | ⟨other, there, found⟩ := ih
        · exact .inl same
        · exact .inr ⟨other, List.mem_cons_of_mem _ there, found⟩

/-- The small form of a point has no small form other than itself, and it is the dotted capital
only if the point is. -/
theorem apply_apply (point : Nat) :
    CaseRun.apply lowercaseRuns (CaseRun.apply lowercaseRuns point) =
        CaseRun.apply lowercaseRuns point ∧
      (CaseRun.apply lowercaseRuns point = 0x130 → point = 0x130) := by
  obtain same | ⟨run, there, above, below, stride, moved⟩ :=
    CaseRun.apply_forms lowercaseRuns point
  · rw [same, same]
    exact ⟨rfl, id⟩
  · have settled := List.all_eq_true.mp settles_lowercaseRuns run there
    simp only [CaseRun.settles, Int.ofNat_eq_natCast, Bool.and_eq_true, Bool.or_eq_true,
      decide_eq_true_eq, Nat.blt_eq] at settled
    obtain ⟨⟨natural, dotted⟩, spared⟩ := settled
    rw [moved, Int.ofNat_eq_natCast]
    refine ⟨CaseRun.apply_of_spare spared (by omega) (by omega) fun even => ?_, by omega⟩
    rw [Bool.or_eq_true, beq_iff_eq, beq_iff_eq] at even
    obtain two | single := even
    · rw [two] at stride
      omega
    · omega

/-- What holds of the characters of all points of ASCII holds of every ASCII character. -/
theorem forall_ascii {P : Char → Prop} (all : ∀ point < 0x80, P (Char.ofNat point))
    {character : Char} (ascii : character.toNat < 0x80) : P character := by
  have this := all character.toNat ascii
  rwa [Char.ofNat_toNat] at this

/-- The small form of an ASCII character is small. -/
theorem isSmall_toLower {character : Char} (ascii : character.toNat < 0x80) :
    IsSmall character.toLower := by
  have all : ∀ point < 0x80, (Char.ofNat point).toLower.toNat ≠ 0x3a3 ∧
      lowercaseChar (Char.ofNat point).toLower = [(Char.ofNat point).toLower] := by
    decide +kernel
  exact forall_ascii (P := fun character => IsSmall character.toLower) all ascii

/-- The character of a point that the runs leave as it is is small, but for the dotted capital. -/
theorem isSmall_ofNat {point : Nat} (same : CaseRun.apply lowercaseRuns point = point)
    (dotless : point ≠ 0x130) : IsSmall (Char.ofNat point) := by
  by_cases valid : point.isValidChar
  · have number : (Char.ofNat point).toNat = point := by
      rw [Char.ofNat, dif_pos valid]
      rfl
    refine ⟨fun sigma => ?_, ?_⟩
    · rw [number] at sigma
      subst sigma
      exact absurd same (by decide +kernel)
    · rw [lowercaseChar, number, same]
      split
      · rename_i ascii
        have all : ∀ point < 0x80, CaseRun.apply lowercaseRuns point = point →
            (Char.ofNat point).toLower = Char.ofNat point := by
          decide +kernel
        rw [all point ascii same]
      · rw [if_neg (by simpa using dotless)]
  · have zero : Char.ofNat point = Char.ofNat 0 := by
      rw [Char.ofNat, dif_neg valid]
      rfl
    rw [zero]
    exact ⟨by decide, by decide⟩

/-- The small forms of a character are small. -/
theorem isSmall_of_mem_lowercaseChar {character small : Char}
    (there : small ∈ lowercaseChar character) : IsSmall small := by
  rw [lowercaseChar] at there
  split at there
  · rename_i ascii
    rw [List.mem_singleton.mp there]
    exact isSmall_toLower ascii
  · split at there
    · have parts : IsSmall 'i' ∧ IsSmall (Char.ofNat 0x307) := by
        refine ⟨⟨by decide, by decide⟩, by decide, ?_⟩
        decide +kernel
      rcases List.mem_cons.mp there with same | there
      · rw [same]
        exact parts.1
      · rw [List.mem_singleton.mp there]
        exact parts.2
    · rename_i dotless
      rw [List.mem_singleton.mp there]
      obtain ⟨same, dotted⟩ := apply_apply character.toNat
      exact isSmall_ofNat same fun found => dotless (by simpa using dotted found)

/-- The characters of a lowercase form are small. -/
theorem isSmall_of_mem_lowercaseFrom {characters : List Char} (before : List Char) :
    ∀ small ∈ lowercaseFrom before characters, IsSmall small := by
  have sigmas : IsSmall (Char.ofNat 0x3c2) ∧ IsSmall (Char.ofNat 0x3c3) := by
    refine ⟨⟨by decide, ?_⟩, by decide, ?_⟩ <;> decide +kernel
  induction characters generalizing before with
  | nil => simp [lowercaseFrom]
  | cons character rest ih =>
    intro small there
    rw [lowercaseFrom, List.mem_append] at there
    obtain here | onward := there
    · split at here
      · split at here
        · rw [List.mem_singleton.mp here]
          exact sigmas.1
        · rw [List.mem_singleton.mp here]
          exact sigmas.2
      · exact isSmall_of_mem_lowercaseChar here
    · exact ih (character :: before) small onward

/-- The lowercase form of a lowercase form is itself. -/
theorem lowercase_lowercase (text : String) : lowercase (lowercase text) = lowercase text := by
  rw [lowercase, lowercase, String.toList_ofList]
  exact congrArg String.ofList (lowercaseFrom_of_small (isSmall_of_mem_lowercaseFrom []) [])

/-- A small letter or a digit of ASCII, or an underscore. -/
def isPlainChar (character : Char) : Bool :=
  character.isLower || character.isDigit || character == '_'

/-- A text of small letters, digits and underscores is its own lowercase form. -/
theorem lowercase_of_plain {text : String} (plain : text.toList.all isPlainChar = true) :
    lowercase text = text := by
  have small : ∀ character ∈ text.toList, IsSmall character := by
    intro character there
    have here := List.all_eq_true.mp plain character there
    have all : ∀ point < 0x80, isPlainChar (Char.ofNat point) = true →
        (Char.ofNat point).toNat ≠ 0x3a3 ∧
          lowercaseChar (Char.ofNat point) = [Char.ofNat point] := by
      decide +kernel
    have ascii : character.toNat < 0x80 := by
      simp only [isPlainChar, Bool.or_eq_true, beq_iff_eq] at here
      obtain (letter | digit) | rfl := here
      · have low := of_decide_eq_true (Bool.and_eq_true_iff.mp letter).2
        exact Nat.lt_of_le_of_lt (UInt32.le_iff_toNat_le.mp low) (by decide)
      · have low := of_decide_eq_true (Bool.and_eq_true_iff.mp digit).2
        exact Nat.lt_of_le_of_lt (UInt32.le_iff_toNat_le.mp low) (by decide)
      · decide
    exact forall_ascii (P := fun character => isPlainChar character = true → IsSmall character)
      all ascii here
  rw [lowercase, lowercaseFrom_of_small small, String.ofList_toList]

end ClusterGateway.Text
