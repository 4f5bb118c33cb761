import Mathlib.Data.List.Basic
import ClusterGateway.Text.Split

/-!
# Marks in texts

Splitting takes a text apart at each of its marks and loses nothing else, so two texts are the
same when their pieces are. A text that is joined from two parts by a mark has the pieces of
both, and one without the mark is a single piece. Whole numbers are written without any mark
but the minus sign.
-/

namespace ClusterGateway.Text

variable {mark : Char} {text : String}

/-- The mark does not stand in a text. -/
def IsFree (mark : Char) (text : String) : Prop := mark ∉ text.toList

instance : Decidable (IsFree mark text) := inferInstanceAs (Decidable (mark ∉ text.toList))

/-- A joined text is free of a mark when both of its parts are. -/
theorem isFree_append {first second : String} :
    IsFree mark (first ++ second) ↔ IsFree mark first ∧ IsFree mark second := by
  simp [IsFree]

/-- The pieces between the marks are those of the library. -/
theorem splitChars_eq_splitOn (mark : Char) (characters : List Char) :
    splitChars mark characters = characters.splitOn mark := by
  induction characters with
  | nil => rfl
  | cons character rest ih =>
    rw [splitChars, List.splitOn_cons_eq_if_modifyHead, ih]
    split
    · rfl
    · cases pieces : rest.splitOn mark with
      | nil => exact absurd pieces (List.splitOn_ne_nil mark rest)
      | cons piece more => rfl

/-- A text without the mark is one piece. -/
theorem split_of_free (free : IsFree mark text) : split mark text = [text] := by
  rw [split, splitChars_eq_splitOn, List.splitOn_eq_singleton free, List.map_singleton,
    String.ofList_toList]

/-- A text that two parts are joined to by the mark has the pieces of both. -/
theorem split_join {joint : String} (single : joint.toList = [mark]) (first second : String) :
    split mark (first ++ joint ++ second) = split mark first ++ split mark second := by
  have whole : (first ++ joint ++ second).toList = first.toList ++ mark :: second.toList := by
    simp [single]
  simp only [split, splitChars_eq_splitOn, whole, List.splitOn_append_cons_self, List.map_append]

/-- Two texts with the same pieces are the same. -/
theorem split_inj (mark : Char) {first second : String} :
    split mark first = split mark second ↔ first = second := by
  constructor
  · intro same
    have pieces : splitChars mark first.toList = splitChars mark second.toList :=
      List.map_injective_iff.mpr (fun _ _ => String.ofList_injective) same
    have characters := congrArg [mark].intercalate pieces
    rw [intercalate_splitChars, intercalate_splitChars] at characters
    exact String.toList_injective characters
  · exact congrArg (split mark)

/-- The digits of a natural number are digits. -/
theorem isFree_nat (other : mark.isDigit = false) (number : Nat) : IsFree mark number.repr := by
  intro inside
  rw [Nat.toList_repr] at inside
  have digit : mark.isDigit = true := Nat.isDigit_of_mem_toDigits (by decide) (by decide) inside
  simp [other] at digit

/-- A whole number is free of every mark but the minus sign. -/
theorem isFree_int (other : mark.isDigit = false) (unsigned : mark ≠ '-') (number : Int) :
    IsFree mark (toString number) := by
  rw [Int.toString_eq_repr, Int.repr_eq_if]
  split
  · exact isFree_nat other _
  · exact isFree_append.mpr ⟨by simpa [IsFree] using unsigned, isFree_nat other _⟩

/-- Natural numbers that are written alike are the same: their digits can be read back. -/
theorem repr_nat_inj {first second : Nat} : first.repr = second.repr ↔ first = second := by
  refine ⟨fun same => ?_, congrArg Nat.repr⟩
  have digits : Nat.toDigits 10 first = Nat.toDigits 10 second := by
    rw [← Nat.toList_repr, ← Nat.toList_repr, same]
  have read := congrArg (Nat.ofDigitChars 10 · 0) digits
  simpa only [Nat.ofDigitChars_toDigits (by decide : 1 < 10) (by decide : 10 ≤ 10)] using read

/-- Whole numbers that are written alike are the same. -/
@[simp] theorem repr_int_inj {first second : Int} : first.repr = second.repr ↔ first = second := by
  have signed (number other : Nat) : number.repr ≠ "-" ++ other.repr := by
    intro same
    have unsigned := isFree_nat (by decide : '-'.isDigit = false) number
    rw [same, isFree_append] at unsigned
    exact absurd unsigned.1 (by decide)
  rw [Int.repr_eq_if, Int.repr_eq_if]
  split <;> split
  · rw [repr_nat_inj]
    omega
  · exact ⟨fun same => absurd same (signed _ _), fun same => by omega⟩
  · exact ⟨fun same => absurd same.symm (signed _ _), fun same => by omega⟩
  · rw [String.append_right_inj, repr_nat_inj]
    omega

end ClusterGateway.Text
