import ClusterGateway.Ack
import ClusterGateway.Proofs.Text.Marks

/-!
# Acknowledgements and their parameters

Request parameters build an acknowledgement when they fit together, and the acknowledgement gives
them back; one that was built from anything else is built from what it gives back as well. Its
text tells it from all others, built or not. Main statement: `parameters_determine`.
-/

namespace ClusterGateway.Ack

/-- Parameters fit together if both are left out, or both are given and neither is negative. -/
inductive Fits : Option Int32 → Option Int64 → Prop
  | absent : Fits .none .none
  | given {partition : Int32} {offset : Int64} (inside : 0 ≤ partition) (counted : 0 ≤ offset) :
    Fits (some partition) (some offset)

/-- The acknowledgements that requests are built with: all but those that a constructor alone
makes. -/
inductive Built : Ack → Prop
  | auto : Built .auto
  | checked {partition : Int32} {offset : Int64} {ack : Ack}
    (made : Ack.checked partition offset = .ok ack) : Built ack
  | parameters {refuse : Bool} {partition : Option Int32} {offset : Option Int64} {ack : Ack}
    (made : ofParameters refuse partition offset = .ok ack) : Built ack

variable {ack first second : Ack} {refuse : Bool}

/-- A checked acknowledgement has the partition and the offset that it was asked for, and neither
is negative. -/
theorem checked_eq_ok_iff {partition : Int32} {offset : Int64} :
    checked partition offset = .ok ack ↔
      0 ≤ partition ∧ 0 ≤ offset ∧ explicit partition offset = ack := by
  rw [checked]
  split
  · rename_i negative
    have outside : ¬ 0 ≤ partition := Int32.not_le.mpr negative
    simp [outside]
  · rename_i inside
    split
    · rename_i negative
      have uncounted : ¬ 0 ≤ offset := Int64.not_le.mpr negative
      simp [uncounted]
    · rename_i counted
      simp [Int32.not_lt.mp inside, Int64.not_lt.mp counted]

/-- Where both parameters are given, they are checked. -/
theorem ofParameters_given (partition : Int32) (offset : Int64) :
    ofParameters false (some partition) (some offset) = checked partition offset := by
  simp [ofParameters]

/-- Parameters that do not refuse build the one acknowledgement, other than none, that gives them
back, exactly if they fit together. -/
theorem ofParameters_eq_ok_iff {partition : Option Int32} {offset : Option Int64} :
    ofParameters false partition offset = .ok ack ↔
      Fits partition offset ∧ ack ≠ none ∧ ack.partition? = partition ∧ ack.offset? = offset := by
  cases partition with
  | none =>
    cases offset with
    | none => cases ack <;> simp [ofParameters, partition?, offset?, Fits.absent]
    | some offset =>
      have apart : ¬ Fits .none (some offset) := by rintro ⟨⟩
      simp [ofParameters, apart]
  | some partition =>
    cases offset with
    | none =>
      have apart : ¬ Fits (some partition) .none := by rintro ⟨⟩
      simp [ofParameters, apart]
    | some offset =>
      have fits : Fits (some partition) (some offset) ↔ 0 ≤ partition ∧ 0 ≤ offset := by
        refine ⟨fun fits => ?_, fun both => .given both.1 both.2⟩
        cases fits with
        | given inside counted => exact ⟨inside, counted⟩
      rw [fits, ofParameters_given, checked_eq_ok_iff, and_assoc]
      refine and_congr_right' (and_congr_right' ?_)
      cases ack <;> simp [partition?, offset?, eq_comm]

/-- What was built gives back parameters that fit together, if it acknowledges anything. -/
theorem Built.fits (built : Built ack) (acknowledges : ack ≠ none) :
    Fits ack.partition? ack.offset? := by
  cases built with
  | auto => exact .absent
  | checked made =>
    obtain ⟨inside, counted, rfl⟩ := checked_eq_ok_iff.mp made
    exact .given inside counted
  | @parameters refuse _ _ _ made =>
    cases refuse with
    | true => exact absurd (Except.ok.inj made).symm acknowledges
    | false =>
      obtain ⟨fits, -, rfl, rfl⟩ := ofParameters_eq_ok_iff.mp made
      exact fits

/-- The parts of the text of an acknowledgement: two of an explicit one, one of the others. -/
def parts : Ack → List String
  | .none => ["no-ack"]
  | .auto => ["auto-ack"]
  | .explicit partition offset =>
    ["ack(" ++ toString partition.toInt, toString offset.toInt ++ ")"]

/-- The text of an acknowledgement falls into its parts at the colon. -/
theorem split_text (ack : Ack) : Text.split ':' ack.text = ack.parts := by
  cases ack with
  | none => exact Text.split_of_free (by decide)
  | auto => exact Text.split_of_free (by decide)
  | explicit partition offset =>
    have left : Text.IsFree ':' ("ack(" ++ toString partition.toInt) :=
      Text.isFree_append.mpr ⟨by decide, Text.isFree_int (by decide) (by decide) _⟩
    have right : Text.IsFree ':' (toString offset.toInt ++ ")") :=
      Text.isFree_append.mpr ⟨Text.isFree_int (by decide) (by decide) _, by decide⟩
    have whole : (explicit partition offset).text =
        "ack(" ++ toString partition.toInt ++ ":" ++ (toString offset.toInt ++ ")") :=
      String.append_assoc
    rw [whole, Text.split_join rfl, Text.split_of_free left, Text.split_of_free right]
    rfl

/-- Acknowledgements are told apart by their texts. -/
theorem text_inj : first.text = second.text ↔ first = second := by
  rw [← Text.split_inj ':', split_text, split_text]
  cases first <;> cases second <;>
    simp [parts, String.append_right_inj, String.append_left_inj, Int32.toInt_inj,
      Int64.toInt_inj]

/-- Parameters that do not refuse build an acknowledgement exactly if they fit together, and it
gives them back. Every acknowledgement that was built and is not none is built from what it gives
back; a refusal always builds none; and acknowledgements, built or not, are shown alike only if they
are the same. -/
theorem parameters_determine :
    (∀ partition offset,
      ((∃ ack, ofParameters false partition offset = .ok ack) ↔ Fits partition offset) ∧
      ∀ ack, ofParameters false partition offset = .ok ack →
        ack.partition? = partition ∧ ack.offset? = offset) ∧
    (∀ ack, Built ack → ack ≠ none → ofParameters false ack.partition? ack.offset? = .ok ack) ∧
    (∀ partition offset, ofParameters true partition offset = .ok none) ∧
    (∀ first second : Ack, first.text = second.text ↔ first = second) := by
  refine ⟨fun partition offset => ⟨⟨?_, ?_⟩, ?_⟩, ?_, ?_, fun _ _ => text_inj⟩
  · rintro ⟨ack, made⟩
    exact (ofParameters_eq_ok_iff.mp made).1
  · intro fits
    cases fits with
    | absent => exact ⟨auto, by simp [ofParameters]⟩
    | given inside counted =>
      rw [ofParameters_given]
      exact ⟨_, checked_eq_ok_iff.mpr ⟨inside, counted, rfl⟩⟩
  · intro ack made
    exact (ofParameters_eq_ok_iff.mp made).2.2
  · intro ack built acknowledges
    exact ofParameters_eq_ok_iff.mpr ⟨built.fits acknowledges, acknowledges, rfl, rfl⟩
  · intro partition offset
    simp [ofParameters]

/-- The greatest partition and offset that can be given, as parameters and back. -/
theorem parameters_determine_greatest :
    (ofParameters false (some 2147483647) (some 9223372036854775807) =
      .ok (explicit 2147483647 9223372036854775807)) ∧
    ((explicit 2147483647 9223372036854775807).partition? = some 2147483647 ∧
      (explicit 2147483647 9223372036854775807).offset? = some 9223372036854775807) ∧
    ofParameters false (explicit 2147483647 9223372036854775807).partition?
      (explicit 2147483647 9223372036854775807).offset? =
        .ok (explicit 2147483647 9223372036854775807) := by
  have made : ofParameters false (some 2147483647) (some 9223372036854775807) =
      .ok (explicit 2147483647 9223372036854775807) := by decide
  obtain ⟨forward, backward, -⟩ := parameters_determine
  exact ⟨made, (forward _ _).2 _ made, backward _ (.parameters made) (by decide)⟩

end ClusterGateway.Ack
