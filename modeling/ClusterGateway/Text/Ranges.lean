/-!
# Sets of code points

A set of code points is an ascending list of closed ranges. Membership stops at
the first range that reaches the point, so a test costs no more than the part of
the list below it.
-/

namespace ClusterGateway.Text

/-- A point belongs to an ascending list of ranges exactly when one of them holds it. -/
def inRanges : List (Nat × Nat) → Nat → Bool
  | [], _ => false
  | (low, high) :: rest, point =>
    if point < low then false
    else if point ≤ high then true
    else inRanges rest point

/-- Membership always names a range that holds the point. -/
theorem exists_range_of_inRanges {ranges : List (Nat × Nat)} {point : Nat}
    (member : inRanges ranges point = true) :
    ∃ range ∈ ranges, range.1 ≤ point ∧ point ≤ range.2 := by
  induction ranges with
  | nil => simp [inRanges] at member
  | cons range rest ih =>
    obtain ⟨low, high⟩ := range
    unfold inRanges at member
    split at member
    · simp at member
    · split at member
      · exact ⟨(low, high), by simp, by simp only; omega⟩
      · obtain ⟨found, inside, bounds⟩ := ih member
        exact ⟨found, by simp [inside], bounds⟩

end ClusterGateway.Text
