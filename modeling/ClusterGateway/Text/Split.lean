/-!
# Splitting text

A text is split at every occurrence of a mark, so there is one piece more than there are
marks, and joining the pieces by the mark gives the text back.
-/

namespace ClusterGateway.Text

/-- Pieces of a list of characters between the marks. -/
def splitChars (mark : Char) : List Char → List (List Char)
  | [] => [[]]
  | character :: rest =>
    if character == mark then [] :: splitChars mark rest
    else
      match splitChars mark rest with
      | [] => [[character]]
      | piece :: pieces => (character :: piece) :: pieces

/-- Pieces of a text between the marks. -/
def split (mark : Char) (text : String) : List String :=
  (splitChars mark text.toList).map String.ofList

/-- There is always a piece. -/
theorem splitChars_ne_nil (mark : Char) (characters : List Char) :
    splitChars mark characters ≠ [] := by
  induction characters with
  | nil => simp [splitChars]
  | cons character rest ih =>
    unfold splitChars
    split
    · simp
    · split <;> simp

/-- Joining the pieces by the mark gives the characters back. -/
theorem intercalate_splitChars (mark : Char) (characters : List Char) :
    [mark].intercalate (splitChars mark characters) = characters := by
  induction characters with
  | nil => rfl
  | cons character rest ih =>
    unfold splitChars
    split
    · rename_i same
      have equal : character = mark := by simpa using same
      subst equal
      cases pieces : splitChars character rest with
      | nil => exact absurd pieces (splitChars_ne_nil character rest)
      | cons piece more =>
        rw [pieces] at ih
        simpa [List.intercalate, List.intersperse] using ih
    · cases pieces : splitChars mark rest with
      | nil => exact absurd pieces (splitChars_ne_nil mark rest)
      | cons piece more =>
        rw [pieces] at ih
        cases more with
        | nil => simpa [List.intercalate, List.intersperse] using ih
        | cons next others => simpa [List.intercalate, List.intersperse] using ih

end ClusterGateway.Text
