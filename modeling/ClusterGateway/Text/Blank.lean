import ClusterGateway.Text.Ranges

/-!
# Blank text

A character is blank when Unicode gives it the property White_Space; a text is
blank when all its characters are. The zero-width space and the byte order mark
are not blank.
-/

namespace ClusterGateway.Text

/-- Ranges of the Unicode property White_Space. -/
def whiteSpace : List (Nat × Nat) := [
  (0x9, 0xd), (0x20, 0x20), (0x85, 0x85), (0xa0, 0xa0), (0x1680, 0x1680), (0x2000, 0x200a),
  (0x2028, 0x2029), (0x202f, 0x202f), (0x205f, 0x205f), (0x3000, 0x3000)]

/-- A blank character has the property White_Space. -/
def isBlankChar (character : Char) : Bool := inRanges whiteSpace character.toNat

/-- A text is blank when it holds no other characters, so the empty text is blank. -/
def isBlank (text : String) : Bool := text.toList.all isBlankChar

/-- The empty text is blank. -/
theorem isBlank_empty : isBlank "" = true := by decide

end ClusterGateway.Text
