import ClusterGateway.Number.Reading
import ClusterGateway.Toml.Text

/-!
# Paths to settings

A key at the top of a layer may be a path: names joined by points, and indices in brackets
for the elements of a list. A name consists of letters, digits, underscores, blanks and
hyphens of ASCII. What is no path is a key by itself.
-/

namespace ClusterGateway

/-- A step of a path. -/
inductive PathStep where
  | child (name : String)
  /-- An element of a list; a negative index counts from the end. -/
  | element (index : Int)
deriving Repr, DecidableEq

/-- The steps of a path from the root. -/
abbrev KeyPath := List PathStep

namespace KeyPath

/-- A character of a name in a path. -/
def isNameChar (character : Char) : Bool :=
  character.isAlphanum || character == '_' || character == ' ' || character == '-'

/-- A name of a path. -/
def readName? (input : List Char) : Option (String × List Char) :=
  let name := input.takeWhile isNameChar
  if name.isEmpty then none else some (String.ofList name, input.dropWhile isNameChar)

/-- An index, after its bracket: blanks may stand around it, and a minus before it. -/
def readIndex? (input : List Char) : Option (Int × List Char) :=
  let start := Toml.skipInline input
  let (negative, digits) :=
    match start with
    | '-' :: rest => (true, rest)
    | _ => (false, start)
  match allDigits? (digits.takeWhile isDecimalDigit) with
  | none => none
  | some magnitude =>
    let index : Int := if negative then -(Int.ofNat magnitude) else Int.ofNat magnitude
    if isLong index then
      match Toml.skipInline (digits.dropWhile isDecimalDigit) with
      | ']' :: rest => some (index, rest)
      | _ => none
    else none

/-- The steps after the first name. -/
def readSteps? (fuel : Nat) (input : List Char) : Option KeyPath :=
  match fuel, input with
  | _, [] => some []
  | 0, _ => none
  | fuel + 1, '.' :: rest => do
    let (name, rest) ← readName? rest
    let steps ← readSteps? fuel rest
    some (.child name :: steps)
  | fuel + 1, '[' :: rest => do
    let (index, rest) ← readIndex? rest
    let steps ← readSteps? fuel rest
    some (.element index :: steps)
  | _, _ => none

/-- The path that a text spells, if it does. -/
def parse? (text : String) : Option KeyPath := do
  let (name, rest) ← readName? text.toList
  let steps ← readSteps? (rest.length + 1) rest
  some (.child name :: steps)

/-- The path of a key: the one it spells, or the key by itself. -/
def ofKey (key : String) : KeyPath := (parse? key).getD [.child key]

end KeyPath

end ClusterGateway
