import ClusterGateway.Toml.Moment
import ClusterGateway.Toml.Number
import ClusterGateway.Toml.Text
import ClusterGateway.Toml.Tree

/-!
# TOML documents

A document is a sequence of lines: a key with its value, a header, a comment, or nothing.
A byte order mark may stand before it. Lists run over several lines and may end in a
comma; a table in braces stays on one line. Values nest less than eighty deep, and a
dotted key has fewer than eighty parts.
-/

namespace ClusterGateway.Toml

/-- The deepest nesting that is refused. -/
def nestingLimit : Nat := 80

/-- A character of a key without quotes. -/
def isBareKeyChar (character : Char) : Bool := character.isAlphanum || character == '_' || character == '-'

/-- One part of a key. -/
def readKeyPart? (input : List Char) : Option (String × List Char) :=
  match input with
  | '"' :: rest => readLine? (rest.length + 1) [] rest
  | '\'' :: rest => readLiteral? [] rest
  | _ =>
    let bare := input.takeWhile isBareKeyChar
    if bare.isEmpty then none else some (String.ofList bare, input.dropWhile isBareKeyChar)

/-- The parts of a dotted key, blanks around each of them. -/
def readKeyParts? (fuel : Nat) (input : List Char) : Option (List String × List Char) :=
  match fuel with
  | 0 => none
  | fuel + 1 => do
    let (part, rest) ← readKeyPart? (skipInline input)
    match skipInline rest with
    | '.' :: rest => do
      let (parts, rest) ← readKeyParts? fuel rest
      some (part :: parts, rest)
    | rest => some ([part], rest)

/-- A dotted key as the path to its table and its last part. -/
def readKey? (input : List Char) : Option ((List String × String) × List Char) := do
  let (parts, rest) ← readKeyParts? (input.length + 1) input
  if nestingLimit ≤ parts.length then none
  else
    let last ← parts.getLast?
    some ((parts.dropLast, last), rest)

/-- Drops a comment; what it holds must be plain. -/
def skipComment : List Char → List Char
  | '#' :: rest => rest.dropWhile isPlain
  | rest => rest

/-- The end of a line: blanks, a comment, and a line break or the end of the document. -/
def endOfLine? (input : List Char) : Option (List Char) :=
  match skipComment (skipInline input) with
  | [] => some []
  | rest => lineBreak? rest

/-- Drops blanks, comments and line breaks. -/
def skipGaps (fuel : Nat) (input : List Char) : List Char :=
  match fuel with
  | 0 => input
  | fuel + 1 =>
    let rest := skipComment (skipInline input)
    match lineBreak? rest with
    | some rest => skipGaps fuel rest
    | none => rest

/-- Drops blanks, comments and line breaks, as many as there are. -/
def skipAllGaps (input : List Char) : List Char := skipGaps (input.length + 1) input

mutual

/-- One value at a depth. -/
def readValue? (fuel depth : Nat) (input : List Char) : Option (Toml × List Char) :=
  match fuel with
  | 0 => none
  | fuel + 1 =>
    match input with
    | 't' :: 'r' :: 'u' :: 'e' :: rest => some (.flag true, rest)
    | 'f' :: 'a' :: 'l' :: 's' :: 'e' :: rest => some (.flag false, rest)
    | '[' :: rest =>
      if nestingLimit ≤ depth + 1 then none else readElements? fuel (depth + 1) [] rest
    | '\x7b' :: rest =>
      if nestingLimit ≤ depth + 1 then none
      else
        match skipInline rest with
        | '\x7d' :: rest => some (.table [], rest)
        | rest => readEntries? fuel (depth + 1) [] rest
    | '"' :: _ => (readText? input).map fun (read, rest) => (.text read, rest)
    | '\'' :: _ => (readText? input).map fun (read, rest) => (.text read, rest)
    | _ =>
      match readMoment? input with
      | some (moment, rest) => some (.text moment, rest)
      | none => readNumber? input

/-- The elements of a list up to its bracket; `seen` is in reverse. -/
def readElements? (fuel depth : Nat) (seen : List Toml) (input : List Char) :
    Option (Toml × List Char) :=
  match fuel with
  | 0 => none
  | fuel + 1 =>
    match skipAllGaps input with
    | ']' :: rest => some (.list seen.reverse, rest)
    | start => do
      let (element, rest) ← readValue? fuel depth start
      match skipAllGaps rest with
      | ',' :: rest => readElements? fuel depth (element :: seen) rest
      | ']' :: rest => some (.list (element :: seen).reverse, rest)
      | _ => none

/-- The entries of a table in braces. -/
def readEntries? (fuel depth : Nat) (seen : Entries) (input : List Char) :
    Option (Toml × List Char) :=
  match fuel with
  | 0 => none
  | fuel + 1 => do
    let ((path, last), rest) ← readKey? input
    let rest ← passOver? '=' rest
    let (value, rest) ← readValue? fuel depth (skipInline rest)
    let entries ← setDotted? last value path seen
    match skipInline rest with
    | ',' :: rest => readEntries? fuel depth entries rest
    | '\x7d' :: rest => some (.table (buildEntries entries), rest)
    | _ => none

end

/-- A document that has been read in part: its tables, and the path of the last header. -/
structure Draft where
  entries : Entries
  current : List String

/-- A line with a key and its value. -/
def readAssignment? (draft : Draft) (input : List Char) : Option (Draft × List Char) := do
  let ((path, last), rest) ← readKey? input
  let rest ← passOver? '=' rest
  let start := skipInline rest
  let (value, rest) ← readValue? (2 * start.length + 2) 0 start
  let rest ← endOfLine? rest
  let entries ← onTable? (setDotted? last value path) draft.current draft.entries
  some ({ draft with entries := entries }, rest)

/-- The header of a table, after its bracket. -/
def readHeader? (draft : Draft) (input : List Char) : Option (Draft × List Char) := do
  let ((path, last), rest) ← readKey? input
  let rest ← passOver? ']' rest
  let rest ← endOfLine? rest
  let entries ← onTable? (openTable? last) path draft.entries
  some (⟨entries, path ++ [last]⟩, rest)

/-- The header of an element of a list of tables, after its brackets. -/
def readElementHeader? (draft : Draft) (input : List Char) : Option (Draft × List Char) := do
  let ((path, last), rest) ← readKey? input
  let rest ← passOver? ']' rest
  let rest ← passOver? ']' rest
  let rest ← endOfLine? rest
  let entries ← onTable? (openElement? last) path draft.entries
  some (⟨entries, path ++ [last]⟩, rest)

/-- One line of a document that is not empty. -/
def readDocumentLine? (draft : Draft) : List Char → Option (Draft × List Char)
  | '[' :: '[' :: rest => readElementHeader? draft rest
  | '[' :: rest => readHeader? draft rest
  | input =>
    match endOfLine? input with
    | some rest => some (draft, rest)
    | none => readAssignment? draft input

/-- All lines of a document. -/
def readDocument? (fuel : Nat) (draft : Draft) (input : List Char) : Option Draft :=
  match fuel with
  | 0 => none
  | fuel + 1 =>
    match skipInline input with
    | [] => some draft
    | start => do
      let (draft, rest) ← readDocumentLine? draft start
      readDocument? fuel draft rest

/-- Drops a byte order mark. -/
def skipMark : List Char → List Char
  | character :: rest => if character.toNat == 0xfeff then rest else character :: rest
  | [] => []

/-- The table of a document, or none if it is malformed. -/
def parse? (text : String) : Option (List (String × Toml)) :=
  let input := skipMark text.toList
  (readDocument? (input.length + 1) ⟨[], []⟩ input).map fun draft => buildEntries draft.entries

end ClusterGateway.Toml
