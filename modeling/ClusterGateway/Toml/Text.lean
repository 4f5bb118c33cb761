import ClusterGateway.Text.Hex

/-!
# TOML texts

A text stands between quotation marks, where a backslash escapes, or between apostrophes,
where nothing does. Three marks in a row open a text of several lines, which a line break
right after them does not belong to; its line breaks are single line feeds, however they
are written. Of controls only the tab may stand in a text.
-/

namespace ClusterGateway.Toml

/-- A blank within a line. -/
def isInlineBlank (character : Char) : Bool := character == ' ' || character == '\t'

/-- Drops blanks within a line. -/
def skipInline (input : List Char) : List Char := input.dropWhile isInlineBlank

/-- A character that may stand in a text or a comment as it is. -/
def isPlain (character : Char) : Bool :=
  character == '\t' || (0x20 ≤ character.toNat && character.toNat != 0x7f)

/-- Passes over a line break. -/
def lineBreak? : List Char → Option (List Char)
  | '\n' :: rest => some rest
  | '\r' :: '\n' :: rest => some rest
  | _ => none

/-- Drops blanks and line breaks. -/
def skipLines : List Char → List Char
  | '\n' :: rest => skipLines rest
  | '\r' :: '\n' :: rest => skipLines rest
  | ' ' :: rest => skipLines rest
  | '\t' :: rest => skipLines rest
  | rest => rest

/-- The character of a number of hexadecimal digits. -/
def readCodePoint? (count : Nat) (input : List Char) : Option (Char × List Char) := do
  let digits := input.take count
  let values ← digits.mapM Text.hexValue
  let point := values.foldl (fun value digit => 16 * value + digit) 0
  if digits.length == count && point.isValidChar then
    some (Char.ofNat point, input.drop count)
  else none

/-- The character of an escape, after its backslash. -/
def readEscape? : List Char → Option (Char × List Char)
  | 'b' :: rest => some (Char.ofNat 8, rest)
  | 't' :: rest => some ('\t', rest)
  | 'n' :: rest => some ('\n', rest)
  | 'f' :: rest => some (Char.ofNat 12, rest)
  | 'r' :: rest => some ('\r', rest)
  | '"' :: rest => some ('"', rest)
  | '\\' :: rest => some ('\\', rest)
  | 'u' :: rest => readCodePoint? 4 rest
  | 'U' :: rest => readCodePoint? 8 rest
  | _ => none

/-- The text of one line up to its quotation mark; `seen` is what came before, in reverse. -/
def readLine? (fuel : Nat) (seen : List Char) (input : List Char) :
    Option (String × List Char) :=
  match fuel, input with
  | 0, _ => none
  | _, [] => none
  | fuel + 1, character :: rest =>
    if character == '"' then some (String.ofList seen.reverse, rest)
    else if character == '\\' then do
      let (escaped, rest) ← readEscape? rest
      readLine? fuel (escaped :: seen) rest
    else if isPlain character then readLine? fuel (character :: seen) rest
    else none

/-- The literal text of one line up to its apostrophe. -/
def readLiteral? (seen : List Char) : List Char → Option (String × List Char)
  | [] => none
  | character :: rest =>
    if character == '\'' then some (String.ofList seen.reverse, rest)
    else if isPlain character then readLiteral? (character :: seen) rest
    else none

/-- The end of a text of several lines: three marks, with up to two more before them that
belong to the text. -/
def closing? (mark : Char) (input : List Char) : Option (List Char × List Char) :=
  let marks := (input.takeWhile (· == mark)).length
  if marks < 3 then none
  else
    let kept := min (marks - 3) 2
    some (List.replicate kept mark, input.drop (kept + 3))

/-- A backslash at the end of a line takes the line break with it, and all blanks and line
breaks after that. -/
def continuation? (input : List Char) : Option (List Char) :=
  (lineBreak? (skipInline input)).map skipLines

/-- The text of several lines up to its marks. -/
def readLines? (fuel : Nat) (seen : List Char) (input : List Char) :
    Option (String × List Char) :=
  match fuel, input with
  | 0, _ => none
  | _, [] => none
  | fuel + 1, character :: rest =>
    match closing? '"' (character :: rest) with
    | some (kept, rest) => some (String.ofList (seen.reverse ++ kept), rest)
    | none =>
      if character == '\\' then
        match continuation? rest with
        | some rest => readLines? fuel seen rest
        | none => do
          let (escaped, rest) ← readEscape? rest
          readLines? fuel (escaped :: seen) rest
      else if isPlain character then readLines? fuel (character :: seen) rest
      else
        match lineBreak? (character :: rest) with
        | some rest => readLines? fuel ('\n' :: seen) rest
        | none => none

/-- The literal text of several lines up to its marks. -/
def readLiteralLines? (fuel : Nat) (seen : List Char) (input : List Char) :
    Option (String × List Char) :=
  match fuel, input with
  | 0, _ => none
  | _, [] => none
  | fuel + 1, character :: rest =>
    match closing? '\'' (character :: rest) with
    | some (kept, rest) => some (String.ofList (seen.reverse ++ kept), rest)
    | none =>
      if isPlain character then readLiteralLines? fuel (character :: seen) rest
      else
        match lineBreak? (character :: rest) with
        | some rest => readLiteralLines? fuel ('\n' :: seen) rest
        | none => none

/-- Drops one line break, if there is one. -/
def skipLineBreak (input : List Char) : List Char := (lineBreak? input).getD input

/-- A text of either kind and of one line or several. -/
def readText? : List Char → Option (String × List Char)
  | '"' :: '"' :: '"' :: rest => readLines? (rest.length + 1) [] (skipLineBreak rest)
  | '"' :: rest => readLine? (rest.length + 1) [] rest
  | '\'' :: '\'' :: '\'' :: rest => readLiteralLines? (rest.length + 1) [] (skipLineBreak rest)
  | '\'' :: rest => readLiteral? [] rest
  | _ => none

end ClusterGateway.Toml
