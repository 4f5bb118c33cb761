import ClusterGateway.Association
import ClusterGateway.Json.Value
import ClusterGateway.Number.Reading
import ClusterGateway.Text.Hex

/-!
# Reading JSON

A document is one value between blanks, nested less than 128 deep. A later member with a
key that the object already has replaces the earlier one. A whole number outside the
range of signed and unsigned words, and a negative zero, read as fractions. The digits of
a fraction are gathered in one word, later ones are dropped when it is full; the word is
then multiplied or divided by a power of ten, each step rounded, and a result that is
infinite is refused.
-/

namespace ClusterGateway.Json

/-- The deepest nesting that is refused. -/
def depthLimit : Nat := 128

/-- Drops the blanks of JSON. -/
def skipBlank (input : List Char) : List Char :=
  input.dropWhile fun character =>
    character == ' ' || character == '\n' || character == '\t' || character == '\r'

/-- The code unit of four hexadecimal digits. -/
def readUnit? : List Char → Option (Nat × List Char)
  | a :: b :: c :: d :: rest => do
    let a ← Text.hexValue a
    let b ← Text.hexValue b
    let c ← Text.hexValue c
    let d ← Text.hexValue d
    some (4096 * a + 256 * b + 16 * c + d, rest)
  | _ => none

/-- The character after the mark of a numeric escape; two units stand for one character
beyond the basic plane, and a unit of such a pair is refused alone. -/
def readUnitEscape? (input : List Char) : Option (Char × List Char) := do
  let (unit, rest) ← readUnit? input
  if unit < 0xd800 || 0xe000 ≤ unit then some (Char.ofNat unit, rest)
  else if 0xdc00 ≤ unit then none
  else
    match rest with
    | '\\' :: 'u' :: more => do
      let (second, rest) ← readUnit? more
      if 0xdc00 ≤ second && second < 0xe000 then
        some (Char.ofNat (0x10000 + (unit - 0xd800) * 0x400 + (second - 0xdc00)), rest)
      else none
    | _ => none

/-- The character of an escape, after its backslash. -/
def readEscape? : List Char → Option (Char × List Char)
  | '"' :: rest => some ('"', rest)
  | '\\' :: rest => some ('\\', rest)
  | '/' :: rest => some ('/', rest)
  | 'b' :: rest => some (Char.ofNat 8, rest)
  | 'f' :: rest => some (Char.ofNat 12, rest)
  | 'n' :: rest => some ('\n', rest)
  | 'r' :: rest => some ('\r', rest)
  | 't' :: rest => some ('\t', rest)
  | 'u' :: rest => readUnitEscape? rest
  | _ => none

/-- The text up to its closing quote; `seen` is what came before, in reverse. -/
def readText? (fuel : Nat) (seen : List Char) (input : List Char) :
    Option (String × List Char) :=
  match fuel, input with
  | 0, _ => none
  | _, [] => none
  | fuel + 1, character :: rest =>
    if character == '"' then some (String.ofList seen.reverse, rest)
    else if character == '\\' then do
      let (escaped, rest) ← readEscape? rest
      readText? fuel (escaped :: seen) rest
    else if character.toNat < 0x20 then none
    else readText? fuel (character :: seen) rest

/-- Takes digits into a word while it has room for them: the word, how many were taken,
and the digits left over. -/
def gatherDigits (word taken : Nat) : List Char → Nat × Nat × List Char
  | [] => (word, taken, [])
  | digit :: rest =>
    if 10 * word + digitValue digit < twoTo 64 then
      gatherDigits (10 * word + digitValue digit) (taken + 1) rest
    else (word, taken, digit :: rest)

/-- A word times a power of ten in rounded steps of at most `10^308`. -/
def scaleWord (fuel : Nat) (value : Binary64) (exponent : Int) : Option Binary64 :=
  match fuel with
  | 0 => none
  | fuel + 1 =>
    if exponent.natAbs ≤ 308 then
      let power := Binary64.ofDecimal false 1 (Int.ofNat exponent.natAbs)
      if 0 ≤ exponent then
        match value.mul power with
        | .infinite _ => none
        | scaled => some scaled
      else some (value.div power)
    else if value.isZero then some value
    else if 0 ≤ exponent then none
    else scaleWord fuel (value.div (Binary64.ofDecimal false 1 308)) (exponent + 308)

/-- A fraction from its whole digits, its decimals and its exponent. -/
def fraction? (negative : Bool) (whole decimals : List Char) (exponent : Int) :
    Option Binary64 :=
  let (word, _, droppedWhole) := gatherDigits 0 0 whole
  let (word, taken, _) := gatherDigits word 0 decimals
  let exponent := exponent + Int.ofNat droppedWhole.length - Int.ofNat taken
  if word == 0 && twoTo 31 ≤ exponent.natAbs then some (Binary64.zero negative)
  else if exponent < -(1000 : Int) - 308 then some (Binary64.zero negative)
  else (scaleWord 8 (Binary64.ofNat word) exponent).map (Binary64.withSign negative)

/-- A number without its sign. -/
def readNumber? (negative : Bool) (input : List Char) : Option (Json × List Char) :=
  let whole := input.takeWhile isDecimalDigit
  let rest := input.dropWhile isDecimalDigit
  if whole.isEmpty || (whole.head? == some '0' && 1 < whole.length) then none
  else
    let plain (rest : List Char) : Option (Json × List Char) :=
      let magnitude := digitsValue whole
      if negative then
        if magnitude == 0 then some (.float (Binary64.zero true), rest)
        else if magnitude ≤ twoTo 63 then some (.int (-(Int.ofNat magnitude)), rest)
        else (fraction? true whole [] 0).map fun value => (.float value, rest)
      else if magnitude < twoTo 64 then some (.int (Int.ofNat magnitude), rest)
      else (fraction? false whole [] 0).map fun value => (.float value, rest)
    let withExponent (decimals rest : List Char) : Option (Json × List Char) :=
      let (negativeExponent, digits) := splitSign rest
      let exponent := digits.takeWhile isDecimalDigit
      if exponent.isEmpty then none
      else
        let size : Int := Int.ofNat (digitsValue exponent)
        (fraction? negative whole decimals (if negativeExponent then -size else size)).map
          fun value => (.float value, digits.dropWhile isDecimalDigit)
    match rest with
    | '.' :: more =>
      let decimals := more.takeWhile isDecimalDigit
      let after := more.dropWhile isDecimalDigit
      if decimals.isEmpty then none
      else
        match after with
        | 'e' :: more => withExponent decimals more
        | 'E' :: more => withExponent decimals more
        | _ => (fraction? negative whole decimals 0).map fun value => (.float value, after)
    | 'e' :: more => withExponent [] more
    | 'E' :: more => withExponent [] more
    | _ => plain rest

mutual

/-- One value at the given depth; the input starts with it. -/
def readValue? (fuel depth : Nat) (input : List Char) : Option (Json × List Char) :=
  match fuel with
  | 0 => none
  | fuel + 1 =>
    match input with
    | 'n' :: 'u' :: 'l' :: 'l' :: rest => some (.null, rest)
    | 't' :: 'r' :: 'u' :: 'e' :: rest => some (.bool true, rest)
    | 'f' :: 'a' :: 'l' :: 's' :: 'e' :: rest => some (.bool false, rest)
    | '"' :: rest => (readText? (rest.length + 1) [] rest).map fun (text, rest) => (.str text, rest)
    | '-' :: rest => readNumber? true rest
    | '[' :: rest =>
      if depthLimit ≤ depth + 1 then none
      else
        match skipBlank rest with
        | ']' :: rest => some (.arr [], rest)
        | rest => readElements? fuel (depth + 1) [] rest
    | '\x7b' :: rest =>
      if depthLimit ≤ depth + 1 then none
      else
        match skipBlank rest with
        | '\x7d' :: rest => some (.obj [], rest)
        | rest => readMembers? fuel (depth + 1) [] rest
    | _ => readNumber? false input

/-- The elements of an array up to its closing bracket; `seen` is in reverse. -/
def readElements? (fuel depth : Nat) (seen : List Json) (input : List Char) :
    Option (Json × List Char) :=
  match fuel with
  | 0 => none
  | fuel + 1 => do
    let (element, rest) ← readValue? fuel depth (skipBlank input)
    match skipBlank rest with
    | ',' :: rest => readElements? fuel depth (element :: seen) rest
    | ']' :: rest => some (.arr (element :: seen).reverse, rest)
    | _ => none

/-- The members of an object up to its closing brace. -/
def readMembers? (fuel depth : Nat) (seen : List (String × Json)) (input : List Char) :
    Option (Json × List Char) :=
  match fuel with
  | 0 => none
  | fuel + 1 =>
    match skipBlank input with
    | '"' :: rest => do
      let (key, rest) ← readText? (rest.length + 1) [] rest
      match skipBlank rest with
      | ':' :: rest => do
        let (value, rest) ← readValue? fuel depth (skipBlank rest)
        let members := assign key value seen
        match skipBlank rest with
        | ',' :: rest => readMembers? fuel depth members rest
        | '\x7d' :: rest => some (.obj members, rest)
        | _ => none
      | _ => none
    | _ => none

end

/-- The value of a document, or none if it is malformed. -/
def parse? (text : String) : Option Json :=
  let input := skipBlank text.toList
  match readValue? (2 * input.length + 2) 0 input with
  | some (value, rest) => if (skipBlank rest).isEmpty then some value else none
  | none => none

end ClusterGateway.Json
