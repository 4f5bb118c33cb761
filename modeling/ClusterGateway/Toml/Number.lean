import ClusterGateway.Number.Reading
import ClusterGateway.Text.Hex
import ClusterGateway.Toml.Value

/-!
# TOML numbers

A whole number lies within signed words of 64 bits and may be written in four bases. An
underscore may stand between two digits. A fraction has digits on both sides of its point;
infinity and what is no number have names. A fraction too large for a double is refused.
-/

namespace ClusterGateway.Toml

/-- A digit of a base up to sixteen. -/
def isDigitOf (base : Nat) (character : Char) : Bool :=
  match Text.hexValue character with
  | some value => value < base
  | none => false

/-- Digits after the first one, where an underscore may stand before a digit. -/
def moreDigits (base : Nat) : List Char → List Char × List Char
  | '_' :: digit :: rest =>
    if isDigitOf base digit then
      let (digits, rest) := moreDigits base rest
      (digit :: digits, rest)
    else ([], '_' :: digit :: rest)
  | digit :: rest =>
    if isDigitOf base digit then
      let (digits, rest) := moreDigits base rest
      (digit :: digits, rest)
    else ([], digit :: rest)
  | [] => ([], [])

/-- One or more digits, without the underscores between them. -/
def readRun? (base : Nat) : List Char → Option (List Char × List Char)
  | digit :: rest =>
    if isDigitOf base digit then
      let (digits, rest) := moreDigits base rest
      some (digit :: digits, rest)
    else none
  | [] => none

/-- Value of digits of a base. -/
def valueIn (base : Nat) (digits : List Char) : Nat :=
  digits.foldl (fun value digit => base * value + (Text.hexValue digit).getD 0) 0

/-- A whole number that fits. -/
def whole? (value : Int) : Option Toml :=
  if isLong value then some (.whole value) else none

/-- A whole number of a base other than ten, after the mark of its base. -/
def readInBase? (base : Nat) (input : List Char) : Option (Toml × List Char) := do
  let (digits, rest) ← readRun? base input
  let value ← whole? (Int.ofNat (valueIn base digits))
  some (value, rest)

/-- The digits before the point: zero alone, or a number that does not start with it. -/
def readWholeRun? : List Char → Option (List Char × List Char)
  | '0' :: rest => some (['0'], rest)
  | input => readRun? 10 input

/-- Exponent of a fraction, with its mark and sign. -/
def readExponentRun? (input : List Char) : Option (List Char × List Char) :=
  let (negative, digits) := splitSign input
  (readRun? 10 digits).map fun (digits, rest) =>
    ((if negative then ['e', '-'] else ['e']) ++ digits, rest)

/-- What follows the whole digits of a fraction. -/
def readFractionTail? : List Char → Option (List Char × List Char)
  | '.' :: rest => do
    let (digits, rest) ← readRun? 10 rest
    match rest with
    | 'e' :: more => (readExponentRun? more).map fun (tail, rest) => ('.' :: digits ++ tail, rest)
    | 'E' :: more => (readExponentRun? more).map fun (tail, rest) => ('.' :: digits ++ tail, rest)
    | _ => some ('.' :: digits, rest)
  | 'e' :: rest => readExponentRun? rest
  | 'E' :: rest => readExponentRun? rest
  | _ => none

/-- A fraction continues in one of these ways. -/
def startsFraction : List Char → Bool
  | '.' :: _ => true
  | 'e' :: _ => true
  | 'E' :: _ => true
  | _ => false

/-- A decimal number without its sign. -/
def readUnsigned? (negative : Bool) (input : List Char) : Option (Toml × List Char) := do
  let (digits, rest) ← readWholeRun? input
  if startsFraction rest then
    let (tail, rest) ← readFractionTail? rest
    let value ← readDecimal? (String.ofList ((if negative then ['-'] else []) ++ digits ++ tail))
    if value == .infinite false then none else some (.decimal value, rest)
  else
    let magnitude : Int := Int.ofNat (valueIn 10 digits)
    let value ← whole? (if negative then -magnitude else magnitude)
    some (value, rest)

/-- A number or its name, after its sign. -/
def readSigned? (negative : Bool) : List Char → Option (Toml × List Char)
  | 'i' :: 'n' :: 'f' :: rest => some (.decimal (.infinite negative), rest)
  | 'n' :: 'a' :: 'n' :: rest => some (.decimal .nan, rest)
  | input => readUnsigned? negative input

/-- A number. -/
def readNumber? : List Char → Option (Toml × List Char)
  | '0' :: 'x' :: rest => readInBase? 16 rest
  | '0' :: 'o' :: rest => readInBase? 8 rest
  | '0' :: 'b' :: rest => readInBase? 2 rest
  | '+' :: rest => readSigned? false rest
  | '-' :: rest => readSigned? true rest
  | input => readSigned? false input

end ClusterGateway.Toml
