import ClusterGateway.Number.Binary64

/-!
# Reading numbers from text

Whole numbers are a sign and digits; a plus sign is allowed and so are leading zeros.
Decimals may leave out the digits on one side of the point, may carry an exponent, and
include the names of infinity and of what is no number in any case. Blanks and digit
separators are never part of a number.
-/

namespace ClusterGateway

/-- A decimal digit of ASCII. -/
def isDecimalDigit (character : Char) : Bool := '0' ≤ character && character ≤ '9'

/-- Value of a decimal digit. -/
def digitValue (character : Char) : Nat := character.toNat - '0'.toNat

/-- Value of a list of digits, most significant first. -/
def digitsValue (digits : List Char) : Nat :=
  digits.foldl (fun value digit => 10 * value + digitValue digit) 0

/-- Value of one or more digits and nothing else. -/
def allDigits? (characters : List Char) : Option Nat :=
  if characters.isEmpty || !characters.all isDecimalDigit then none
  else some (digitsValue characters)

/-- Splits off a sign; true is a minus. -/
def splitSign : List Char → Bool × List Char
  | '-' :: rest => (true, rest)
  | '+' :: rest => (false, rest)
  | rest => (false, rest)

/-- A natural number with an optional plus sign. -/
def readNat? (text : String) : Option Nat :=
  match text.toList with
  | '+' :: rest => allDigits? rest
  | characters => allDigits? characters

/-- A natural number below `2^64`. -/
def readWord? (text : String) : Option Nat :=
  (readNat? text).filter (· < twoTo 64)

/-- A whole number lies between `-2^63` and `2^63 - 1`. -/
def isLong (value : Int) : Bool :=
  -Int.ofNat (twoTo 63) ≤ value && value < Int.ofNat (twoTo 63)

/-- A whole number from `-2^63` to `2^63 - 1`. -/
def readLong? (text : String) : Option Int :=
  let (negative, digits) := splitSign text.toList
  match allDigits? digits with
  | none => none
  | some magnitude =>
    let value : Int := if negative then -(Int.ofNat magnitude) else Int.ofNat magnitude
    if isLong value then some value else none

/-- The exponent part of a decimal: nothing, or a mark, a sign and digits. -/
def readExponent? : List Char → Option Int
  | [] => some 0
  | mark :: rest =>
    if mark == 'e' || mark == 'E' then
      let (negative, digits) := splitSign rest
      (allDigits? digits).map fun value => if negative then -(Int.ofNat value) else Int.ofNat value
    else none

/-- A decimal without its sign. -/
def readMagnitude? (negative : Bool) (characters : List Char) : Option Binary64 :=
  let whole := characters.takeWhile isDecimalDigit
  let rest := characters.dropWhile isDecimalDigit
  let (fraction, rest) :=
    match rest with
    | '.' :: more => (more.takeWhile isDecimalDigit, more.dropWhile isDecimalDigit)
    | _ => ([], rest)
  if whole.isEmpty && fraction.isEmpty then none
  else
    (readExponent? rest).map fun exponent =>
      Binary64.ofDecimal negative (digitsValue (whole ++ fraction))
        (exponent - Int.ofNat fraction.length)

/-- A decimal, an infinity or what is no number. -/
def readDecimal? (text : String) : Option Binary64 :=
  let (negative, characters) := splitSign text.toList
  match String.ofList (characters.map Char.toLower) with
  | "inf" => some (.infinite negative)
  | "infinity" => some (.infinite negative)
  | "nan" => some .nan
  | _ => readMagnitude? negative characters

end ClusterGateway
