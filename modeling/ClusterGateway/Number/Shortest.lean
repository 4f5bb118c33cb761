import ClusterGateway.Number.Binary64

/-!
# Shortest decimal text of a double

The digits written for a finite double are the fewest that read back as the same double;
of several such decimals the one nearest to the value, and of two equally near the
greater. The grid of `count` significant digits is tried for growing counts: if any of
its points reads back, one of the two neighbours of the value does. The text is always
positional, without an exponent and without a point where no digit follows it.
-/

namespace ClusterGateway.Binary64

/-- Decimal places before the point of a positive quotient: the least `places` with the
quotient below `10^places`, where `fuel` bounds the search below one. -/
def placesBelow (fuel numerator denominator : Nat) : Int :=
  match fuel with
  | 0 => 0
  | fuel + 1 =>
    if denominator ≤ numerator * 10 then 0
    else placesBelow fuel (numerator * 10) denominator - 1

/-- Decimal places before the point; negative where zeros follow the point. -/
def places (numerator denominator : Nat) : Int :=
  if denominator ≤ numerator then Int.ofNat (decimalLength (numerator / denominator))
  else placesBelow 400 numerator denominator

/-- A decimal reads back as the value of this significand and exponent. -/
def readsBack (significand : Nat) (exponent : Int) (digits : Nat) (power : Int) : Bool :=
  ofDecimal false digits power == .finite false significand exponent

/-- The nearer readable neighbour on the grid of `count` digits, if there is one. -/
def gridPoint (significand : Nat) (exponent : Int) (count : Nat) : Option (Nat × Int) :=
  let value := ratio significand exponent
  let power := places value.1 value.2 - Int.ofNat count
  let scaled :=
    if power < 0 then (value.1 * tenTo (-power).toNat, value.2)
    else (value.1, value.2 * tenTo power.toNat)
  let below := scaled.1 / scaled.2
  let remainder := scaled.1 % scaled.2
  if remainder == 0 then some (below, power)
  else
    let lowReads := readsBack significand exponent below power
    let highReads := readsBack significand exponent (below + 1) power
    if lowReads && highReads then
      some (if 2 * remainder < scaled.2 then below else below + 1, power)
    else if lowReads then some (below, power)
    else if highReads then some (below + 1, power)
    else none

/-- The first grid with a readable neighbour, from `count` digits on. -/
def shortestFrom (significand : Nat) (exponent : Int) (count : Nat) : Nat → Nat × Int
  | 0 => (gridPoint significand exponent 17).getD (0, 0)
  | fuel + 1 =>
    match gridPoint significand exponent count with
    | some point => point
    | none => shortestFrom significand exponent (count + 1) fuel

/-- Digits and power of ten of the shortest decimal of a positive value. -/
def shortest (significand : Nat) (exponent : Int) : Nat × Int :=
  shortestFrom significand exponent 1 17

/-- Digits without their trailing zeros; the fuel is the number of digits. -/
def stripZeros (characters : List Char) : List Char :=
  (characters.reverse.dropWhile (· == '0')).reverse

/-- Positional text of `digits * 10^power`. -/
def positional (digits : Nat) (power : Int) : String :=
  let written := Nat.toDigits 10 digits
  if 0 ≤ power then String.ofList (written ++ List.replicate power.toNat '0')
  else
    let decimals := (-power).toNat
    let padded := List.replicate (decimals + 1 - written.length) '0' ++ written
    let whole := padded.take (padded.length - decimals)
    let rest := stripZeros (padded.drop (padded.length - decimals))
    if rest.isEmpty then String.ofList whole else String.ofList (whole ++ '.' :: rest)

/-- Text of a double: shortest digits in positional notation, `inf` and `NaN` by name. -/
def text : Binary64 → String
  | .nan => "NaN"
  | .infinite negative => if negative then "-inf" else "inf"
  | .finite negative significand exponent =>
    let magnitude :=
      if significand == 0 then "0"
      else
        let decimal := shortest significand exponent
        positional decimal.1 decimal.2
    if negative then "-" ++ magnitude else magnitude

end ClusterGateway.Binary64
