/-!
# Double-precision values

A double is held exactly, as a sign, a significand and a power of two, so that reading,
writing and rounding are arithmetic on whole numbers. A finite value has at most 53
significant bits and an exponent from −1074 to 971; its significand has all 53 bits
unless the exponent is the least one. Rounding goes to the nearest value, a tie to the
even significand.
-/

namespace ClusterGateway

/-- A power of two. -/
def twoTo (exponent : Nat) : Nat := Nat.pow 2 exponent

/-- A power of ten. -/
def tenTo (exponent : Nat) : Nat := Nat.pow 10 exponent

/-- A double: no number, an infinity, or `(-1)^negative * significand * 2^exponent`. -/
inductive Binary64 where
  | nan
  | infinite (negative : Bool)
  | finite (negative : Bool) (significand : Nat) (exponent : Int)
deriving Repr, DecidableEq

namespace Binary64

/-- The least exponent of a finite value. -/
def minExponent : Int := -1074

/-- The greatest exponent of a finite value. -/
def maxExponent : Int := 971

/-- The zero of the given sign. -/
def zero (negative : Bool) : Binary64 := .finite negative 0 minExponent

/-- Nearest whole number to a quotient, the even one of two. -/
def nearestEven (numerator denominator : Nat) : Nat :=
  let quotient := numerator / denominator
  let doubled := 2 * (numerator % denominator)
  if doubled < denominator || (doubled == denominator && quotient % 2 == 0) then quotient
  else quotient + 1

/-- A quotient divided by a power of two, again as a quotient. -/
def scaleDown (numerator denominator : Nat) (exponent : Int) : Nat × Nat :=
  if exponent < 0 then (numerator * twoTo (-exponent).toNat, denominator)
  else (numerator, denominator * twoTo exponent.toNat)

/-- The exponent at which a positive quotient has 53 bits before the point, or the least one. -/
def quotientExponent (numerator denominator : Nat) : Int :=
  let guess : Int := Int.ofNat numerator.log2 - Int.ofNat denominator.log2 - 53
  let scaled := scaleDown numerator denominator guess
  let exponent := if scaled.1 / scaled.2 < twoTo 53 then guess else guess + 1
  max exponent minExponent

/-- The double nearest to a quotient with a positive denominator. -/
def ofRatio (negative : Bool) (numerator denominator : Nat) : Binary64 :=
  if numerator == 0 then zero negative
  else
    let exponent := quotientExponent numerator denominator
    let scaled := scaleDown numerator denominator exponent
    let significand := nearestEven scaled.1 scaled.2
    let carried := significand == twoTo 53
    let significand := if carried then twoTo 52 else significand
    let exponent := if carried then exponent + 1 else exponent
    if exponent > maxExponent then .infinite negative
    else .finite negative significand exponent

/-- Magnitude of a finite value as a quotient. -/
def ratio (significand : Nat) (exponent : Int) : Nat × Nat :=
  if exponent < 0 then (significand, twoTo (-exponent).toNat)
  else (significand * twoTo exponent.toNat, 1)

/-- The double nearest to a whole number. -/
def ofNat (number : Nat) : Binary64 := ofRatio false number 1

/-- The double nearest to a whole number of either sign. -/
def ofInt (number : Int) : Binary64 := ofRatio (number < 0) number.natAbs 1

/-- Number of decimal digits of a whole number; zero has one. -/
def decimalLength (number : Nat) : Nat := (Nat.toDigits 10 number).length

/-- The double nearest to `digits * 10^exponent`. Beyond four hundred decimal places on
either side the answer is an infinity or a zero whatever the digits are. -/
def ofDecimal (negative : Bool) (digits : Nat) (exponent : Int) : Binary64 :=
  if digits == 0 then zero negative
  else if exponent > 400 then .infinite negative
  else if exponent + Int.ofNat (decimalLength digits) < -400 then zero negative
  else if exponent < 0 then ofRatio negative digits (tenTo (-exponent).toNat)
  else ofRatio negative (digits * tenTo exponent.toNat) 1

/-- The rounded product of two values, for values that are numbers. -/
def mul : Binary64 → Binary64 → Binary64
  | .finite left m e, .finite right n f =>
    let a := ratio m e
    let b := ratio n f
    ofRatio (left != right) (a.1 * b.1) (a.2 * b.2)
  | .infinite left, .infinite right => .infinite (left != right)
  | .infinite left, .finite right n _ => if n == 0 then .nan else .infinite (left != right)
  | .finite left m _, .infinite right => if m == 0 then .nan else .infinite (left != right)
  | _, _ => .nan

/-- The rounded quotient of two finite values with a divisor other than zero. -/
def div : Binary64 → Binary64 → Binary64
  | .finite left m e, .finite right n f =>
    if n == 0 then (if m == 0 then .nan else .infinite (left != right))
    else
      let a := ratio m e
      let b := ratio n f
      ofRatio (left != right) (a.1 * b.2) (a.2 * b.1)
  | .infinite left, .finite right _ _ => .infinite (left != right)
  | .finite left _ _, .infinite right => zero (left != right)
  | _, _ => .nan

/-- The value with its sign set. -/
def withSign (negative : Bool) : Binary64 → Binary64
  | .nan => .nan
  | .infinite _ => .infinite negative
  | .finite _ significand exponent => .finite negative significand exponent

/-- A value equals zero when its significand does; no other value does. -/
def isZero : Binary64 → Bool
  | .finite _ significand _ => significand == 0
  | _ => false

/-- Nearest whole number, a half going away from zero, held within `0 … 2^64 - 1`; what is
no number counts as zero. -/
def clampToWord : Binary64 → Nat
  | .nan => 0
  | .infinite negative => if negative then 0 else twoTo 64 - 1
  | .finite negative significand exponent =>
    if negative then 0
    else
      let value := ratio significand exponent
      min ((2 * value.1 + value.2) / (2 * value.2)) (twoTo 64 - 1)

/-- A clamped value fits in a word. -/
theorem clampToWord_lt (value : Binary64) : value.clampToWord < twoTo 64 := by
  cases value with
  | nan => decide
  | infinite negative => cases negative <;> decide
  | finite negative significand exponent =>
    have positive : twoTo 64 - 1 < twoTo 64 := by decide
    simp only [clampToWord]
    split
    · decide
    · exact Nat.lt_of_le_of_lt (Nat.min_le_right _ _) positive

end Binary64

end ClusterGateway
