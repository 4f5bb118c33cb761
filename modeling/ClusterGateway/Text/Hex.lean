/-!
# Bytes in hexadecimal

Bytes travel as text of two lowercase hexadecimal digits each.
-/

namespace ClusterGateway.Text

/-- Digit of a value below sixteen. -/
def hexDigit (value : Nat) : Char := Nat.digitChar value

/-- Value of a hexadecimal digit of either case. -/
def hexValue (digit : Char) : Option Nat :=
  if '0' ≤ digit && digit ≤ '9' then some (digit.toNat - '0'.toNat)
  else if 'a' ≤ digit && digit ≤ 'f' then some (digit.toNat - 'a'.toNat + 10)
  else if 'A' ≤ digit && digit ≤ 'F' then some (digit.toNat - 'A'.toNat + 10)
  else none

/-- Two digits for each byte. -/
def toHex (bytes : List UInt8) : String :=
  String.ofList (bytes.flatMap fun byte =>
    [hexDigit (byte.toNat / 16), hexDigit (byte.toNat % 16)])

/-- Bytes of a list of digits, or none if the digits are odd in number or one is no digit. -/
def bytesOfDigits : List Char → Option (List UInt8)
  | [] => some []
  | high :: low :: rest => do
    let upper ← hexValue high
    let lower ← hexValue low
    let bytes ← bytesOfDigits rest
    some (UInt8.ofNat (16 * upper + lower) :: bytes)
  | [_] => none

/-- Bytes of a hexadecimal text. -/
def ofHex? (text : String) : Option (List UInt8) := bytesOfDigits text.toList

end ClusterGateway.Text
