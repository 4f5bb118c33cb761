import ClusterGateway.Text.Printable

/-!
# Quoted text

The quoted form of a text shows it on one line: a quote and a backslash are escaped by
a backslash, the usual controls have short escapes, and every other character that is
not printable is written by its code point in hexadecimal.
-/

namespace ClusterGateway.Text

/-- Lowercase hexadecimal digits of a number, without leading zeros. -/
def hexDigits (number : Nat) : List Char := Nat.toDigits 16 number

/-- Quoted form of one character. -/
def quoteChar (character : Char) : List Char :=
  if character == '"' then ['\\', '"']
  else if character == '\\' then ['\\', '\\']
  else if character == '\n' then ['\\', 'n']
  else if character == '\r' then ['\\', 'r']
  else if character == '\t' then ['\\', 't']
  else if character.toNat == 0 then ['\\', '0']
  else if isPrintable character then [character]
  else ['\\', 'u', '\x7b'] ++ hexDigits character.toNat ++ ['\x7d']

/-- A text between quotes, with every character in its quoted form. -/
def quoted (text : String) : String :=
  String.ofList ('"' :: text.toList.flatMap quoteChar ++ ['"'])

/-- A list of texts in brackets, each text quoted. -/
def quotedList (texts : List String) : String :=
  "[" ++ String.intercalate ", " (texts.map quoted) ++ "]"

end ClusterGateway.Text
