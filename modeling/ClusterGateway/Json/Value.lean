import ClusterGateway.Number.Shortest

/-!
# JSON values

Whole numbers and fractions are kept apart, because a field that counts things takes
only the former. An object keeps its members in the order of the document and holds
each key once.
-/

namespace ClusterGateway

/-- A JSON value. -/
inductive Json where
  | null
  | bool (value : Bool)
  | int (value : Int)
  | float (value : Binary64)
  | str (value : String)
  | arr (elements : List Json)
  | obj (members : List (String × Json))
deriving Repr, Inhabited

namespace Json

/-- The value of a key, or none if this is no object or has no such member. -/
def get? (key : String) : Json → Option Json
  | .obj members => members.lookup key
  | _ => none

/-- Four hexadecimal digits of a code unit. -/
def unitDigits (unit : Nat) : List Char :=
  [Nat.digitChar (unit / 4096 % 16), Nat.digitChar (unit / 256 % 16),
    Nat.digitChar (unit / 16 % 16), Nat.digitChar (unit % 16)]

/-- A character inside a JSON text. -/
def escapeChar (character : Char) : List Char :=
  if character == '"' then ['\\', '"']
  else if character == '\\' then ['\\', '\\']
  else if character == '\n' then ['\\', 'n']
  else if character == '\r' then ['\\', 'r']
  else if character == '\t' then ['\\', 't']
  else if character.toNat == 8 then ['\\', 'b']
  else if character.toNat == 12 then ['\\', 'f']
  else if character.toNat < 0x20 then '\\' :: 'u' :: unitDigits character.toNat
  else [character]

/-- A text as a JSON text. -/
def quote (text : String) : String :=
  String.ofList ('"' :: text.toList.flatMap escapeChar ++ ['"'])

mutual

/-- The compact text of a value. -/
def compress : Json → String
  | .null => "null"
  | .bool value => if value then "true" else "false"
  | .int value => toString value
  | .float value => value.text
  | .str value => quote value
  | .arr elements => "[" ++ compressElements elements ++ "]"
  | .obj members => "\x7b" ++ compressMembers members ++ "\x7d"

/-- The elements of an array, separated by commas. -/
def compressElements : List Json → String
  | [] => ""
  | [element] => compress element
  | element :: rest => compress element ++ "," ++ compressElements rest

/-- The members of an object, separated by commas. -/
def compressMembers : List (String × Json) → String
  | [] => ""
  | [(key, value)] => quote key ++ ":" ++ compress value
  | (key, value) :: rest =>
    quote key ++ ":" ++ compress value ++ "," ++ compressMembers rest

end

end Json

end ClusterGateway
