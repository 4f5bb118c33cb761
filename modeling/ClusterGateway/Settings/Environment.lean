import ClusterGateway.Number.Reading
import ClusterGateway.Settings.Value
import ClusterGateway.Text.Lowercase

/-!
# Settings in the environment

An environment variable whose name begins with the mark of the program, in any case, is a
setting: the rest of the name is its path, with two underscores for a point. Its text is
taken for a truth value or a number if it looks like one.
-/

namespace ClusterGateway

/-- Environment variables by name. -/
abbrev Environment := List (String × String)

namespace Environment

/-- The mark that names of settings begin with. -/
def mark : String := "broker_proxy__"

/-- Where settings of the environment are written. -/
def origin : String := "the environment"

/-- A point for every two underscores. -/
def dotted : List Char → List Char
  | '_' :: '_' :: rest => '.' :: dotted rest
  | character :: rest => character :: dotted rest
  | [] => []

/-- The path of the setting that a variable names, if it names one. -/
def pathOf? (name : String) : Option String :=
  let small := (Text.lowercase name).toList
  if mark.toList.isPrefixOf small then
    some (String.ofList (dotted (small.drop mark.toList.length)))
  else none

/-- What a text is taken for. -/
def guess (text : String) : Scalar :=
  let small := Text.lowercase text
  if small == "true" then .flag true
  else if small == "false" then .flag false
  else
    match readLong? text with
    | some value => .whole value
    | none =>
      match readDecimal? text with
      | some value => .decimal value
      | none => .text text

/-- The settings of the environment. Of two variables for one path the later one counts. -/
def settings (environment : Environment) : List (String × Setting) :=
  environment.foldl (fun entries entry =>
    match pathOf? entry.1 with
    | some path => assign path (.scalar (some origin) (guess entry.2)) entries
    | none => entries) []

end Environment

end ClusterGateway
