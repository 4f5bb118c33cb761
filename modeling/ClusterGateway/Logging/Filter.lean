import ClusterGateway.Config.Basic
import ClusterGateway.Number.Reading
import ClusterGateway.Text.Alphanumeric
import ClusterGateway.Text.Blank
import ClusterGateway.Text.Split

/-!
# Log filters

A filter is a list of directives, each of which admits records up to a level, for one
target or for all. It is read from text, directives separated by commas. The text of the
environment is used when it is there and all its directives are valid; otherwise the
filter follows the configured level, and invalid directives are dropped.
-/

namespace ClusterGateway

/-- How much a directive admits. -/
inductive LevelFilter where
  | off
  | error
  | warn
  | info
  | debug
  | trace
deriving Repr, DecidableEq

namespace LevelFilter

/-- Rank of a level; a more verbose one has a greater rank. -/
def rank : LevelFilter → Nat
  | off => 0
  | error => 1
  | warn => 2
  | info => 3
  | debug => 4
  | trace => 5

/-- The level of a rank. -/
def ofRank? : Nat → Option LevelFilter
  | 0 => some off
  | 1 => some error
  | 2 => some warn
  | 3 => some info
  | 4 => some debug
  | 5 => some trace
  | _ => none

/-- Name of a level. -/
def text : LevelFilter → String
  | off => "off"
  | error => "error"
  | warn => "warn"
  | info => "info"
  | debug => "debug"
  | trace => "trace"

/-- The level of a name in any case of ASCII. -/
def ofName? (name : String) : Option LevelFilter :=
  [off, error, warn, info, debug, trace].find? fun level =>
    level.text.toList == name.toList.map Char.toLower

/-- A level, by its name or by its rank. -/
def parse? (text : String) : Option LevelFilter :=
  match (readNat? text).bind ofRank? with
  | some level => some level
  | none => ofName? text

/-- The more verbose of two levels. -/
def max (left right : LevelFilter) : LevelFilter :=
  if left.rank < right.rank then right else left

end LevelFilter

/-- A level for one target, or for all records where there is no target. -/
structure Directive where
  target : Option String
  level : LevelFilter
deriving Repr, DecidableEq

namespace Directive

/-- The first character of a directive is a letter, a number, a hyphen, a colon or an
underscore. -/
def mayStart (character : Char) : Bool :=
  character == '-' || character == ':' || character == '_' || Text.isAlphanumeric character

/-- A directive of one piece of text. Blanks around the piece are passed over when the
equals sign is looked for, but belong to the parts that it divides. -/
def parse? (piece : String) : Option Directive :=
  let characters := piece.toList
  let trimmed := characters.dropWhile Text.isBlankChar
  match trimmed with
  | [] => none
  | first :: _ =>
    if !mayStart first || trimmed.contains '[' then none
    else
      let place := (trimmed.takeWhile (· != '=')).length
      if place == trimmed.length then
        match LevelFilter.parse? piece with
        | some level => some ⟨none, level⟩
        | none => some ⟨some piece, .trace⟩
      else
        let target := String.ofList (characters.take place)
        let levelText := String.ofList (characters.drop (place + 1))
        if levelText.isEmpty then some ⟨some target, .trace⟩
        else (LevelFilter.parse? levelText).map fun level => ⟨some target, level⟩

/-- A directive comes before another with a shorter target, or with a smaller target of
the same length; one without a target comes last. -/
def before (left right : Directive) : Bool :=
  match left.target, right.target with
  | some a, some b => b.utf8ByteSize < a.utf8ByteSize || (a.utf8ByteSize == b.utf8ByteSize && b < a)
  | some _, none => true
  | none, _ => false

/-- Text of a directive. -/
def text (directive : Directive) : String :=
  match directive.target with
  | some target => target ++ "=" ++ directive.level.text
  | none => directive.level.text

end Directive

/-- Directives in order, and the most verbose level that any of them had. -/
structure LogFilter where
  directives : List Directive
  maxLevel : LevelFilter
deriving Repr, DecidableEq

namespace LogFilter

/-- The filter that admits nothing. -/
def empty : LogFilter := ⟨[], .off⟩

/-- Puts a directive in its place, which an equal target gives up. -/
def insert (directive : Directive) : List Directive → List Directive
  | [] => [directive]
  | other :: rest =>
    if directive.target == other.target then directive :: rest
    else if directive.before other then directive :: other :: rest
    else other :: insert directive rest

/-- The filter with one more directive. -/
def add (filter : LogFilter) (directive : Directive) : LogFilter :=
  ⟨insert directive filter.directives, filter.maxLevel.max directive.level⟩

/-- The filter of a list of directives, later ones winning. -/
def ofDirectives (directives : List Directive) : LogFilter := directives.foldl add empty

/-- Text of a filter. -/
def text (filter : LogFilter) : String :=
  String.intercalate "," (filter.directives.map Directive.text)

/-- The pieces of a text between commas, without the empty ones. -/
def pieces (text : String) : List String :=
  (Text.split ',' text).filter fun piece => !piece.isEmpty

/-- The filter of a text in which every directive is valid. -/
def parseAll? (text : String) : Option LogFilter :=
  ((pieces text).mapM Directive.parse?).map ofDirectives

/-- The filter of the valid directives of a text, or of errors alone where there are none. -/
def parseValid (text : String) : LogFilter :=
  match (pieces text).filterMap Directive.parse? with
  | [] => ofDirectives [⟨none, .error⟩]
  | directives => ofDirectives directives

/-- The text of the filter that follows a level. -/
def levelText (level : String) : String := level ++ ",broker_proxy=" ++ level

/-- The filter of a log: that of the environment, if it is given and valid as a whole, or
else the one that follows the configured level. -/
def choose (config : LoggingConfig) (environment : Option String) : LogFilter :=
  match environment.bind parseAll? with
  | some filter => filter
  | none => parseValid (levelText config.level)

/-- A valid text of the environment decides alone. -/
theorem choose_eq_of_parseAll? {text : String} {filter : LogFilter}
    (valid : parseAll? text = some filter) (config : LoggingConfig) :
    choose config (some text) = filter := by
  simp [choose, valid]

end LogFilter

/-- A process has one log; only the first attempt to install one succeeds. -/
def installLogs (configs : List LoggingConfig) : List Bool :=
  match configs with
  | [] => []
  | _ :: rest => true :: rest.map fun _ => false

end ClusterGateway
