import ClusterGateway.Error
import ClusterGateway.Json.Parser
import ClusterGateway.Settings.Value
import ClusterGateway.Text.Split
import ClusterGateway.Toml.Document

/-!
# Files of settings

A layer of settings may be a file. A name that is a file as it stands is read in the format
of its extension, and left alone if it has no known one; otherwise the extensions of the
formats are tried at its end. A file that is not there, or is not text, is an empty layer;
one that is malformed is a fault.
-/

namespace ClusterGateway

/-- A file below the working directory: the names on its path, and its text if it is text. -/
structure TextFile where
  path : List String
  text : Option String
deriving Repr, DecidableEq

/-- The files below the working directory. -/
structure FileTree where
  files : List TextFile
deriving Repr

namespace FileTree

/-- The names on a path; blank names and those of the same directory are left out. -/
def names (path : String) : List String :=
  (Text.split '/' path).filter fun name => name != "" && name != "."

/-- The tree of files that are given by their paths. -/
def ofTexts (files : List (String × Option String)) : FileTree :=
  ⟨files.map fun (path, text) => ⟨names path, text⟩⟩

/-- A directory is there if a file is below it. -/
def hasDirectory (tree : FileTree) (path : List String) : Bool :=
  tree.files.any fun file => path.isPrefixOf file.path && path.length < file.path.length

/-- Follows names from a directory; two points lead back up from a directory that is there. -/
def follow? (tree : FileTree) (seen : List String) : List String → Option (List String)
  | [] => some seen
  | name :: rest =>
    if name == ".." then
      if seen.isEmpty || !tree.hasDirectory seen then none
      else follow? tree seen.dropLast rest
    else follow? tree (seen ++ [name]) rest

/-- The file at the end of names that are followed from the working directory. -/
def file? (tree : FileTree) (path : List String) : Option TextFile :=
  (tree.follow? [] path).bind fun place => tree.files.find? (·.path == place)

end FileTree

/-- A format of settings. -/
inductive FileFormat where
  | toml
  | json
deriving Repr, DecidableEq

namespace FileFormat

/-- Extension of the files of a format. -/
def extension : FileFormat → String
  | toml => "toml"
  | json => "json"

/-- All formats, in the order in which their extensions are tried. -/
def all : List FileFormat := [toml, json]

/-- The extension of a file name, without its point; a point at the front does not count. -/
def extensionOf? (name : String) : Option String :=
  match Text.split '.' name with
  | first :: second :: rest =>
    if first == "" && rest.isEmpty then none else (second :: rest).getLast?
  | _ => none

/-- The format of a file name. -/
def ofName? (name : String) : Option FileFormat :=
  (extensionOf? name).bind fun found => all.find? fun format => format.extension == found

/-- The settings in a text, or none if it is malformed or no table. -/
def read? (format : FileFormat) (origin text : String) : Option (List (String × Setting)) :=
  match format with
  | toml => (Toml.parse? text).map fun entries => Setting.ofTomlEntries (some origin) entries
  | json =>
    match Json.parse? text with
    | some (.obj members) => some (Setting.ofJsonMembers (some origin) members)
    | _ => none

end FileFormat

namespace FileTree

/-- A path that ends in a slash is that of a directory. -/
def namesDirectory (path : String) : Bool :=
  match path.toList.reverse with
  | '/' :: _ => true
  | '.' :: '/' :: _ => true
  | _ => false

/-- The names with an extension at the end of the last one. -/
def withExtension (path : List String) (format : FileFormat) : List String :=
  match path.getLast? with
  | none => []
  | some name => path.dropLast ++ [name ++ "." ++ format.extension]

/-- The first of the formats whose extension completes the names to a file. -/
def complete? (tree : FileTree) (path : List String) :
    List FileFormat → Option (FileFormat × List String × TextFile)
  | [] => none
  | format :: formats =>
    match tree.file? (withExtension path format) with
    | some file => some (format, withExtension path format, file)
    | none => complete? tree path formats

/-- The file of a path and its format, with the names that lead to it. -/
def locate? (tree : FileTree) (path : String) : Option (FileFormat × List String × TextFile) :=
  let found := names path
  if path.toList.head? == some '/' then none
  else
    match if namesDirectory path then none else tree.file? found with
    | some file =>
      (found.getLast?.bind FileFormat.ofName?).map fun format => (format, found, file)
    | none => tree.complete? found FileFormat.all

/-- The settings of the file of a path. -/
def settings (tree : FileTree) (path : String) :
    Except SettingsFault (List (String × Setting)) :=
  match tree.locate? path with
  | none => .ok []
  | some (format, shown, file) =>
    match file.text with
    | none => .ok []
    | some text =>
      let origin := String.intercalate "/" shown
      match format.read? origin text with
      | some entries => .ok entries
      | none => .error (.malformed origin)

end FileTree

end ClusterGateway
