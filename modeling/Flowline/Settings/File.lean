import Flowline.Settings.Toml
import Flowline.Settings.Yaml
import Flowline.Text.ByteOrderMark
/-!
Settings files: where one is looked for, which format it has, and what it is called in messages.
-/
namespace Flowline.Settings

/-- The formats of settings files. -/
inductive Format where
  | json | toml | yaml
  deriving DecidableEq, Repr

/-- The formats by the endings of file names. -/
def Format.table : List (String × Format) :=
  [("json", .json), ("toml", .toml), ("yaml", .yaml), ("yml", .yaml)]

/-- The ending of a file name, behind its last point but not at its beginning. -/
def extension (path : String) : Option String :=
  let name := (path.toList.reverse.takeWhile (· != '/')).reverse
  let ending := name.reverse.takeWhile (· != '.')
  if ending.length + 1 < name.length then some (String.ofList ending.reverse) else none

def Format.read : Format → (file text : String) → Except Error Entries
  | .json => ofJsonText
  | .toml => Toml.ofText
  | .yaml => Yaml.ofText

/-- The format that the name of a file tells. -/
def Format.ofPath (path : String) : Option Format :=
  (extension path).bind fun ending => assoc ending Format.table

/-- The names along a path. -/
def pathNames (path : String) : List String :=
  (path.splitOn "/").filter fun name => !name.isEmpty && name != "."

/-- The way from one place to another, both given by the names that lead there from the root. -/
def wayBetween : List String → List String → List String
  | d :: ds, p :: ps =>
    if d = p then wayBetween ds ps else List.replicate (ds.length + 1) ".." ++ p :: ps
  | ds, ps => List.replicate ds.length ".." ++ ps

/-- A path as seen from a directory. -/
def relativePath (directory path : String) : String :=
  String.intercalate "/" (wayBetween (pathNames directory) (pathNames path))

/-- The path from the root for one that may start at a directory. -/
def absolutePath (directory path : String) : String :=
  if "/".isPrefixOf path then path else directory ++ "/" ++ path

/-- A settings file that was asked for in a directory, with the path and the text of what is there
for it. -/
structure File where
  directory : String
  path : String
  found : Option (String × String)
  deriving DecidableEq, Repr

namespace File

/-- The paths at which a file is looked for: the one given, or else with an ending behind it. -/
def candidates (path : String) : List String :=
  path :: Format.table.map fun (ending, _) => path ++ "." ++ ending

/-- The entries of a file; it is called by its path as seen from the directory. -/
def entries (f : File) : Except Error Entries :=
  match f.found with
  | none => .error (.missingFile f.path)
  | some (path, text) =>
    let path := absolutePath f.directory path
    match Format.ofPath path with
    | none => .error (.unknownFormat path)
    | some format =>
      format.read (relativePath f.directory path) (String.ofList (Text.dropMark text.toList))

end File
end Flowline.Settings
