import Flowline.Json.Parser
import Flowline.Settings.Error
import Flowline.Settings.Tree
/-!
Settings in JSON documents.
-/
namespace Flowline.Settings

def Scalar.ofNumber : Json.Number → Scalar
  | .int n => .whole n
  | .float x => .real (.finite x)

mutual

/-- The tree of a JSON value that stands in a file. -/
def Tree.ofJson (file : String) : Json → Tree
  | .null => .leaf (some file) .nothing
  | .bool b => .leaf (some file) (.flag b)
  | .num n => .leaf (some file) (.ofNumber n)
  | .str s => .leaf (some file) (.text s)
  | .arr elements => .list (some file) (Tree.ofJsonAll file elements)
  | .obj members => .table (some file) (Tree.ofMembers file members)

def Tree.ofJsonAll (file : String) : List Json → List Tree
  | [] => []
  | v :: rest => Tree.ofJson file v :: Tree.ofJsonAll file rest

def Tree.ofMembers (file : String) : List (String × Json) → List (String × Tree)
  | [] => []
  | (key, v) :: rest => (key, Tree.ofJson file v) :: Tree.ofMembers file rest

end

/-- The entries of a document, which must be a table. -/
def Tree.document (file : String) : Tree → Except Error Entries
  | .table _ entries => .ok entries
  | .list .. => .error (.notATable "sequence" file)
  | .leaf _ value => .error (.notATable value.describe file)

/-- The entries of a JSON document. -/
def ofJsonText (file text : String) : Except Error Entries :=
  match Json.parse text with
  | .error e => .error (.unreadable e.message file)
  | .ok v => (Tree.ofJson file v).document file

end Flowline.Settings
