import Flowline.Settings.Decode
import Flowline.Settings.Dotenv
import Flowline.Settings.Environment
import Flowline.Settings.File
/-!
Loading settings: a file, then the environment over it, to which a file of variables has been added.
-/
namespace Flowline.Settings

/-- The settings in a file and in variables. -/
def ofSources (file : Option File) (environment : List (String × String)) :
    Except Error Settings := do
  let entries ← match file with
    | none => .ok []
    | some f => f.entries
  let tree := layer (layer (.table none []) entries) (Environment.source environment)
  ofEntries tree.entries

/-- The settings in a file, in variables, and in a file of further variables. -/
def load (file : Option File) (environment : List (String × String)) (dotenv : Option String) :
    Except Error Settings :=
  ofSources file <| match dotenv with
    | none => environment
    | some text => Dotenv.add environment text

end Flowline.Settings
