/-!
Why settings cannot be had.
-/
namespace Flowline.Settings

inductive Error where
  /-- A setting has a value of another kind. -/
  | mismatch (found expected key : String) (origin : Option String)
  /-- The document in a file is not a table. -/
  | notATable (found file : String)
  /-- The text of a file does not follow its format. -/
  | unreadable (reason file : String)
  | unknownFormat (path : String)
  | missingFile (path : String)
  deriving DecidableEq, Repr

def Error.message : Error → String
  | mismatch found expected key origin =>
    "invalid type: " ++ found ++ ", expected " ++ expected ++ " for key `" ++ key ++ "`" ++
      (match origin with
        | some place => " in " ++ place
        | none => "")
  | notATable found file =>
    "invalid type: " ++ found ++ ", expected a map in " ++ file ++ " in " ++ file
  | unreadable reason file => reason ++ " in " ++ file
  | unknownFormat path => "configuration file \"" ++ path ++ "\" is not of a supported file format"
  | missingFile path => "configuration file \"" ++ path ++ "\" not found"

end Flowline.Settings
