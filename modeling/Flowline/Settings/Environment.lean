import Flowline.Settings.Tree
/-!
Settings in environment variables: `AUTOFLOW__SECTION__KEY` in any letter case.
-/
namespace Flowline.Settings.Environment

/-- How the names of the variables begin, in lower case. -/
def marker : List Char := "autoflow__".toList

/-- Replaces every pair of underscores by a dot. -/
def dotted : List Char → List Char
  | '_' :: '_' :: cs => '.' :: dotted cs
  | c :: cs => c :: dotted cs
  | [] => []

/-- The key that a variable gives a value to. -/
def key? (name : String) : Option String :=
  let cs := (Text.lowerCase name).toList
  if marker.isPrefixOf cs then some (String.ofList (dotted (cs.drop marker.length))) else none

/-- What messages say about the place of a variable. -/
def origin : String := "the environment"

/-- The settings in variables, in their order. -/
def source (environment : List (String × String)) : List (String × Tree) :=
  environment.filterMap fun (name, value) =>
    (key? name).map fun key => (key, .leaf (some origin) (.ofText value))

end Flowline.Settings.Environment
