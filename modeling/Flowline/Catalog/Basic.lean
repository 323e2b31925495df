import Flowline.Catalog.Piece
import Flowline.Text.Blank
import Flowline.Text.LowerCase
import Flowline.Text.Occurs
/-!
Catalogs: the known pieces by name, either listed by the engine or built in.
-/
namespace Flowline

inductive Catalog.Origin where
  | live | builtin
  deriving DecidableEq, Repr

/-- The known pieces; every piece stands under its name, and its operations have names. -/
structure Catalog where
  origin : Catalog.Origin
  pieces : Dict Piece

namespace Catalog

/-- The pieces by name, normalized; of two pieces of one name the later stays. -/
def index (pieces : List Piece) : Dict Piece :=
  Dict.ofList (pieces.map fun p => (p.name, p.normalized))

def ofPieces (origin : Origin) (pieces : List Piece) : Catalog := ⟨origin, index pieces⟩

/-- The pieces that the engine lists. -/
def live (pieces : List Piece) : Catalog := ofPieces .live pieces

def isBuiltin (c : Catalog) : Bool := c.origin == .builtin

def size (c : Catalog) : Nat := c.pieces.size

def names (c : Catalog) : List String := c.pieces.keys

def lookup (c : Catalog) (name : String) : Option Piece := c.pieces.find? name

/-- Two texts of which one contains the other, letter case aside; `lowered` is in lower case. -/
def overlaps (lowered name : String) : Bool :=
  let name := Text.lowerCase name
  Text.contains name lowered || Text.contains lowered name

/-- The most names that a suggestion has. -/
def maxSuggestions : Nat := 5

/-- The first names that contain the given one or stand in it, blanks around it and letter case
aside; a blank name is like no other. -/
def similar (c : Catalog) (name : String) : List String :=
  let needle := Text.lowerCase (Text.trim name)
  if needle.isEmpty then [] else (c.names.filter (overlaps needle)).take maxSuggestions

/-- Why a reference to a piece does not resolve. -/
inductive ReferenceError where
  | unknownPiece (piece : String) (suggestions : List String)
  | unknownOperation (piece operation : String) (available : List String)
  deriving DecidableEq

def ReferenceError.message : ReferenceError → String
  | unknownPiece piece [] => "piece '" ++ piece ++ "' is not in the catalog"
  | unknownPiece piece suggestions =>
    "piece '" ++ piece ++ "' is not in the catalog (did you mean " ++
      String.intercalate ", " suggestions ++ "?)"
  | unknownOperation piece operation available =>
    "'" ++ operation ++ "' is not an operation of '" ++ piece ++ "' (available: " ++
      String.intercalate ", " available ++ ")"

/-- The piece of that name, which must have the operation if one other than the empty is given. -/
def resolve (c : Catalog) (piece : String) (operation : Option String) :
    Except ReferenceError Piece :=
  match c.lookup piece with
  | none => .error (.unknownPiece piece (c.similar piece))
  | some p =>
    match operation with
    | none => .ok p
    | some op =>
      if op.isEmpty || p.hasOperation op then .ok p
      else .error (.unknownOperation p.displayName op p.operationNames)

/-- The characters of a description that a summary keeps. -/
def summaryLength : Nat := 100

/-- The pieces that a prompt shows unless told otherwise. -/
def summaryLimit : Nat := 50

/-- What a prompt says about a piece. -/
structure Summary where
  name : String
  displayName : String
  description : String
  triggers : List (String × String)
  actions : List (String × String)
  deriving DecidableEq

namespace Summary

def operations (ops : Dict Operation) : List (String × String) :=
  ops.entries.map fun (key, op) => (key, if op.displayName.isEmpty then key else op.displayName)

def ofPiece (p : Piece) : Summary where
  name := p.name
  displayName := p.displayName
  description := String.ofList (p.description.toList.take summaryLength)
  triggers := operations p.triggers
  actions := operations p.actions

def operationsJson (ops : List (String × String)) : Json :=
  .arr (ops.map fun (name, shown) => .obj [("name", .str name), ("displayName", .str shown)])

def toJson (s : Summary) : Json :=
  .obj [("name", .str s.name), ("displayName", .str s.displayName),
    ("description", .str s.description), ("triggers", operationsJson s.triggers),
    ("actions", operationsJson s.actions)]

end Summary

/-- Summaries of the first `limit` pieces. -/
def summaries (c : Catalog) (limit : Nat) : List Summary :=
  (c.pieces.values.take limit).map Summary.ofPiece

/-- How much a catalog holds. -/
structure Stats where
  pieces : Nat
  triggers : Nat
  actions : Nat
  categories : List String
  builtin : Bool
  deriving DecidableEq

def stats (c : Catalog) : Stats where
  pieces := c.size
  triggers := c.pieces.values.foldr (·.triggers.size + ·) 0
  actions := c.pieces.values.foldr (·.actions.size + ·) 0
  categories := (Dict.ofList (c.pieces.values.flatMap fun p => p.categories.map (·, ()))).keys
  builtin := c.isBuiltin

end Catalog
end Flowline
