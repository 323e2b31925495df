import Flowline.Json.Decode
/-!
Pieces: the services that a flow can use, with their triggers and actions.
-/
namespace Flowline
open Json Decode

/-- A trigger or action of a piece. -/
structure Operation where
  name : String
  displayName : String
  description : String
  deriving DecidableEq, Inhabited

namespace Operation

structure Fields where
  name : Option String := none
  displayName : Option String := none
  description : Option String := none

def record : Record Fields Operation where
  name := "OperationDescriptor"
  fields := ["name", "displayName", "description"]
  start := {}
  put d key v := match key with
    | "name" => do .ok { d with name := ← fill "name" d.name (text v) }
    | "displayName" => do .ok { d with displayName := ← fill "displayName" d.displayName (text v) }
    | "description" => do .ok { d with description := ← fill "description" d.description (text v) }
    | _ => .ok d
  build d := .ok ⟨d.name.getD "", d.displayName.getD "", d.description.getD ""⟩

def ofJson : Decoder Operation := record.decode false

def toJson (op : Operation) : Json :=
  .obj [("name", .str op.name), ("displayName", .str op.displayName),
    ("description", .str op.description)]

/-- Names the operation after its key where it has no name of its own. -/
def named (key : String) (op : Operation) : Operation :=
  { op with
    name := if op.name.isEmpty then key else op.name
    displayName := if op.displayName.isEmpty then key else op.displayName }

end Operation

structure Piece where
  name : String
  displayName : String
  description : String
  version : String
  categories : List String
  triggers : Dict Operation
  actions : Dict Operation
  deriving Inhabited

namespace Piece

structure Fields where
  name : Option String := none
  displayName : Option String := none
  description : Option String := none
  version : Option String := none
  categories : Option (List String) := none
  triggers : Option (Dict Operation) := none
  actions : Option (Dict Operation) := none

def record : Record Fields Piece where
  name := "PieceDescriptor"
  fields := ["name", "displayName", "description", "version", "categories", "triggers", "actions"]
  start := {}
  put d key v := match key with
    | "name" => do .ok { d with name := ← fill "name" d.name (text v) }
    | "displayName" => do .ok { d with displayName := ← fill "displayName" d.displayName (text v) }
    | "description" => do .ok { d with description := ← fill "description" d.description (text v) }
    | "version" => do .ok { d with version := ← fill "version" d.version (text v) }
    | "categories" => do .ok { d with categories := ← fill "categories" d.categories (list text v) }
    | "triggers" => do
      .ok { d with triggers := ← fill "triggers" d.triggers (dict Operation.ofJson v) }
    | "actions" => do
      .ok { d with actions := ← fill "actions" d.actions (dict Operation.ofJson v) }
    | _ => .ok d
  build d := do
    .ok {
      name := ← required "name" d.name
      displayName := d.displayName.getD ""
      description := d.description.getD ""
      version := d.version.getD ""
      categories := d.categories.getD []
      triggers := d.triggers.getD .empty
      actions := d.actions.getD .empty }

def ofJson : Decoder Piece := record.decode false

def operationsJson (ops : Dict Operation) : Json :=
  .obj (ops.entries.map fun e => (e.1, e.2.toJson))

def toJson (p : Piece) : Json :=
  .obj [("name", .str p.name), ("displayName", .str p.displayName),
    ("description", .str p.description), ("version", .str p.version),
    ("categories", strings p.categories), ("triggers", operationsJson p.triggers),
    ("actions", operationsJson p.actions)]

/-- Operations take the names of their keys where they have none. -/
def normalized (p : Piece) : Piece :=
  { p with triggers := p.triggers.mapValues Operation.named
           actions := p.actions.mapValues Operation.named }

def hasOperation (p : Piece) (name : String) : Bool :=
  p.actions.contains name || p.triggers.contains name

/-- The keys of the actions, then those of the triggers. -/
def operationNames (p : Piece) : List String := p.actions.keys ++ p.triggers.keys

end Piece
end Flowline
