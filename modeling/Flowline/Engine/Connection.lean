import Flowline.Json.Decode
import Flowline.Text.LowerCase
import Flowline.Text.Occurs
/-!
Connections of an engine project to outside services, and which pieces they cover.
-/
namespace Flowline.Engine
open Json Decode

structure Connection where
  id : String
  pieceName : String
  displayName : String
  status : Option String
  deriving DecidableEq, Inhabited

namespace Connection

structure Fields where
  id : Option String := none
  pieceName : Option String := none
  displayName : Option String := none
  status : Option (Option String) := none

def record : Record Fields Connection where
  name := "Connection"
  fields := ["id", "pieceName", "displayName", "status"]
  start := {}
  put d key v := match key with
    | "id" => do .ok { d with id := ← fill "id" d.id (text v) }
    | "pieceName" => do .ok { d with pieceName := ← fill "pieceName" d.pieceName (text v) }
    | "displayName" => do .ok { d with displayName := ← fill "displayName" d.displayName (text v) }
    | "status" => do .ok { d with status := ← fill "status" d.status (option text v) }
    | _ => .ok d
  build d :=
    .ok ⟨d.id.getD "", d.pieceName.getD "", d.displayName.getD "", d.status.getD none⟩

def ofJson : Decoder Connection := record.decode false

def toJson (c : Connection) : Json :=
  .obj [("id", .str c.id), ("pieceName", .str c.pieceName), ("displayName", .str c.displayName),
    ("status", nullable .str c.status)]

/-- One of the two piece names contains the other, letter case aside; a connection without a piece
name covers nothing. -/
def covers (c : Connection) (piece : String) : Bool :=
  let held := Text.lowerCase c.pieceName
  let wanted := Text.lowerCase piece
  !held.isEmpty && (Text.contains held wanted || Text.contains wanted held)

/-- The pieces that some connection covers, and the others. -/
structure Report where
  connected : List String
  missing : List String
  deriving DecidableEq, Repr

/-- Sorts the needed pieces by whether they are covered. -/
def report (needed : List String) (connections : List Connection) : Report :=
  let covered := fun piece => connections.any (·.covers piece)
  ⟨needed.filter covered, needed.filter (!covered ·)⟩

def Report.isComplete (r : Report) : Bool := r.missing.isEmpty

end Connection
end Flowline.Engine
