import Flowline.Json.Decode
/-!
What a deployment leaves behind: a flow at the engine.
-/
namespace Flowline.Deployment
open Json Decode

/-- A flow at the engine. -/
structure Deployed where
  flowId : String
  url : String
  stepCount : Nat
  published : Bool
  deriving DecidableEq, Repr

namespace Deployed

/-- Whether a flow is published, by name. -/
def statusTable : List (String × Bool) := [("DRAFT", false), ("PUBLISHED", true)]

def statusName (published : Bool) : String := if published then "PUBLISHED" else "DRAFT"

structure Fields where
  flowId : Option String := none
  url : Option String := none
  stepCount : Option Nat := none
  published : Option Bool := none

def record : Record Fields Deployed where
  name := "CompiledFlow"
  fields := ["flowId", "url", "stepCount", "status"]
  start := {}
  put d key v := match key with
    | "flowId" => do .ok { d with flowId := ← fill "flowId" d.flowId (text v) }
    | "url" => do .ok { d with url := ← fill "url" d.url (text v) }
    | "stepCount" => do .ok { d with stepCount := ← fill "stepCount" d.stepCount (word64 v) }
    | "status" => do
      .ok { d with published := ← fill "status" d.published (constant statusTable v) }
    | _ => .ok d
  build d := do
    .ok {
      flowId := ← required "flowId" d.flowId
      url := ← required "url" d.url
      stepCount := ← required "stepCount" d.stepCount
      published := ← required "status" d.published }

def ofJson : Decoder Deployed := record.decode false

def toJson (d : Deployed) : Json :=
  .obj [("flowId", .str d.flowId), ("url", .str d.url), ("stepCount", nat d.stepCount),
    ("status", .str (statusName d.published))]

end Deployed
end Flowline.Deployment
