import Flowline.Engine.Error
import Flowline.Engine.Mutation
/-!
Requests to the engine. Ids stand in paths as they are.
-/
namespace Flowline.Engine
open Json

inductive Method where
  | get | post | delete
  deriving DecidableEq, Repr

def Method.name : Method → String
  | .get => "GET"
  | .post => "POST"
  | .delete => "DELETE"

structure Request where
  method : Method
  path : String
  body : Option Json

namespace Request

/-- A request without a body. -/
def bare (method : Method) (path : String) : Request := ⟨method, path, none⟩

/-- The error of a request that failed. -/
def error (r : Request) (failure : Failure) : Error := ⟨r.method.name, r.path, failure⟩

def signInPath : String := "/api/v1/authentication/sign-in"

def flowsPath : String := "/api/v1/flows"

def flowPath (flow : String) : String := flowsPath ++ "/" ++ flow

/-- The most pieces that one listing holds. -/
def pieceLimit : Nat := 500

def signIn (email password : String) : Request :=
  ⟨.post, signInPath, some (.obj [("email", .str email), ("password", .str password)])⟩

def create (project name : String) (folder : Option String) : Request :=
  ⟨.post, flowsPath, some (.obj ([("displayName", .str name), ("projectId", .str project)] ++
    optional "folderId" .str folder))⟩

def apply (flow : String) (m : Mutation) : Request := ⟨.post, flowPath flow, some m.toJson⟩

def delete (flow : String) : Request := bare .delete (flowPath flow)

def get (flow : String) : Request := bare .get (flowPath flow)

def listFlows (project : String) (limit : Nat) : Request :=
  bare .get (flowsPath ++ "?limit=" ++ toString limit ++ "&projectId=" ++ project)

def listConnections (project : String) : Request :=
  bare .get ("/api/v1/connections?projectId=" ++ project)

/-- The runs of one flow, or of the whole project. -/
def listRuns (project : String) (flow : Option String) (limit : Nat) : Request :=
  bare .get <| "/api/v1/flow-runs" ++ match flow with
    | some id => "?flowId=" ++ id ++ "&limit=" ++ toString limit
    | none => "?limit=" ++ toString limit ++ "&projectId=" ++ project

def pieces : Request := bare .get ("/api/v1/pieces?limit=" ++ toString pieceLimit)

end Request
end Flowline.Engine
