import Flowline.Engine.Request
import Flowline.Json.Parser
import Flowline.Text.Blank
import Flowline.Token.Keeper
/-!
What comes back for a request, and what it means.
-/
namespace Flowline.Engine
open Json

structure Response where
  status : Nat
  body : String
  deriving DecidableEq, Repr

/-- Why no response came back whole. -/
structure Fault where
  reason : String
  timedOut : Bool
  deriving DecidableEq, Repr

/-- A response, or why there is none, and after how many milliseconds that was known. -/
structure Reply where
  outcome : Except Fault Response
  took : Nat := 0

def Fault.failure (f : Fault) : Failure :=
  if f.timedOut then .timedOut else .transport f.reason

namespace Response

def isSuccess (r : Response) : Bool := 200 ≤ r.status && r.status < 300

/-- The value that a response carries; a blank body is null. -/
def value (r : Response) : Except Failure Json :=
  if r.status = 204 then .ok .null
  else if !r.isSuccess then .error (.status r.status r.body)
  else if Text.isBlankText r.body then .ok .null
  else (Json.parse r.body).mapError fun e => .undecodable e.message

/-- Whether the engine refuses the token of the request. -/
def rejectsToken (r : Response) : Bool := r.status == 401

end Response

namespace Reply

def value (r : Reply) : Except Failure Json :=
  match r.outcome with
  | .error fault => .error fault.failure
  | .ok response => response.value

def rejectsToken (r : Reply) : Bool :=
  match r.outcome with
  | .error _ => false
  | .ok response => response.rejectsToken

end Reply

/-- The result of a request with the given reply. -/
def Request.result (r : Request) (reply : Reply) : Except Error Json := reply.value.mapError r.error

/-- The result of a request for which there was no token. -/
def Request.denied (r : Request) (why : SignInError) : Except Error Json :=
  .error (r.error (.signIn why))

/-- Who signs in. -/
structure Credentials where
  email : String
  password : String
  deriving DecidableEq, Repr

namespace Credentials

def areMissing (c : Credentials) : Bool := c.email.isEmpty || c.password.isEmpty

def request (c : Credentials) : Request := .signIn c.email c.password

/-- The token as the only field that an answer needs. -/
def tokenRecord : Decode.Record (Option String) String where
  name := "SignInResponse"
  fields := ["token"]
  start := none
  put d key v := match key with
    | "token" => Decode.fill "token" d (Decode.text v)
    | _ => .ok d
  build := Decode.required "token"

/-- The token in the body of an answer. -/
def tokenOf (body : String) : Token.Outcome := do
  let v ← (Json.parse body).mapError fun e => .malformed e.message
  let token ← (tokenRecord.decode false v).mapError fun e => .malformed e.message
  if token.isEmpty then .error (.malformed "token is empty") else .ok token

/-- The outcome of a sign-in that was asked for. -/
def outcome (reply : Reply) : Token.Outcome :=
  match reply.outcome with
  | .error fault => .error (.transport fault.reason)
  | .ok response =>
    if response.isSuccess then tokenOf response.body
    else .error (.rejected response.status response.body)

end Credentials
end Flowline.Engine
