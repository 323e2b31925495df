import Flowline.Catalog.Piece
import Flowline.Dialogue
import Flowline.Engine.Connection
import Flowline.Engine.Response
/-!
The engine as a conversation: one call after another, each with a token from the keeper. A reply 401
makes the keeper forget its token.
-/
namespace Flowline.Engine
open Json

/-- A request on its way to the engine at an address, with its token unless it asks for one. -/
structure Exchange where
  baseUrl : String
  request : Request
  token : Option String

/-- Where the request goes. -/
def Exchange.address (x : Exchange) : String := x.baseUrl ++ x.request.path

abbrev Conversation (α : Type) := Dialogue Exchange Reply α

structure Client where
  baseUrl : String
  project : String
  credentials : Credentials
  keeper : Token.Keeper
  /-- How many milliseconds the exchanges have taken. -/
  clock : Nat := 0

namespace Client

/-- A client that has not signed in; slashes at the end of the address do not count. -/
def start (baseUrl project : String) (credentials : Credentials) : Client :=
  { baseUrl := Text.dropTrailing '/' baseUrl, project, credentials
    keeper := { validity := Token.Keeper.standardValidity } }

/-- The only caller. -/
def caller : Nat := 0

/-- Lets time pass. -/
def elapse (c : Client) (ms : Nat) : Client :=
  { c with keeper := (c.keeper.step (.elapse ms)).1, clock := c.clock + ms }

/-- Sends a request and waits for the reply. -/
def send (c : Client) (r : Request) (token : Option String) : Conversation (Reply × Client) :=
  .ask ⟨c.baseUrl, r, token⟩ fun reply => .done (reply, c.elapse reply.took)

def signIn (c : Client) : Conversation (Token.Outcome × Client) :=
  if c.credentials.areMissing then .done (.error .missingCredentials, c)
  else do
    let (reply, c) ← c.send c.credentials.request none
    return (Credentials.outcome reply, c)

/-- The token that the keeper holds, or else that of a sign-in. -/
def token (c : Client) : Conversation (Token.Outcome × Client) :=
  match c.keeper.run (Token.Event.get caller).atOnce with
  | (keeper, .reply _ outcome :: _) => .done (outcome, { c with keeper })
  | (keeper, _) => do
    let (outcome, c) ← { c with keeper }.signIn
    return (outcome, { c with keeper := (c.keeper.step (.signedIn outcome)).1 })

/-- Makes the keeper forget its token. -/
def forget (c : Client) : Client :=
  { c with keeper := (c.keeper.run (Token.Event.clear caller).atOnce).1 }

def call (c : Client) (r : Request) : Conversation (Except Error Json × Client) := do
  let (outcome, c) ← c.token
  match outcome with
  | .error why => return (r.denied why, c)
  | .ok token =>
    let (reply, c) ← c.send r (some token)
    return (r.result reply, if reply.rejectsToken then c.forget else c)

/-- A call whose value is read with `f`. -/
def fetch (c : Client) (r : Request) (f : Decode.Decoder α) :
    Conversation (Except Error α × Client) := do
  let (result, c) ← c.call r
  let read := fun v => (f v).mapError fun e => r.error (.undecodable e.message)
  return (result.bind read, c)

/-- The id of a new flow as the only field that an answer needs. -/
def shellRecord : Decode.Record (Option String) String where
  name := "FlowShell"
  fields := ["id"]
  start := none
  put d key v := match key with
    | "id" => Decode.fill "id" d (Decode.text v)
    | _ => .ok d
  build := Decode.required "id"

def create (c : Client) (name : String) (folder : Option String) :
    Conversation (Except Error String × Client) :=
  c.fetch (.create c.project name folder) (shellRecord.decode false)

def apply (c : Client) (flow : String) (m : Mutation) : Conversation (Except Error Unit × Client) :=
  c.fetch (.apply flow m) fun _ => .ok ()

def delete (c : Client) (flow : String) : Conversation (Except Error Unit × Client) :=
  c.fetch (.delete flow) fun _ => .ok ()

def get (c : Client) (flow : String) : Conversation (Except Error Json × Client) :=
  c.call (.get flow)

def listFlows (c : Client) (limit : Nat) : Conversation (Except Error Json × Client) :=
  c.call (.listFlows c.project limit)

def listConnections (c : Client) : Conversation (Except Error (List Connection) × Client) :=
  c.fetch (.listConnections c.project) (Decode.listing Connection.ofJson)

def listRuns (c : Client) (flow : Option String) (limit : Nat) :
    Conversation (Except Error Json × Client) :=
  c.call (.listRuns c.project flow limit)

def pieces (c : Client) : Conversation (Except Error (List Piece) × Client) :=
  c.fetch .pieces (Decode.listing Piece.ofJson)

end Client
end Flowline.Engine
