import Flowline.Deployment.Saga
import Flowline.Engine.Client
/-!
A deployment that talks to the engine, one call after another. A reply that comes after the time
allowed does not count.
-/
namespace Flowline.Deployment
open Engine

abbrev Deploying := Conversation (Except Engine.Error Deployed × Client)

/-- Whether the clock of the client has passed the end of the time allowed, if there is one. -/
def isLate (deadline : Option Nat) (c : Client) : Bool :=
  match deadline with
  | none => false
  | some time => time < c.clock

/-- Applies the mutations that are left; the first error has the shell deleted. -/
def Saga.converseBuild (s : Saga) (deadline : Option Nat) (shell : String) :
    List Mutation → Client → Deploying
  | [], c => .done (.ok (s.deployed shell), c)
  | m :: rest, c => do
    let (reply, c) ← c.apply shell m
    match if isLate deadline c then .error (timeoutError shell) else reply with
    | .ok () => s.converseBuild deadline shell rest c
    | .error e =>
      let (_, c) ← c.delete shell
      return (.error e, c)

/-- Creates the shell of a flow and builds the flow in it. -/
def Saga.converse (s : Saga) (c : Client) : Deploying := do
  let (reply, c) ← c.create s.flow.displayName s.options.folder
  match reply with
  | .ok shell =>
    s.converseBuild (s.options.timeout.map (c.clock + ·)) shell (mutations s.options s.flow) c
  | .error e => return (.error e, c)

end Flowline.Deployment
