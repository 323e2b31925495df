import Flowline.Deployment.Deployed
import Flowline.Deployment.Plan
import Flowline.Engine.Error
/-!
The course of a deployment as a transition system. The shell of a flow is created, then the planned
mutations are applied one after another. What happens after the shell exists and before the end is
undone by one deletion: a failure, the end of the time allowed, and, for a guarded deployment, the
caller giving up.
-/
namespace Flowline.Deployment
open Engine

/-- What became of the deletion when the caller gave up. A detached deletion goes on without the
caller; one that the caller was waiting for is cut short. -/
inductive Cleanup where
  | none | detached | cutShort
  deriving DecidableEq, Repr

/-- How far a deployment has come. -/
inductive Stage where
  | creating
  /-- The first of the pending mutations is in flight. -/
  | building (shell : String) (pending : List Mutation)
  | undoing (shell : String) (error : Engine.Error)
  | finished (result : Except Engine.Error Deployed)
  | abandoned (cleanup : Cleanup)

/-- What a deployment can meet. -/
inductive Event where
  | created (reply : Except Engine.Error String)
  | applied (reply : Except Engine.Error Unit)
  | deleted (reply : Except Engine.Error Unit)
  | expired
  | dropped (runtimeAlive : Bool)

/-- A flow on its way to the engine. A guarded deployment deletes the shell when the caller gives
up. -/
structure Saga where
  flow : Flow
  options : Options
  guarded : Bool

namespace Saga

def flowPath (shell : String) : String := "/api/v1/flows/" ++ shell

def timeoutError (shell : String) : Engine.Error := ⟨"POST", flowPath shell, .timedOut⟩

def deployed (s : Saga) (shell : String) : Deployed where
  flowId := shell
  url := Text.dropTrailing '/' s.options.baseUrl ++ "/flows/" ++ shell
  stepCount := (additions s.flow).length
  published := s.options.autoPublish

/-- The call that begins a deployment. -/
def start (s : Saga) : Call := .create s.flow.displayName s.options.folder

/-- Goes on with the mutations that are left. -/
def proceed (s : Saga) (shell : String) : List Mutation → Stage × List Call
  | [] => (.finished (.ok (s.deployed shell)), [])
  | m :: rest => (.building shell (m :: rest), [.apply shell m])

/-- Deletes the shell on account of an error. -/
def undo (shell : String) (error : Engine.Error) : Stage × List Call :=
  (.undoing shell error, [.delete shell])

/-- The next stage, and the calls that are begun. -/
def step (s : Saga) : Stage → Event → Stage × List Call
  | .creating, .created (.ok shell) => s.proceed shell (mutations s.options s.flow)
  | .creating, .created (.error e) => (.finished (.error e), [])
  | .creating, .dropped _ => (.abandoned .none, [])
  | .building shell (_ :: rest), .applied (.ok ()) => s.proceed shell rest
  | .building shell _, .applied (.error e) => undo shell e
  | .building shell _, .expired => undo shell (timeoutError shell)
  | .building shell _, .dropped runtimeAlive =>
    if s.guarded && runtimeAlive then (.abandoned .detached, [.delete shell])
    else (.abandoned .none, [])
  | .undoing _ e, .deleted _ => (.finished (.error e), [])
  | .undoing .., .dropped _ => (.abandoned .cutShort, [])
  | stage, _ => (stage, [])

/-- The stage after the events, and the calls begun on the way. -/
def runFrom (s : Saga) (stage : Stage) : List Event → Stage × List Call
  | [] => (stage, [])
  | e :: rest =>
    let (next, calls) := s.step stage e
    let (last, more) := s.runFrom next rest
    (last, calls ++ more)

/-- A whole run, the first call included. -/
def run (s : Saga) (events : List Event) : Stage × List Call :=
  let (last, calls) := s.runFrom .creating events
  (last, s.start :: calls)

end Saga
end Flowline.Deployment
