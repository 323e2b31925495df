import Flowline.Deployment.Saga
/-!
Deployments against an engine whose calls take time. The clock starts at zero when the shell is
asked for; the time allowed counts from when the shell exists. Of an answer and another event that
are due at once, the answer comes first.
-/
namespace Flowline.Deployment
open Engine

/-- How the engine meets one mutation: after some time, or never; and why it fails, if it does. -/
structure Behaviour where
  delay : Option Nat
  failure : Option Failure
  deriving DecidableEq, Repr

/-- What a deployment meets. The behaviour of the `n`-th mutation, counted from the creation of the
shell, which is the zeroth. -/
structure Conditions where
  shell : String
  behaviour : Nat → Behaviour
  deletion : Except Engine.Error Unit
  /-- When the caller gives up, and whether the runtime is still there. -/
  dropAt : Option (Nat × Bool)

namespace Conditions

/-- The reply to a mutation, with the error of a failure. -/
def reply (b : Behaviour) (path : String) (value : α) : Except Engine.Error α :=
  match b.failure with
  | some why => .error ⟨"POST", path, why⟩
  | none => .ok value

/-- The earlier of the end of the time allowed and the drop. -/
def interruption (c : Conditions) (deadline : Option Nat) : Option Event :=
  match deadline, c.dropAt with
  | none, none => none
  | some _, none => some .expired
  | none, some (_, alive) => some (.dropped alive)
  | some t, some (d, alive) => if t ≤ d then some .expired else some (.dropped alive)

/-- Whether something is due by the given time, if ever. -/
def dueBy (time : Option Nat) (limit : Option Nat) : Bool :=
  match time, limit with
  | none, _ => false
  | some _, none => true
  | some t, some l => t ≤ l

/-- Whether an answer at `time` comes before the deadline and the drop. -/
def inTime (c : Conditions) (deadline time : Option Nat) : Bool :=
  dueBy time deadline && dueBy time (c.dropAt.map (·.1))

/-- What follows an interruption of the build: a deletion is answered at once. -/
def afterInterruption (c : Conditions) (deadline : Option Nat) : List Event :=
  match c.interruption deadline with
  | none => []
  | some .expired => [.expired, .deleted c.deletion]
  | some e => [e]

/-- The events while `count` mutations are left, the `n`-th of all beginning at `now`. -/
def buildEvents (c : Conditions) (deadline : Option Nat) (n now : Nat) : Nat → List Event
  | 0 => []
  | count + 1 =>
    let b := c.behaviour n
    let time := b.delay.map (now + ·)
    if c.inTime deadline time then
      match reply b (Saga.flowPath c.shell) () with
      | .ok () => .applied (.ok ()) :: c.buildEvents deadline (n + 1) (time.getD now) count
      | .error e => [.applied (.error e), .deleted c.deletion]
    else c.afterInterruption deadline

/-- The events of a deployment. -/
def events (c : Conditions) (s : Saga) : List Event :=
  let b := c.behaviour 0
  if c.inTime none b.delay then
    let now := b.delay.getD 0
    match reply b "/api/v1/flows" c.shell with
    | .ok shell =>
      .created (.ok shell) :: c.buildEvents (s.options.timeout.map (now + ·)) 1 now
        (mutations s.options s.flow).length
    | .error e => [.created (.error e)]
  else c.afterInterruption none

end Conditions

/-- How a deployment ends for its caller. -/
inductive Ending where
  | returned (result : Except Engine.Error Deployed)
  | abandoned
  | hung

def Stage.ending : Stage → Ending
  | .finished result => .returned result
  | .abandoned _ => .abandoned
  | _ => .hung

/-- Runs a deployment: how it ends, and the calls that it begins. -/
def Saga.runUnder (s : Saga) (c : Conditions) : Ending × List Call :=
  let (stage, calls) := s.run (c.events s)
  (stage.ending, calls)

end Flowline.Deployment
