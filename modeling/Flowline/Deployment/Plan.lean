import Flowline.Engine.Mutation
import Flowline.Flow.Path
/-!
The plan of a deployment: the mutations that rebuild a flow at the engine, in the order in which
they are issued. Actions are added depth first; the first child of an arm is put inside its branch
and every other step after the one before it, and a step is named after its path.
-/
namespace Flowline.Deployment
open Engine

/-- Where a list of actions hangs: at the trigger, or in an arm of the branch with the given
name. -/
inductive Scope where
  | top
  | inside (branch : String) (arm : Arm)
  deriving DecidableEq, Repr

/-- The part of a step name that tells the arm. -/
def armName : Arm → String
  | .onTrue => "true"
  | .onFalse => "false"

/-- The name of the `n`-th step of a list, counted from one. -/
def Scope.stepName : Scope → Nat → String
  | .top, n => "step_" ++ toString n
  | .inside branch arm, n => branch ++ "_" ++ armName arm ++ "_" ++ toString n

/-- Every step in an arm carries the index zero. -/
def Scope.branchIndex : Scope → Option Nat
  | .top => none
  | .inside .. => some 0

/-- Where the next step attaches. -/
structure Cursor where
  parent : String
  location : Location
  deriving DecidableEq, Repr

/-- The first step of a list goes inside what it hangs on. -/
def Scope.start : Scope → Cursor
  | .top => ⟨Step.triggerName, .after⟩
  | .inside branch .onTrue => ⟨branch, .insideTrue⟩
  | .inside branch .onFalse => ⟨branch, .insideFalse⟩

def addition (scope : Scope) (cursor : Cursor) (name : String) (action : Action) : Addition :=
  ⟨cursor.parent, cursor.location, scope.branchIndex, Step.ofAction name action⟩

mutual

/-- The additions of the descendants of the action with the given name. -/
def additionsInside (name : String) : Action → List Addition
  | .branch _ _ onTrue onFalse =>
    additionsFrom (.inside name .onTrue) (Scope.start (.inside name .onTrue)) 1 onTrue ++
    additionsFrom (.inside name .onFalse) (Scope.start (.inside name .onFalse)) 1 onFalse
  | _ => []

/-- The additions of a list of actions from its `n`-th on, with their descendants. -/
def additionsFrom (scope : Scope) (cursor : Cursor) (n : Nat) : List Action → List Addition
  | [] => []
  | a :: rest =>
    let name := scope.stepName n
    addition scope cursor name a ::
      (additionsInside name a ++ additionsFrom scope ⟨name, .after⟩ (n + 1) rest)

end

/-- The additions of all actions of a flow. -/
def additions (flow : Flow) : List Addition :=
  additionsFrom .top (Scope.start .top) 1 flow.actions

/-- How flows are deployed. -/
structure Options where
  autoPublish : Bool := false
  defaultTimezone : String := "Asia/Riyadh"
  baseUrl : String := ""
  folder : Option String := none
  /-- The time that everything after the creation of the shell may take. -/
  timeout : Option Nat := none
  deriving DecidableEq, Repr

/-- What is done to the empty flow, in order. -/
def mutations (options : Options) (flow : Flow) : List Mutation :=
  .updateTrigger (Step.ofTrigger options.defaultTimezone flow.trigger) ::
    ((additions flow).map .addAction ++ if options.autoPublish then [.publish] else [])

end Flowline.Deployment
