import Flowline.Step.Basic
/-!
Changes of a flow at the engine, and calls of the engine.
-/
namespace Flowline.Engine
open Json

/-- Where a step is put with regard to its parent. -/
inductive Location where
  | after | insideTrue | insideFalse
  deriving DecidableEq, Repr

def Location.name : Location → String
  | .after => "AFTER"
  | .insideTrue => "INSIDE_TRUE_BRANCH"
  | .insideFalse => "INSIDE_FALSE_BRANCH"

def Location.table : List (String × Location) :=
  [Location.after, .insideTrue, .insideFalse].map fun l => (l.name, l)

/-- A step to be added. -/
structure Addition where
  parent : String
  location : Location
  branchIndex : Option Nat
  step : Step

def Addition.toJson (a : Addition) : Json :=
  .obj ([("parentStep", .str a.parent),
    ("stepLocationRelativeToParent", .str a.location.name)] ++
    optional "branchIndex" nat a.branchIndex ++ [("action", a.step.toJson)])

/-- One change of an existing flow. -/
inductive Mutation where
  | updateTrigger (step : Step)
  | addAction (addition : Addition)
  | publish
  | setEnabled (enabled : Bool)

namespace Mutation

def name : Mutation → String
  | updateTrigger _ => "UPDATE_TRIGGER"
  | addAction _ => "ADD_ACTION"
  | publish => "LOCK_AND_PUBLISH"
  | setEnabled _ => "CHANGE_STATUS"

/-- Whether a flow is switched on, by name. -/
def stateTable : List (String × Bool) := [("ENABLED", true), ("DISABLED", false)]

def stateName (enabled : Bool) : String := if enabled then "ENABLED" else "DISABLED"

def request : Mutation → Json
  | updateTrigger step => step.toJson
  | addAction addition => addition.toJson
  | publish => .obj []
  | setEnabled enabled => .obj [("status", .str (stateName enabled))]

def toJson (m : Mutation) : Json := .obj [("type", .str m.name), ("request", m.request)]

end Mutation

/-- A call of the engine. -/
inductive Call where
  | create (displayName : String) (folder : Option String)
  | apply (flow : String) (mutation : Mutation)
  | delete (flow : String)
  | get (flow : String)
  | listFlows (limit : Nat)
  | listConnections
  | listRuns (flow : Option String) (limit : Nat)

end Flowline.Engine
