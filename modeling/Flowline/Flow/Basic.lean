import Flowline.Json.Basic
import Flowline.Text.Blank
/-!
Flows: one trigger and a tree of actions, in which a branch has two arms.
-/
namespace Flowline

/-- What a schedule asks for. -/
structure ScheduleInput where
  cronExpression : Option String
  timezone : Option String
  deriving DecidableEq, Inhabited

/-- What starts a flow. -/
inductive Trigger where
  | schedule (displayName : String) (input : ScheduleInput)
  | pieceEvent (displayName pieceName triggerName : String) (input : Json.Members)
  | webhook (displayName : String) (input : Json.Members)
  deriving Inhabited

/-- One step of a flow. The condition groups of a branch are passed on as they are. -/
inductive Action where
  | piece (displayName pieceName actionName : String) (input : Json.Members)
  | code (displayName : String) (code : Option String) (input : Json.Members)
  | branch (displayName : String) (conditions : List Json) (onTrue onFalse : List Action)
  deriving Inhabited

/-- A whole automation. -/
structure Flow where
  displayName : String
  trigger : Trigger
  actions : List Action
  connectionsNeeded : List String
  explanation : Option String
  deriving Inhabited

def Trigger.displayName : Trigger → String
  | .schedule name _ => name
  | .pieceEvent name _ _ _ => name
  | .webhook name _ => name

/-- The trimmed expression, unless it is blank. -/
def ScheduleInput.cron (input : ScheduleInput) : Option String :=
  (input.cronExpression.map Text.trim).filter fun s => !s.isEmpty

def Trigger.cron : Trigger → Option String
  | .schedule _ input => input.cron
  | _ => none

namespace Action

/-- The three kinds of action. -/
inductive Kind where
  | piece | code | branch
  deriving DecidableEq, Repr

def Kind.name : Kind → String
  | .piece => "Piece"
  | .code => "Code"
  | .branch => "Branch"

def Kind.table : List (String × Kind) :=
  [Kind.piece, .code, .branch].map fun k => (k.name, k)

def kind : Action → Kind
  | .piece .. => .piece
  | .code .. => .code
  | .branch .. => .branch

def displayName : Action → String
  | .piece name _ _ _ => name
  | .code name _ _ => name
  | .branch name _ _ _ => name

/-- The source of a code step: its own, or else the member `code` of its input; never a blank
one. -/
def codeSource (own : Option String) (input : Json.Members) : Option String :=
  (own.or ((assoc "code" input).bind Json.asString)).filter fun s => !Text.isBlankText s

def source : Action → Option String
  | .code _ own input => codeSource own input
  | _ => none

mutual

/-- The number of actions of a tree, its root included. -/
def count : Action → Nat
  | .branch _ _ onTrue onFalse => 1 + countAll onTrue + countAll onFalse
  | _ => 1

def countAll : List Action → Nat
  | [] => 0
  | a :: rest => count a + countAll rest

end

end Action

/-- The number of actions at every level. -/
def Flow.totalActions (flow : Flow) : Nat := Action.countAll flow.actions

end Flowline
