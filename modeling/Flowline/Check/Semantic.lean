import Flowline.Catalog.Basic
import Flowline.Cron
import Flowline.Flow.Path
import Flowline.Issue
import Flowline.Limits
/-!
Semantic rules of typed flows. Only steps that cannot be built block; references that the catalog
does not know advise, because the catalog may be old.
-/
namespace Flowline.Semantic

/-- The piece and trigger that stand for a schedule at the engine. -/
def schedulePiece : String := "@activepieces/piece-schedule"
def scheduleTrigger : String := "cron_expression"

/-- A broken semantic rule. -/
inductive Fault where
  | noCron
  | doubtfulCron (expr : String)
  | incompleteTrigger
  | unresolvedTrigger (why : Catalog.ReferenceError)
  | incompletePiece (step : String)
  | unresolvedPiece (step : String) (why : Catalog.ReferenceError)
  | noConditions (step : String)
  | noSource (step : String)
  | manyActions (count : Nat)
  deriving DecidableEq

def Fault.code : Fault → String
  | noCron => "V002"
  | doubtfulCron _ => "V003"
  | incompleteTrigger => "V004"
  | unresolvedTrigger _ => "V005"
  | incompletePiece _ => "V006"
  | unresolvedPiece .. => "V007"
  | noConditions _ => "V008"
  | noSource _ => "V009"
  | manyActions _ => "V010"

def Fault.message : Fault → String
  | noCron => "Schedule trigger requires input.cronExpression"
  | doubtfulCron expr =>
    "Cron expression '" ++ expr ++ "' does not look valid; the schedule may be wrong"
  | incompleteTrigger => "Piece trigger requires both pieceName and triggerName"
  | unresolvedTrigger why => "Trigger will be ignored at build time: " ++ why.message
  | incompletePiece step => "Step '" ++ step ++ "' requires both pieceName and actionName"
  | unresolvedPiece step why =>
    "Step '" ++ step ++ "' will be ignored at build time: " ++ why.message
  | noConditions step => "Branch '" ++ step ++ "' requires at least one condition"
  | noSource step =>
    "Code step '" ++ step ++ "' has no source and will compile to a placeholder"
  | manyActions count =>
    "Flow has " ++ toString count ++ " steps; consider splitting it into smaller flows"

/-- Whether the flow cannot be built while the rule is broken. -/
def Fault.blocks : Fault → Bool
  | noCron | incompleteTrigger | incompletePiece _ | noConditions _ => true
  | _ => false

/-- A broken rule and where it is broken. -/
structure Report where
  fault : Fault
  place : Place
  deriving DecidableEq

def Report.issue (r : Report) : Issue :=
  ⟨r.fault.code, .semantic, r.fault.message, r.place.text?⟩

def Report.finding (r : Report) : Finding :=
  if r.fault.blocks then .blocking r.issue else .advisory r.issue

/-- Why a reference does not resolve. -/
def unresolved (catalog : Catalog) (piece operation : String) : Option Catalog.ReferenceError :=
  match catalog.resolve piece (some operation) with
  | .ok _ => none
  | .error why => some why

/-- Whether one of the two names is blank. -/
def incomplete (piece operation : String) : Bool :=
  Text.isBlankText piece || Text.isBlankText operation

def cronFault (input : ScheduleInput) : Option Fault :=
  match input.cron with
  | none => some .noCron
  | some expr => if Cron.isPlausible expr then none else some (.doubtfulCron expr)

def triggerFaults (catalog : Catalog) : Trigger → List Fault
  | .schedule _ input =>
    (cronFault input).toList ++
      ((unresolved catalog schedulePiece scheduleTrigger).map .unresolvedTrigger).toList
  | .pieceEvent _ piece trigger _ =>
    if incomplete piece trigger then [.incompleteTrigger]
    else ((unresolved catalog piece trigger).map .unresolvedTrigger).toList
  | .webhook .. => []

/-- The rule that an action breaks, if any; its children do not matter. -/
def actionFault (catalog : Catalog) : Action → Option Fault
  | .piece name piece action _ =>
    if incomplete piece action then some (.incompletePiece name)
    else (unresolved catalog piece action).map (.unresolvedPiece name)
  | .code name own input =>
    if (Action.codeSource own input).isNone then some (.noSource name) else none
  | .branch name conditions _ _ => if conditions.isEmpty then some (.noConditions name) else none

def countFault (limits : Limits) (count : Nat) : Option Fault :=
  if limits.warnActions ≤ count ∧ count ≤ limits.maxActions then some (.manyActions count)
  else none

/-- Every broken semantic rule: of the trigger, of the actions in the order of the walk, of the
number of top-level actions. -/
def check (catalog : Catalog) (limits : Limits) (flow : Flow) : List Report :=
  (triggerFaults catalog flow.trigger).map (⟨·, .trigger⟩) ++
  flow.walk.filterMap (fun step =>
    (actionFault catalog step.2).map (⟨·, .action step.1⟩)) ++
  ((countFault limits flow.actions.length).map (⟨·, .flow⟩)).toList

end Flowline.Semantic
