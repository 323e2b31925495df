import Flowline.Cron
import Flowline.Flow.Basic
import Flowline.Issue
import Flowline.Limits
import Flowline.Text.LowerCase
import Flowline.Text.Occurs
/-!
Policy rules: what a correct flow may still not do. They need no catalog.
-/
namespace Flowline.Policy

/-- A broken policy rule. -/
inductive Fault where
  | tooFrequent (step minimum : Nat)
  | everyMinute
  | withinMinute
  | mayCallItself
  | tooManyActions (count maximum : Nat)
  deriving DecidableEq, Repr

def Fault.code : Fault → String
  | tooFrequent .. => "G001"
  | everyMinute => "G002"
  | withinMinute => "G003"
  | mayCallItself => "G004"
  | tooManyActions .. => "G005"

def Fault.message : Fault → String
  | tooFrequent step minimum =>
    "Schedule runs every " ++ toString step ++ " minutes; the minimum interval is " ++
      toString minimum ++ " minutes"
  | everyMinute => "Schedule runs every minute; this may use a lot of executions"
  | withinMinute => "Schedule runs more than once per minute"
  | mayCallItself => "Webhook trigger with an HTTP or webhook step may call itself in a loop"
  | tooManyActions count maximum =>
    "Flow has " ++ toString count ++ " steps; the maximum is " ++ toString maximum

def Fault.blocks : Fault → Bool
  | tooFrequent .. | tooManyActions .. => true
  | _ => false

def Fault.issue (f : Fault) : Issue := ⟨f.code, .safety, f.message, none⟩

def Fault.finding (f : Fault) : Finding :=
  if f.blocks then .blocking f.issue else .advisory f.issue

/-- A step of one is every minute, which advises only. -/
def scheduleFaults (limits : Limits) (expr : String) : List Fault :=
  (match Cron.minuteStep expr with
    | some step =>
      if step ≠ 1 ∧ step < limits.minIntervalMinutes then
        [.tooFrequent step limits.minIntervalMinutes]
      else []
    | none => []) ++
  (if Cron.firesEveryMinute expr then [.everyMinute] else []) ++
  (if Cron.firesWithinMinute expr then [.withinMinute] else [])

/-- Whether a piece name speaks of HTTP or webhooks. -/
def callsOut (piece : String) : Bool :=
  let name := Text.lowerCase piece
  Text.contains name "http" || Text.contains name "webhook"

mutual

def mayCall : Action → Bool
  | .piece _ piece _ _ => callsOut piece
  | .code .. => false
  | .branch _ _ onTrue onFalse => anyMayCall onTrue || anyMayCall onFalse

def anyMayCall : List Action → Bool
  | [] => false
  | a :: rest => mayCall a || anyMayCall rest

end

def triggerFaults (limits : Limits) (flow : Flow) : List Fault :=
  match flow.trigger with
  | .schedule _ input => (input.cron.map (scheduleFaults limits)).getD []
  | .webhook .. => if anyMayCall flow.actions then [.mayCallItself] else []
  | .pieceEvent .. => []

/-- Every broken policy rule of a flow. -/
def check (limits : Limits) (flow : Flow) : List Fault :=
  triggerFaults limits flow ++
  if limits.maxActions < flow.actions.length then
    [.tooManyActions flow.actions.length limits.maxActions]
  else []

def findings (limits : Limits) (flow : Flow) : List Finding :=
  (check limits flow).map Fault.finding

end Flowline.Policy
