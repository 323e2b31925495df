import Flowline.Check.Semantic
import Flowline.Flow.Basic
import Flowline.Json.Basic
/-!
Steps as the engine stores them, and the step that stands for a trigger or an action. The engine
knows piece triggers only, so a schedule and a webhook become triggers of the pieces behind them.
-/
namespace Flowline
open Json

/-- What a step does. -/
inductive Step.Settings where
  | trigger (piece trigger : String) (input : Members)
  | piece (piece action : String) (input : Members)
  | code (input : Members)
  | branch (conditions : List Json)

/-- A step of the engine. -/
structure Step where
  name : String
  displayName : String
  settings : Step.Settings

namespace Step

inductive Kind where
  | pieceTrigger | piece | code | branch
  deriving DecidableEq, Repr

def Kind.name : Kind → String
  | .pieceTrigger => "PIECE_TRIGGER"
  | .piece => "PIECE"
  | .code => "CODE"
  | .branch => "BRANCH"

def Kind.table : List (String × Kind) :=
  [Kind.pieceTrigger, .piece, .code, .branch].map fun k => (k.name, k)

def Settings.kind : Settings → Kind
  | .trigger .. => .pieceTrigger
  | .piece .. => .piece
  | .code .. => .code
  | .branch .. => .branch

/-- The versions of a piece that a step accepts. -/
def pieceVersion : String := "~0.0.0"

def Settings.toJson : Settings → Json
  | .trigger pieceName event input =>
    .obj [("input", .obj input), ("inputUiInfo", .obj []), ("packageType", .str "REGISTRY"),
      ("pieceName", .str pieceName), ("pieceType", .str "OFFICIAL"),
      ("pieceVersion", .str pieceVersion), ("propertySettings", .obj []),
      ("triggerName", .str event)]
  | .piece pieceName actionName input =>
    .obj [("actionName", .str actionName), ("input", .obj input), ("inputUiInfo", .obj []),
      ("packageType", .str "REGISTRY"), ("pieceName", .str pieceName),
      ("pieceType", .str "OFFICIAL"), ("pieceVersion", .str pieceVersion),
      ("propertySettings", .obj [])]
  | .code input =>
    .obj [("input", .obj input), ("inputUiInfo", .obj []), ("propertySettings", .obj [])]
  | .branch conditions => .obj [("conditions", .arr conditions)]

def toJson (s : Step) : Json :=
  .obj [("name", .str s.name), ("type", .str s.settings.kind.name),
    ("displayName", .str s.displayName), ("settings", s.settings.toJson), ("valid", .bool true)]

/-- The name of every trigger step. -/
def triggerName : String := "trigger"

/-- The piece and trigger that stand for a webhook. -/
def webhookPiece : String := "@activepieces/piece-webhook"
def webhookTrigger : String := "catch_request"

/-- Stands in for a schedule without an expression. -/
def standardCron : String := "0 8 * * *"

/-- The time zone of a schedule, unless it is blank. -/
def timezoneOf (input : ScheduleInput) (standard : String) : String :=
  (input.timezone.filter fun zone => !Text.isBlankText zone).getD standard

def scheduleInput (input : ScheduleInput) (timezone : String) : Members :=
  [("cronExpression", .str (input.cron.getD standardCron)),
    ("timezone", .str (timezoneOf input timezone))]

def Settings.ofTrigger (timezone : String) : Trigger → Settings
  | .schedule _ input =>
    .trigger Semantic.schedulePiece Semantic.scheduleTrigger (scheduleInput input timezone)
  | .pieceEvent _ pieceName event input => .trigger pieceName event input
  | .webhook _ input => .trigger webhookPiece webhookTrigger input

/-- The step of a trigger; `timezone` is for schedules that name none. -/
def ofTrigger (timezone : String) (trigger : Trigger) : Step :=
  ⟨triggerName, trigger.displayName, .ofTrigger timezone trigger⟩

/-- Stands in for the source of a code step that has none. -/
def placeholder : String := "// Add your code here"

def Settings.ofAction : Action → Settings
  | .piece _ pieceName actionName input => .piece pieceName actionName input
  | .code _ own input =>
    .code (Dict.insertEntry "code" (.str ((Action.codeSource own input).getD placeholder)) input)
  | .branch _ conditions _ _ => .branch conditions

/-- The step of an action; its children are steps of their own. -/
def ofAction (name : String) (action : Action) : Step :=
  ⟨name, action.displayName, .ofAction action⟩

end Step
end Flowline
