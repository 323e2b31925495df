import Flowline.Flow.Basic
/-!
Flows as JSON values, their members in the order of declaration.
-/
namespace Flowline
open Json

def ScheduleInput.toJson (input : ScheduleInput) : Json :=
  .obj (optional "cronExpression" .str input.cronExpression ++
    optional "timezone" .str input.timezone)

def Trigger.toJson : Trigger → Json
  | .schedule name input =>
    .obj [("type", .str "SCHEDULE"), ("displayName", .str name), ("input", input.toJson)]
  | .pieceEvent name piece trigger input =>
    .obj [("type", .str "PIECE_TRIGGER"), ("displayName", .str name), ("pieceName", .str piece),
      ("triggerName", .str trigger), ("input", .obj input)]
  | .webhook name input =>
    .obj [("type", .str "WEBHOOK"), ("displayName", .str name), ("input", .obj input)]

namespace Action

mutual

def toJson : Action → Json
  | .piece name pieceName actionName input =>
    .obj [("type", .str "PIECE"), ("displayName", .str name), ("pieceName", .str pieceName),
      ("actionName", .str actionName), ("input", .obj input)]
  | .code name own input =>
    .obj ([("type", .str "CODE"), ("displayName", .str name)] ++ optional "code" .str own ++
      [("input", .obj input)])
  | .branch name conditions onTrue onFalse =>
    .obj [("type", .str "BRANCH"), ("displayName", .str name), ("conditions", .arr conditions),
      ("onSuccessActions", .arr (toJsonAll onTrue)),
      ("onFailureActions", .arr (toJsonAll onFalse))]

def toJsonAll : List Action → List Json
  | [] => []
  | a :: rest => toJson a :: toJsonAll rest

end

end Action

def Flow.toJson (flow : Flow) : Json :=
  .obj ([("displayName", .str flow.displayName), ("trigger", flow.trigger.toJson),
    ("actions", .arr (Action.toJsonAll flow.actions)),
    ("connections_needed", strings flow.connectionsNeeded)] ++
    optional "explanation" .str flow.explanation)

end Flowline
