import Flowline.Flow.Basic
import Flowline.Json.Decode
/-!
Flows read from JSON values. The generic names of drafts (`pieceId`, `eventId`, `operationId`,
`sourceText`, `onTrue`, `onFalse`, `connectionsNeeded`, `explanation_ar`) are other spellings of
the fields that they stand for. What stands inside a trigger or an action is read from a copy.
-/
namespace Flowline
open Json Decode

namespace ScheduleInput

/-- The fields met so far; a field that was null has been met. -/
structure Fields where
  cronExpression : Option (Option String) := none
  timezone : Option (Option String) := none

def record : Record Fields ScheduleInput where
  name := "ScheduleInput"
  fields := ["cronExpression", "timezone"]
  start := {}
  put d key v := match key with
    | "cronExpression" => do
      .ok { d with cronExpression := ← fill "cronExpression" d.cronExpression (option text v) }
    | "timezone" => do .ok { d with timezone := ← fill "timezone" d.timezone (option text v) }
    | _ => .ok d
  build d := .ok ⟨d.cronExpression.getD none, d.timezone.getD none⟩

def decode (buffered : Bool) : Decoder ScheduleInput := record.decode buffered

end ScheduleInput

namespace Trigger

structure Fields where
  displayName : Option String := none
  pieceName : Option String := none
  triggerName : Option String := none
  schedule : Option ScheduleInput := none
  input : Option Members := none

def scheduleRecord : Record Fields Trigger where
  name := "ScheduleTrigger"
  fields := ["displayName", "input"]
  start := {}
  put d key v := match key with
    | "displayName" => do .ok { d with displayName := ← fill "displayName" d.displayName (text v) }
    | "input" => do
      .ok { d with schedule := ← fill "input" d.schedule (ScheduleInput.decode true v) }
    | _ => .ok d
  build d := do
    .ok (.schedule (← required "displayName" d.displayName) (d.schedule.getD ⟨none, none⟩))

def pieceEventRecord : Record Fields Trigger where
  name := "PieceEventTrigger"
  fields := ["displayName", "pieceName", "triggerName", "input"]
  start := {}
  put d key v := match key with
    | "displayName" => do .ok { d with displayName := ← fill "displayName" d.displayName (text v) }
    | "pieceName" | "pieceId" => do
      .ok { d with pieceName := ← fill "pieceName" d.pieceName (text v) }
    | "triggerName" | "eventId" => do
      .ok { d with triggerName := ← fill "triggerName" d.triggerName (text v) }
    | "input" => do .ok { d with input := ← fill "input" d.input (object v) }
    | _ => .ok d
  build d := do
    .ok (.pieceEvent (← required "displayName" d.displayName) (d.pieceName.getD "")
      (d.triggerName.getD "") (d.input.getD []))

def webhookRecord : Record Fields Trigger where
  name := "WebhookTrigger"
  fields := ["displayName", "input"]
  start := {}
  put d key v := match key with
    | "displayName" => do .ok { d with displayName := ← fill "displayName" d.displayName (text v) }
    | "input" => do .ok { d with input := ← fill "input" d.input (object v) }
    | _ => .ok d
  build d := do .ok (.webhook (← required "displayName" d.displayName) (d.input.getD []))

/-- The tags, in the order of the variants. -/
def tags : List String := ["SCHEDULE", "PIECE_TRIGGER", "WEBHOOK"]

def ofJson : Decoder Trigger := fun v => do
  match ← tagOf false "Trigger" tags v with
  | 0 => scheduleRecord.decode true (content v)
  | 1 => pieceEventRecord.decode true (content v)
  | _ => webhookRecord.decode true (content v)

end Trigger

namespace Action

/-- The fields met so far, for every kind of action. -/
structure Fields where
  displayName : Option String := none
  pieceName : Option String := none
  actionName : Option String := none
  code : Option (Option String) := none
  input : Option Members := none
  conditions : Option (List Json) := none
  onTrue : Option (List Action) := none
  onFalse : Option (List Action) := none

def pieceRecord : Record Fields Action where
  name := "PieceCall"
  fields := ["displayName", "pieceName", "actionName", "input"]
  start := {}
  put d key v := match key with
    | "displayName" => do .ok { d with displayName := ← fill "displayName" d.displayName (text v) }
    | "pieceName" | "pieceId" => do
      .ok { d with pieceName := ← fill "pieceName" d.pieceName (text v) }
    | "actionName" | "operationId" => do
      .ok { d with actionName := ← fill "actionName" d.actionName (text v) }
    | "input" => do .ok { d with input := ← fill "input" d.input (object v) }
    | _ => .ok d
  build d := do
    .ok (.piece (← required "displayName" d.displayName) (d.pieceName.getD "")
      (d.actionName.getD "") (d.input.getD []))

def codeRecord : Record Fields Action where
  name := "CodeBlock"
  fields := ["displayName", "code", "input"]
  start := {}
  put d key v := match key with
    | "displayName" => do .ok { d with displayName := ← fill "displayName" d.displayName (text v) }
    | "code" | "sourceText" => do .ok { d with code := ← fill "code" d.code (option text v) }
    | "input" => do .ok { d with input := ← fill "input" d.input (object v) }
    | _ => .ok d
  build d := do
    .ok (.code (← required "displayName" d.displayName) (d.code.getD none) (d.input.getD []))

/-- The fields of a branch in order. -/
def branchFields : List String :=
  ["displayName", "conditions", "onSuccessActions", "onFailureActions"]

/-- Meets one field of a branch; `arm` is what the value is as a list of actions. -/
def putBranch (d : Fields) (key : String) (v : Json) (arm : Except DecodeError (List Action)) :
    Except DecodeError Fields :=
  match key with
  | "displayName" => do .ok { d with displayName := ← fill "displayName" d.displayName (text v) }
  | "conditions" => do .ok { d with conditions := ← fill "conditions" d.conditions (list any v) }
  | "onSuccessActions" | "onTrue" => do
    .ok { d with onTrue := ← fill "onSuccessActions" d.onTrue arm }
  | "onFailureActions" | "onFalse" => do
    .ok { d with onFalse := ← fill "onFailureActions" d.onFalse arm }
  | _ => .ok d

def buildBranch (d : Fields) : Except String Action := do
  .ok (.branch (← required "displayName" d.displayName) (d.conditions.getD [])
    (d.onTrue.getD []) (d.onFalse.getD []))

/-- The tags, in the order of the variants. -/
def tags : List String := ["PIECE", "CODE", "BRANCH"]

mutual

def decode (buffered : Bool) : Json → Except DecodeError Action
  | .obj members => do
    match ← tagOf buffered "Action" tags (.obj members) with
    | 0 => pieceRecord.ofMembers members
    | 1 => codeRecord.ofMembers members
    | _ =>
      let d ← branchMembers {} members
      (buildBranch d).mapError .missingField
  | .arr (t :: elements) => do
    match ← tag buffered tags t with
    | 0 => pieceRecord.ofElements true elements
    | 1 => codeRecord.ofElements true elements
    | _ =>
      let d ← branchElements {} branchFields elements
      let a ← (buildBranch d).mapError fun _ => .wrongLength elements.length
        ("struct Branch with " ++ elementCount branchFields.length)
      if branchFields.length < elements.length then
        .error (tooLong true elements.length branchFields.length)
      else .ok a
  | .arr [] => .error (.missingField "type")
  | v => .error (.wrongType v "internally tagged enum Action")

def branchMembers (d : Fields) : List (String × Json) → Except DecodeError Fields
  | [] => .ok d
  | (key, v) :: rest => do
    let d ← putBranch d key v (decodeList v)
    branchMembers d rest

def branchElements (d : Fields) : List String → List Json → Except DecodeError Fields
  | key :: keys, v :: rest => do
    let d ← putBranch d key v (decodeList v)
    branchElements d keys rest
  | _, _ => .ok d

/-- The actions of an arm. -/
def decodeList : Json → Except DecodeError (List Action)
  | .arr elements => decodeAll elements
  | v => .error (.wrongType v "a sequence")

def decodeAll : List Json → Except DecodeError (List Action)
  | [] => .ok []
  | v :: rest => do
    let a ← decode true v
    let more ← decodeAll rest
    .ok (a :: more)

end

end Action

namespace Flow

structure Fields where
  displayName : Option String := none
  trigger : Option Trigger := none
  actions : Option (List Action) := none
  connectionsNeeded : Option (List String) := none
  explanation : Option (Option String) := none

def record : Record Fields Flow where
  name := "FlowDescriptor"
  fields := ["displayName", "trigger", "actions", "connections_needed", "explanation"]
  start := {}
  put d key v := match key with
    | "displayName" => do .ok { d with displayName := ← fill "displayName" d.displayName (text v) }
    | "trigger" => do .ok { d with trigger := ← fill "trigger" d.trigger (Trigger.ofJson v) }
    | "actions" => do
      .ok { d with actions := ← fill "actions" d.actions (list (Action.decode false) v) }
    | "connections_needed" | "connectionsNeeded" => do
      let names ← fill "connections_needed" d.connectionsNeeded (list text v)
      .ok { d with connectionsNeeded := names }
    | "explanation" | "explanation_ar" => do
      .ok { d with explanation := ← fill "explanation" d.explanation (option text v) }
    | _ => .ok d
  build d := do
    .ok {
      displayName := ← required "displayName" d.displayName
      trigger := ← required "trigger" d.trigger
      actions := ← required "actions" d.actions
      connectionsNeeded := d.connectionsNeeded.getD []
      explanation := d.explanation.getD none }

def ofJson : Decoder Flow := record.decode false

end Flow
end Flowline
