import Flowline.Catalog.Basic
import Flowline.Flow.Encode
import Flowline.Issue
import Flowline.Json.Decode
import Flowline.Json.Printer
/-!
What the drafter is asked.
-/
namespace Flowline.Draft
open Json

inductive Role where
  | user | assistant
  deriving DecidableEq, Repr

/-- The roles by name. -/
def Role.table : List (String × Role) := [("user", .user), ("assistant", .assistant)]

def Role.name : Role → String
  | .user => "user"
  | .assistant => "assistant"

/-- A message of an earlier conversation. -/
structure Message where
  role : Role
  content : String
  deriving DecidableEq, Repr

namespace Message

structure Fields where
  role : Option Role := none
  content : Option String := none

def record : Decode.Record Fields Message where
  name := "ChatMessage"
  fields := ["role", "content"]
  start := {}
  put d key v := match key with
    | "role" => do
      .ok { d with role := ← Decode.fill "role" d.role (Decode.constant Role.table v) }
    | "content" => do .ok { d with content := ← Decode.fill "content" d.content (Decode.text v) }
    | _ => .ok d
  build d := do
    .ok ⟨← Decode.required "role" d.role, ← Decode.required "content" d.content⟩

def ofJson : Decode.Decoder Message := record.decode false

def toJson (m : Message) : Json :=
  .obj [("role", .str m.role.name), ("content", .str m.content)]

end Message

/-- How freely the drafter may answer. -/
inductive Temperature where
  | low | zero
  deriving DecidableEq, Repr

def Temperature.text : Temperature → String
  | .low => "0.1"
  | .zero => "0"

/-- One request to the drafter. -/
structure Prompt where
  system : String
  context : List Message
  user : String
  temperature : Temperature
  deriving DecidableEq

/-- The standing instructions. -/
def instructions : String :=
  "You are a workflow architect. Turn the user's request into one JSON automation flow.\n" ++
  "\n" ++
  "Rules:\n" ++
  "1. A flow has exactly one trigger and an ordered array of actions.\n" ++
  "2. Only use pieces listed in PIECES_CATALOG.\n" ++
  "3. Times, schedules, \"every day\" -> trigger type \"SCHEDULE\" with input.cronExpression and input.timezone.\n" ++
  "4. \"When X arrives\" -> trigger type \"PIECE_TRIGGER\" (pieceName + triggerName) or \"WEBHOOK\".\n" ++
  "5. Conditions (\"if\", \"when\") -> action type \"BRANCH\" with conditions, onSuccessActions and onFailureActions.\n" ++
  "6. Custom logic -> action type \"CODE\" with a JavaScript \"code\" string.\n" ++
  "7. Reference data between steps as \x7b\x7btrigger.field\x7d\x7d or \x7b\x7bstep_1.field\x7d\x7d.\n" ++
  "8. Reply with JSON only: no markdown, no backticks, no prose.\n" ++
  "\n" ++
  "Schedules: every day \"0 8 * * *\", every hour \"0 * * * *\", every Monday \"0 8 * * 1\".\n" ++
  "\n" ++
  "Shape:\n" ++
  "\x7b\n" ++
  "  \"displayName\": \"Clear name\",\n" ++
  "  \"trigger\": \x7b \"type\": \"SCHEDULE | PIECE_TRIGGER | WEBHOOK\", \"pieceName\": \"@activepieces/piece-xxx\", \"triggerName\": \"trigger-name\", \"displayName\": \"...\", \"input\": \x7b\x7d \x7d,\n" ++
  "  \"actions\": [\n" ++
  "    \x7b \"type\": \"PIECE\", \"pieceName\": \"@activepieces/piece-xxx\", \"actionName\": \"action-name\", \"displayName\": \"...\", \"input\": \x7b\x7d \x7d\n" ++
  "  ],\n" ++
  "  \"connections_needed\": [],\n" ++
  "  \"explanation\": \"Two short lines\"\n" ++
  "\x7d\n" ++
  "\n" ++
  "If the request cannot be automated, reply \x7b\"error\": \"reason\"\x7d."

/-- The instructions, then the pieces that may be used, at most `limit` of them. -/
def systemText (catalog : Catalog) (limit : Nat) : String :=
  let shown := catalog.summaries limit
  instructions ++ "\n\n## PIECES_CATALOG (" ++ toString catalog.size ++ " total, showing " ++
    toString shown.length ++ "):\n" ++ (Json.arr (shown.map (·.toJson))).pretty

/-- Lines numbered from `n` on. -/
def numberedFrom (n : Nat) : List String → List String
  | [] => []
  | s :: rest => (toString n ++ ". " ++ s) :: numberedFrom (n + 1) rest

/-- Asks for a correction of the issues of a candidate. -/
def repairText (request : String) (candidate : Json) (issues : List Issue) : String :=
  "Fix the following errors and reply with corrected JSON only.\n\nErrors:\n" ++
    String.intercalate "\n" (numberedFrom 1 (issues.map Issue.text)) ++
    "\n\nPrevious JSON:\n" ++ candidate.pretty ++ "\n\nRequest: " ++ request

/-- Asks for a change of a flow. -/
def changeText (flow : Flow) (change : String) : String :=
  "Modify this existing flow and reply with the complete updated JSON.\n\nCurrent flow:\n" ++
    flow.toJson.pretty ++ "\n\nChange: " ++ change

end Flowline.Draft
