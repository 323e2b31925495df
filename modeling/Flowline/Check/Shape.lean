import Flowline.Flow.Path
import Flowline.Issue
/-!
Shape rules: what a JSON value must look like before it is read as a flow, and the part of these
rules that a flow in typed form can still break. Both walks visit branches in the same order and
stop below a branch that is too deep.
-/
namespace Flowline.Shape

/-- What a field must be. -/
inductive Form where
  | object | array | text | actions
  deriving DecidableEq, Repr

def Form.words : Form → String
  | .object => "an object"
  | .array => "an array"
  | .text => "a string"
  | .actions => "an array of actions"

/-- A broken shape rule. -/
inductive Fault where
  | notAnObject
  | blankName
  | noTrigger
  | triggerKind
  | triggerName
  | noActions
  | actionNotAnObject
  | actionKind
  | actionName
  | tooDeep (limit : Nat)
  | wrongForm (field : String) (form : Form)
  deriving DecidableEq, Repr

def triggerKinds : List String := ["SCHEDULE", "PIECE_TRIGGER", "WEBHOOK"]

def actionKinds : List String := ["PIECE", "CODE", "BRANCH"]

def Fault.code : Fault → String
  | notAnObject => "S001"
  | blankName => "S002"
  | noTrigger => "S003"
  | triggerKind => "S004"
  | triggerName => "S005"
  | noActions => "S006"
  | actionNotAnObject => "S007"
  | actionKind => "S008"
  | actionName => "S009"
  | tooDeep _ => "S010"
  | wrongForm .. => "S011"

def Fault.message : Fault → String
  | notAnObject => "Flow must be a JSON object"
  | blankName => "displayName is required and must be a non-empty string"
  | noTrigger => "trigger is required and must be an object"
  | triggerKind => "trigger.type must be one of: " ++ String.intercalate ", " triggerKinds
  | triggerName => "trigger.displayName is required"
  | noActions => "actions is required and must be a non-empty array"
  | actionNotAnObject => "Action must be an object"
  | actionKind => "Action type must be one of: " ++ String.intercalate ", " actionKinds
  | actionName => "Action displayName is required"
  | tooDeep limit => "Branches are nested deeper than " ++ toString limit ++ " levels"
  | wrongForm field form => field ++ " must be " ++ form.words

/-- A broken rule and where it is broken. -/
structure Report where
  fault : Fault
  place : Place
  deriving DecidableEq, Repr

def Report.issue (r : Report) : Issue :=
  ⟨r.fault.code, .schema, r.fault.message, r.place.text?⟩

/-- A member is absent, null or of the given form. -/
def fits (form : Form) (v : Option Json) : Bool :=
  match v with
  | none => true
  | some v =>
    v.isNull || match form with
      | .object => v.isObject
      | .array | .actions => v.isArray
      | .text => v.isString

/-- The optional fields of triggers and actions, with their forms. -/
def optionalFields : List (String × Form) :=
  [("input", .object), ("conditions", .array), ("pieceName", .text), ("pieceId", .text),
    ("triggerName", .text), ("eventId", .text), ("actionName", .text), ("operationId", .text),
    ("code", .text), ("sourceText", .text)]

def checkFields (members : Json.Members) (place : Place) : List Report :=
  (optionalFields.filter fun f => !fits f.2 (assoc f.1 members)).map fun f =>
    ⟨.wrongForm f.1 f.2, place⟩

/-- A member that is a text with a character that is not blank. -/
def hasText (v : Option Json) : Bool :=
  match v with
  | some (.str s) => !Text.isBlankText s
  | _ => false

def hasString (v : Option Json) : Bool :=
  match v with
  | some (.str _) => true
  | _ => false

/-- The text of the member `type`. -/
def kindOf (members : Json.Members) : Option String := (assoc "type" members).bind Json.asString

def isOneOf (kind : Option String) (kinds : List String) : Bool :=
  match kind with
  | some k => kinds.contains k
  | none => false

/-- One report where the rule is not kept. -/
def demand (kept : Bool) (fault : Fault) (place : Place) : List Report :=
  if kept then [] else [⟨fault, place⟩]

def checkName (root : Json.Members) : List Report :=
  demand (hasText (assoc "displayName" root)) .blankName .flow

def checkTrigger (root : Json.Members) : List Report :=
  match (assoc "trigger" root).bind Json.asObject with
  | none => [⟨.noTrigger, .trigger⟩]
  | some trigger =>
    demand (isOneOf (kindOf trigger) triggerKinds) .triggerKind .trigger ++
    demand (hasString (assoc "displayName" trigger)) .triggerName .trigger ++
    checkFields trigger .trigger ++
    match (assoc "input" trigger).bind Json.asObject with
    | none => []
    | some input =>
      ["cronExpression", "timezone"].flatMap fun key =>
        demand (fits .text (assoc key input)) (.wrongForm ("trigger.input." ++ key) .text) .trigger

/-- The member that holds an arm: under its own key, or else under its other one. -/
def armMember (members : Json.Members) : Arm → Option Json
  | .onTrue => (assoc "onSuccessActions" members).or (assoc "onTrue" members)
  | .onFalse => (assoc "onFailureActions" members).or (assoc "onFalse" members)

/-- Whether an arm has a child. -/
def armFilled (v : Option Json) : Bool :=
  match v with
  | some (.arr (_ :: _)) => true
  | _ => false

/-- Whether the value is a branch one of whose arms has a child. -/
def isFilledBranch (members : Json.Members) : Bool :=
  kindOf members == some "BRANCH" &&
    (armFilled (armMember members .onTrue) || armFilled (armMember members .onFalse))

/-- The rules of one action, those about its children aside. -/
def checkMembers (members : Json.Members) (place : Place) : List Report :=
  demand (isOneOf (kindOf members) actionKinds) .actionKind place ++
  demand (hasString (assoc "displayName" members)) .actionName place ++
  checkFields members place ++
  if kindOf members == some "BRANCH" then
    [Arm.onTrue, Arm.onFalse].flatMap fun arm =>
      demand (fits .actions (armMember members arm)) (.wrongForm arm.key .actions) place
  else []

/-- The name under which an arm is looked up: its own key if there is such a member. -/
def armKey (members : Json.Members) (arm : Arm) : String :=
  match arm with
  | .onTrue => if (assoc "onSuccessActions" members).isSome then "onSuccessActions" else "onTrue"
  | .onFalse =>
    if (assoc "onFailureActions" members).isSome then "onFailureActions" else "onFalse"

mutual

/-- An action with `depth` branches above it. -/
def checkAction (limit depth : Nat) (p : Path) : Json → List Report
  | .obj members =>
    checkMembers members (.action p) ++
    if kindOf members == some "BRANCH" then
      if isFilledBranch members && limit < depth + 1 then [⟨.tooDeep limit, .action p⟩]
      else
        checkArm limit (depth + 1) p .onTrue (armKey members .onTrue) members ++
        checkArm limit (depth + 1) p .onFalse (armKey members .onFalse) members
    else []
  | _ => [⟨.actionNotAnObject, .action p⟩]

/-- The children under the first member with the given key. -/
def checkArm (limit depth : Nat) (p : Path) (arm : Arm) (key : String) :
    List (String × Json) → List Report
  | [] => []
  | (k, v) :: rest =>
    if k = key then checkChildren limit depth (.inside p arm) v
    else checkArm limit depth p arm key rest

def checkChildren (limit depth : Nat) (stem : Stem) : Json → List Report
  | .arr elements => checkActions limit depth stem 0 elements
  | _ => []

/-- The actions of a list from its `i`-th place on. -/
def checkActions (limit depth : Nat) (stem : Stem) (i : Nat) : List Json → List Report
  | [] => []
  | v :: rest =>
    checkAction limit depth (stem.nth i) v ++ checkActions limit depth stem (i + 1) rest

end

def checkActionList (limit : Nat) (root : Json.Members) : List Report :=
  match assoc "actions" root with
  | some (.arr (v :: rest)) => checkActions limit 0 .top 0 (v :: rest)
  | _ => [⟨.noActions, .flow⟩]

/-- Every broken shape rule of a JSON value. -/
def check (limit : Nat) : Json → List Report
  | .obj root => checkName root ++ checkTrigger root ++ checkActionList limit root
  | _ => [⟨.notAnObject, .flow⟩]

mutual

def depthOf (limit depth : Nat) (p : Path) : Action → List Report
  | .branch _ _ onTrue onFalse =>
    if !(onTrue.isEmpty && onFalse.isEmpty) && limit < depth + 1 then
      [⟨.tooDeep limit, .action p⟩]
    else
      depthOfAll limit (depth + 1) (.inside p .onTrue) 0 onTrue ++
      depthOfAll limit (depth + 1) (.inside p .onFalse) 0 onFalse
  | _ => []

def depthOfAll (limit depth : Nat) (stem : Stem) (i : Nat) : List Action → List Report
  | [] => []
  | a :: rest => depthOf limit depth (stem.nth i) a ++ depthOfAll limit depth stem (i + 1) rest

end

/-- Every shape rule that a typed flow breaks. -/
def checkFlow (limit : Nat) (flow : Flow) : List Report :=
  demand (!Text.isBlankText flow.displayName) .blankName .flow ++
  demand (!flow.actions.isEmpty) .noActions .flow ++
  depthOfAll limit 0 .top 0 flow.actions

end Flowline.Shape
