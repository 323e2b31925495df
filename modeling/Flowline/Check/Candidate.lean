import Flowline.Check.Semantic
import Flowline.Check.Shape
import Flowline.Flow.Decode
/-!
The check of a candidate: what the drafter refused, then the shape rules, then the typed form, then
the semantic rules. The first of these that finds a fault ends the check, and a flow comes out
exactly when nothing blocks. A typed flow is checked without the first and third step.
-/
namespace Flowline
open Json

namespace Candidate

/-- Members that are null count as absent. -/
def dropNulls (members : Members) : Members := members.filter fun m => !m.2.isNull

/-- The keys of a branch that may hold children. -/
def isArmKey (key : String) : Bool :=
  key == "onSuccessActions" || key == "onFailureActions" || key == "onTrue" || key == "onFalse"

mutual

/-- An action without the null members of its own and of the actions below. -/
def cleanAction : Json → Json
  | .obj members => .obj (cleanMembers members)
  | v => v

def cleanMembers : List (String × Json) → List (String × Json)
  | [] => []
  | (key, v) :: rest =>
    if v.isNull then cleanMembers rest
    else (key, if isArmKey key then cleanList v else v) :: cleanMembers rest

/-- A list of actions; any other value stays as it is. -/
def cleanList : Json → Json
  | .arr elements => .arr (cleanAll elements)
  | v => v

def cleanAll : List Json → List Json
  | [] => []
  | v :: rest => cleanAction v :: cleanAll rest

end

def cleanTrigger : Json → Json
  | .obj members => .obj (dropNulls members)
  | v => v

/-- The candidate without the null members of the root, the trigger and the actions. -/
def clean : Json → Json
  | .obj root => .obj ((dropNulls root).map fun m =>
      (m.1, if m.1 = "trigger" then cleanTrigger m.2
        else if m.1 = "actions" then cleanList m.2 else m.2))
  | v => v

/-- The typed form of a candidate. -/
def toFlow (candidate : Json) : Except DecodeError Flow := Flow.ofJson (clean candidate)

/-- The reason that the drafter gives for not drafting a flow. -/
def refusal (candidate : Json) : Option String :=
  (((candidate.member? "error").bind asString).map Text.trim).filter fun s => !s.isEmpty

def refusalFinding (reason : String) : Finding := .blocking ⟨"V001", .semantic, reason, none⟩

def unreadableFinding (why : DecodeError) : Finding :=
  .blocking ⟨"S012", .schema, "Flow does not match the expected shape: " ++ why.message, none⟩

end Candidate

/-- The outcome of a check. -/
structure Verdict where
  findings : List Finding
  /-- The drafter itself declared the request impossible. -/
  refused : Bool
  flow : Option Flow

namespace Verdict

def errors (v : Verdict) : List Issue := Finding.blocks v.findings
def warnings (v : Verdict) : List Issue := Finding.advice v.findings
def isValid (v : Verdict) : Bool := v.flow.isSome

end Verdict

namespace Flow

/-- The semantic findings of a flow. -/
def semanticFindings (catalog : Catalog) (limits : Limits) (flow : Flow) : List Finding :=
  (Semantic.check catalog limits flow).map Semantic.Report.finding

/-- The findings of a flow that did not come out of the check of a candidate. -/
def findings (catalog : Catalog) (limits : Limits) (flow : Flow) : List Finding :=
  match Shape.checkFlow limits.maxBranchDepth flow with
  | [] => flow.semanticFindings catalog limits
  | reports => reports.map fun r => .blocking r.issue

end Flow

namespace Candidate

/-- The verdict on a flow that has the right shape. -/
def verdict (catalog : Catalog) (limits : Limits) (flow : Flow) : Verdict :=
  let findings := flow.semanticFindings catalog limits
  ⟨findings, false, if findings.any Finding.isBlocking then none else some flow⟩

/-- Checks a candidate. -/
def check (catalog : Catalog) (limits : Limits) (candidate : Json) : Verdict :=
  match refusal candidate with
  | some reason => ⟨[refusalFinding reason], true, none⟩
  | none =>
    match Shape.check limits.maxBranchDepth candidate with
    | [] =>
      match toFlow candidate with
      | .error why => ⟨[unreadableFinding why], false, none⟩
      | .ok flow => verdict catalog limits flow
    | reports => ⟨reports.map fun r => .blocking r.issue, false, none⟩

end Candidate
end Flowline
