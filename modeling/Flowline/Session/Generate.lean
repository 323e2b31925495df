import Flowline.Check.Policy
import Flowline.Draft.Repair
import Flowline.Session.Error
/-!
From a request to a flow that may be deployed: drafting, then the policy.
-/
namespace Flowline.Session
open Draft

/-- An accepted flow with the advice about it. -/
structure Generated where
  flow : Flow
  warnings : List Issue
  repaired : Bool

/-- What a draft comes to under the policy. -/
def accept (limits : Limits) : Outcome → Except FlowError Generated
  | .rejected errors true _ =>
    .error (.refused (String.intercalate "; " (errors.map (·.message))))
  | .rejected errors false _ => .error (.malformed errors)
  | .accepted flow warnings repaired =>
    let findings := Policy.findings limits flow
    if findings.any Finding.isBlocking then .error (.notAllowed (Finding.blocks findings))
    else .ok ⟨flow, warnings ++ Finding.advice findings, repaired⟩

abbrev Generating := Dialogue Prompt Reply (Except FlowError Generated)

/-- Has a flow drafted for a request. -/
def generate (s : Setting) (request : String) (context : List Message) : Generating :=
  (draft s request context).map fun
    | .error e => .error (.draft e)
    | .ok outcome => accept s.limits outcome

/-- Has a new flow drafted from a flow and a change. -/
def modify (s : Setting) (flow : Flow) (change : String) (context : List Message) : Generating :=
  generate s (changeText flow change) context

end Flowline.Session
