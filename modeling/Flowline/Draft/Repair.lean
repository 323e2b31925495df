import Flowline.Check.Candidate
import Flowline.Draft.Candidate
import Flowline.Dialogue
import Flowline.Draft.Prompt
/-!
Drafting with one repair: the drafter is asked once, and once more with the issues that block
unless it refused.
-/
namespace Flowline.Draft

/-- The reply of the drafter, or why the call failed. -/
abbrev Reply := Except String String

/-- How drafting ends. -/
inductive Outcome where
  | accepted (flow : Flow) (warnings : List Issue) (repaired : Bool)
  | rejected (errors : List Issue) (refused : Bool) (attempts : Nat)

/-- What drafting depends on besides the request. -/
structure Setting where
  catalog : Catalog
  limits : Limits := {}
  summaryLimit : Nat := Catalog.summaryLimit

abbrev Drafting := Dialogue Prompt Reply (Except DraftError Outcome)

/-- The candidate in a reply. -/
def read : Reply → Except DraftError Json
  | .error reason => .error (.callFailed reason)
  | .ok raw => candidate raw

def firstPrompt (s : Setting) (request : String) (context : List Message) : Prompt :=
  ⟨systemText s.catalog s.summaryLimit, context, request, .low⟩

def repairPrompt (s : Setting) (request : String) (candidate : Json) (issues : List Issue) :
    Prompt :=
  ⟨systemText s.catalog s.summaryLimit, [], repairText request candidate issues, .zero⟩

/-- Drafting ends with the verdict on the candidate of the given attempt. -/
def conclude (attempts : Nat) (v : Verdict) : Outcome :=
  match v.flow with
  | some flow => .accepted flow v.warnings (1 < attempts)
  | none => .rejected v.errors v.refused attempts

/-- Whether a verdict on the first candidate calls for a second attempt. -/
def needsRepair (v : Verdict) : Bool := v.flow.isNone && !v.refused

/-- Goes on with the candidate in a reply. -/
def onCandidate (reply : Reply) (next : Json → Drafting) : Drafting :=
  match read reply with
  | .error e => .done (.error e)
  | .ok candidate => next candidate

/-- Drafts a flow for a request. -/
def draft (s : Setting) (request : String) (context : List Message) : Drafting :=
  .ask (firstPrompt s request context) fun reply =>
    onCandidate reply fun candidate =>
      let v := Candidate.check s.catalog s.limits candidate
      if needsRepair v then
        .ask (repairPrompt s request candidate v.errors) fun reply =>
          onCandidate reply fun candidate =>
            .done (.ok (conclude 2 (Candidate.check s.catalog s.limits candidate)))
      else .done (.ok (conclude 1 v))

end Flowline.Draft
