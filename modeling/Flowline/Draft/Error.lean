/-!
Failures of the drafter, which turns a request into the text of a flow.
-/
namespace Flowline

/-- Why a draft could not be had. -/
inductive DraftError where
  | callFailed (reason : String)
  | noObject (raw : String)
  | notJson (reason raw : String)
  deriving DecidableEq, Repr

def DraftError.message : DraftError → String
  | callFailed reason => "IR producer call failed: " ++ reason
  | noObject _ => "IR producer returned no JSON object"
  | notJson reason _ => "IR producer returned unparseable JSON: " ++ reason

end Flowline
