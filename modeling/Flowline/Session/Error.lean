import Flowline.Draft.Error
import Flowline.Engine.Error
import Flowline.Issue
/-!
Why a request for a flow, or one to the engine, was not met.
-/
namespace Flowline

inductive FlowError where
  | malformed (issues : List Issue)
  | refused (reason : String)
  | notAllowed (issues : List Issue)
  | draft (error : DraftError)
  | engine (error : Engine.Error)
  | signIn (error : SignInError)
  deriving DecidableEq, Repr

namespace FlowError

def message : FlowError → String
  | malformed issues => "flow is malformed: " ++ Issue.joined issues
  | refused reason => "request cannot be automated: " ++ reason
  | notAllowed issues => "flow is not allowed: " ++ Issue.joined issues
  | draft error => error.message
  | engine error => error.message
  | signIn error => error.message

/-- The messages of the causes behind the error, the nearest first. -/
def causes : FlowError → List String
  | engine error => [error.failure.message]
  | _ => []

end FlowError
end Flowline
