import Flowline.Check.Candidate
import Flowline.Check.Policy
import Flowline.Deployment.Timeline
import Flowline.Session.Error
/-!
Deploying a flow: the checks again, the policy, then the guarded deployment.
-/
namespace Flowline.Session
open Deployment

/-- A deployed flow with the advice about it. -/
structure Deployment where
  deployed : Deployed
  warnings : List Issue

/-- The advice about a flow that may be deployed, or why it may not. -/
def permit (catalog : Catalog) (limits : Limits) (flow : Flow) : Except FlowError (List Issue) :=
  let findings := flow.findings catalog limits
  let policy := Policy.findings limits flow
  if findings.any Finding.isBlocking then .error (.malformed (Finding.blocks findings))
  else if policy.any Finding.isBlocking then .error (.notAllowed (Finding.blocks policy))
  else .ok (Finding.advice (findings ++ policy))

/-- How a request to deploy ends. -/
inductive DeployEnding where
  | returned (result : Except FlowError Deployment)
  | abandoned
  | hung

/-- Deploys a flow if it may be: how that ends, and the engine calls begun. -/
def deploy (catalog : Catalog) (limits : Limits) (options : Options) (c : Conditions)
    (flow : Flow) : DeployEnding × List Engine.Call :=
  match permit catalog limits flow with
  | .error e => (.returned (.error e), [])
  | .ok warnings =>
    match Saga.runUnder ⟨flow, options, true⟩ c with
    | (.returned (.ok d), calls) => (.returned (.ok ⟨d, warnings⟩), calls)
    | (.returned (.error e), calls) => (.returned (.error (.engine e)), calls)
    | (.abandoned, calls) => (.abandoned, calls)
    | (.hung, calls) => (.hung, calls)

/-- The most flows that a listing holds unless told otherwise. -/
def flowListLimit : Nat := 50

/-- The most runs that a listing holds unless told otherwise. -/
def runListLimit : Nat := 10

end Flowline.Session
