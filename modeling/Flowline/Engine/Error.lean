/-!
Failures of sign-ins and of engine calls.
-/
namespace Flowline

/-- Why no token could be had. -/
inductive SignInError where
  | missingCredentials
  | rejected (status : Nat) (body : String)
  | malformed (reason : String)
  | transport (reason : String)
  deriving DecidableEq, Repr

def SignInError.message : SignInError → String
  | missingCredentials => "engine credentials are not configured"
  | rejected status body => "sign-in failed (" ++ toString status ++ "): " ++ body
  | malformed reason => "sign-in response has no token: " ++ reason
  | transport reason => "sign-in request failed: " ++ reason

namespace Engine

/-- Why an engine call failed. -/
inductive Failure where
  | status (code : Nat) (body : String)
  | transport (reason : String)
  | undecodable (reason : String)
  | timedOut
  | signIn (error : SignInError)
  deriving DecidableEq, Repr

def Failure.message : Failure → String
  | status code _ => "engine returned HTTP " ++ toString code
  | transport reason => "transport error: " ++ reason
  | undecodable reason => "could not decode engine response: " ++ reason
  | timedOut => "timed out"
  | signIn error => error.message

/-- A failed engine call. -/
structure Error where
  method : String
  path : String
  failure : Failure
  deriving DecidableEq, Repr

namespace Error

def message (e : Error) : String :=
  "engine call " ++ e.method ++ " " ++ e.path ++ " failed: " ++ e.failure.message

/-- The status that the engine answered with. -/
def status (e : Error) : Option Nat :=
  match e.failure with
  | .status code _ => some code
  | _ => none

def body (e : Error) : Option String :=
  match e.failure with
  | .status _ body => some body
  | _ => none

def isTimeout (e : Error) : Bool := e.failure == .timedOut

end Error
end Engine
end Flowline
