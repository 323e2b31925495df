import Flowline.Catalog.Basic
import Flowline.Deployment.Plan
import Flowline.Limits
import Flowline.Text.Quoted
/-!
Settings of the program. Every setting has a standard value, so that no source is needed.
-/
namespace Flowline

namespace Settings

/-- How the engine is reached. -/
structure Engine where
  baseUrl : String := "http://localhost:8080"
  projectId : String := ""
  email : String := ""
  password : String := ""
  requestTimeoutSecs : Nat := 30
  deriving DecidableEq, Repr, Inhabited

/-- The settings as a text for reports, without the password. -/
def Engine.text (e : Engine) : String :=
  "EngineSettings \x7b base_url: " ++ Text.quoted e.baseUrl ++ ", project_id: " ++
    Text.quoted e.projectId ++ ", email: " ++ Text.quoted e.email ++
    ", password: \"<redacted>\", request_timeout_secs: " ++ toString e.requestTimeoutSecs ++ " \x7d"

/-- How flows are deployed. -/
structure Deploy where
  autoPublish : Bool := false
  defaultTimezone : String := "Asia/Riyadh"
  folderId : Option String := none
  /-- Zero stands for any time. -/
  timeoutSecs : Nat := 120
  deriving DecidableEq, Repr, Inhabited

/-- The time allowed, in seconds. -/
def Deploy.timeLimit (d : Deploy) : Option Nat :=
  if d.timeoutSecs = 0 then none else some d.timeoutSecs

/-- How much of the catalog a prompt shows, and how often the catalog is refreshed. -/
structure Catalog where
  compactLimit : Nat := Flowline.Catalog.summaryLimit
  refreshIntervalSecs : Nat := 6 * 60 * 60
  deriving DecidableEq, Repr, Inhabited

end Settings

structure Settings where
  engine : Settings.Engine := {}
  deploy : Settings.Deploy := {}
  limits : Limits := {}
  catalog : Settings.Catalog := {}
  deriving DecidableEq, Repr, Inhabited

/-- The options of a deployment under the settings. -/
def Settings.options (s : Settings) : Deployment.Options where
  autoPublish := s.deploy.autoPublish
  defaultTimezone := s.deploy.defaultTimezone
  baseUrl := s.engine.baseUrl
  folder := s.deploy.folderId
  timeout := s.deploy.timeLimit.map (· * 1000)

end Flowline
