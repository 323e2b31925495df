import Flowline.Catalog.Registry
import Flowline.Check.Candidate
import Flowline.Check.Policy
import Flowline.Command.Line
import Flowline.Deployment.Conversation
import Flowline.Draft.Candidate
import Flowline.Settings.Basic
import Flowline.Settings.Error
/-!
What the commands do: `check` prints the findings about the flow in a file, and `deploy` builds the
flow at the engine if nothing blocks it.
-/
namespace Flowline.Command

/-- What the program leaves behind. -/
structure Output where
  stdout : String := ""
  stderr : String := ""
  exitCode : Nat := 0
  deriving DecidableEq, Repr

/-- A cause behind a failure, its lines indented; of several causes each has its number. -/
def causeText (number : Option Nat) (cause : String) : String :=
  let (first, next) := match number with
    | none => ("    ", "    ")
    | some n =>
      let digits := toString n
      (String.ofList (List.replicate (5 - digits.length) ' ') ++ digits ++ ": ", "       ")
  first ++ String.intercalate ("\n" ++ next) (cause.splitOn "\n")

/-- A failure with the causes behind it, the nearest first. -/
def failureText (message : String) (causes : List String) : String :=
  let listed := match causes with
    | [] => []
    | [cause] => [causeText none cause]
    | causes => causes.zipIdx.map fun (cause, i) => causeText (some i) cause
  "Error: " ++ message ++
    (if listed.isEmpty then "" else "\n\nCaused by:\n" ++ String.intercalate "\n" listed) ++ "\n"

/-- The end of a run that has printed `printed` and failed. -/
def failed (printed message : String) (causes : List String) : Output :=
  ⟨"", printed ++ failureText message causes, 1⟩

/-- The end of a run whose command line cannot be followed. -/
def misused (e : UsageError) : Output := ⟨"", e.message ++ "\n", 2⟩

/-- Issues on lines of their own. -/
def issueLines (label : String) (issues : List Issue) : String :=
  String.join (issues.map fun i => label ++ ": " ++ i.text ++ "\n")

/-- A flow that may be deployed, with what is printed about it; or the end of the run. -/
def examine (catalog : Catalog) (limits : Limits) (text : String) : Except Output (Flow × String) :=
  match Draft.candidate text with
  | .error e => .error (failed "" e.message [])
  | .ok candidate =>
    let v := Candidate.check catalog limits candidate
    let printed := issueLines "error" v.errors ++ issueLines "warning" v.warnings
    match v.flow with
    | none => .error (failed printed "flow is not valid" [])
    | some flow =>
      let findings := Policy.findings limits flow
      let printed := printed ++ issueLines "blocked" (Finding.blocks findings) ++
        issueLines "warning" (Finding.advice findings)
      if findings.any Finding.isBlocking then .error (failed printed "flow is not allowed" [])
      else .ok (flow, printed)

/-- What `check` says about a flow that may be deployed. -/
def checked (flow : Flow) (printed : String) : Output :=
  ⟨"ok: " ++ flow.displayName ++ " (" ++ toString flow.totalActions ++ " steps)\n", printed, 0⟩

/-- What `deploy` says in the end. -/
def deployed (printed : String) : Except Engine.Error Deployment.Deployed → Output
  | .ok d => ⟨d.toJson.pretty ++ "\n", printed, 0⟩
  | .error e => failed printed e.message [e.failure.message]

/-- The client of the engine that the settings name. -/
def client (s : Settings) : Engine.Client :=
  .start s.engine.baseUrl s.engine.projectId ⟨s.engine.email, s.engine.password⟩

/-- The catalog that flows are checked against. -/
def currentCatalog (live : Bool) (c : Engine.Client) :
    Engine.Conversation (Catalog × Engine.Client) :=
  if live then do
    let (listing, c) ← c.pieces
    return (Catalog.ofListing listing, c)
  else .done (Catalog.builtin, c)

/-- Carries out a command line under settings; `text` is the text of the file, or why it cannot be
read. -/
def runWith (line : Line) (s : Settings) (text : Except String String) :
    Engine.Conversation Output := do
  let (catalog, c) ← currentCatalog line.liveCatalog (client s)
  match text with
  | .error why => return failed "" ("reading " ++ line.file) [why]
  | .ok text =>
    match examine catalog s.limits text, line.action with
    | .error output, _ => return output
    | .ok (flow, printed), .check => return checked flow printed
    | .ok (flow, printed), .deploy publish =>
      let options := s.options
      let options := { options with autoPublish := options.autoPublish || publish }
      let (result, _) ← Deployment.Saga.converse ⟨flow, options, false⟩ c
      return deployed printed result

/-- Carries out a command line. -/
def run (line : Line) (settings : Except Settings.Error Settings) (text : Except String String) :
    Engine.Conversation Output :=
  match settings with
  | .error e => .done (failed "" "loading settings" [e.message])
  | .ok s => runWith line s text

end Flowline.Command
