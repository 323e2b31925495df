import Flowline.Catalog.Registry
import Flowline.Check.Candidate
import Flowline.Check.Policy
import Flowline.Draft.Candidate
import Flowline.Json.Parser
/-!
Checks of a drafter's text that need no engine, for use before anything is sent. The pieces may come
as the text of a listing.
-/
namespace Flowline.Offline
open Json

/-- What a check says. -/
inductive Report where
  | unreadable (why : String)
  | checked (findings : List Finding) (refused : Bool)

namespace Report

def isOk : Report → Bool
  | unreadable _ => false
  | checked findings _ => !findings.any Finding.isBlocking

def unreadableJson (why : String) : Json :=
  .obj [("code", .str "P001"), ("phase", .str "Parse"), ("message", .str why), ("location", .null)]

def errors : Report → List Json
  | unreadable why => [unreadableJson why]
  | checked findings _ => (Finding.blocks findings).map Issue.toJson

def warnings : Report → List Json
  | unreadable _ => []
  | checked findings _ => (Finding.advice findings).map Issue.toJson

def refused : Report → Bool
  | unreadable _ => false
  | checked _ refused => refused

def toJson (r : Report) : Json :=
  .obj [("ok", .bool r.isOk), ("userError", .bool r.refused), ("errors", .arr r.errors),
    ("warnings", .arr r.warnings)]

end Report

/-- The pieces listed in a text, or why they cannot be read. -/
def listedPieces (listing : String) : Except String (List Piece) :=
  match Json.parse listing with
  | .error e => .error e.message
  | .ok v => (Decode.listing Piece.ofJson v).mapError (·.message)

/-- The catalog for the text of a listing; the built-in one stands in for an empty listing. -/
def catalog : Option String → Except String Catalog
  | none => .ok Catalog.builtin
  | some listing =>
    match listedPieces listing with
    | .error why => .error ("Failed to parse catalog JSON: " ++ why)
    | .ok pieces => .ok (if pieces.isEmpty then Catalog.builtin else Catalog.live pieces)

/-- The check of a text against a catalog. -/
def checkAgainst (catalog : Catalog) (text : String) : Except DraftError Verdict :=
  (Draft.candidate text).map (Candidate.check catalog {})

/-- Checks the flow in a text. -/
def check (text : String) (listing : Option String) : Report :=
  match catalog listing with
  | .error why => .unreadable why
  | .ok catalog =>
    match checkAgainst catalog text with
    | .error e => .unreadable e.message
    | .ok v => .checked v.findings v.refused

/-- Checks the flow in a text, and what is allowed of it. -/
def guard (text : String) : Report :=
  match checkAgainst Catalog.builtin text with
  | .error e => .unreadable e.message
  | .ok v =>
    match v.flow with
    | none => .checked v.findings v.refused
    | some flow => .checked (v.findings ++ Policy.findings {} flow) false

end Flowline.Offline
