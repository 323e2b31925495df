import Flowline.Json.Basic
/-!
Findings about a flow. A finding blocks or advises; it never hides which.
-/
namespace Flowline

/-- The pass that found an issue. -/
inductive Phase where
  | schema | semantic | safety
  deriving DecidableEq, Repr

def Phase.name : Phase → String
  | .schema => "Schema"
  | .semantic => "Semantic"
  | .safety => "Safety"

/-- One issue with a flow, in words. -/
structure Issue where
  code : String
  phase : Phase
  message : String
  location : Option String
  deriving DecidableEq, Repr

namespace Issue

def text (i : Issue) : String :=
  let head := "[" ++ i.phase.name ++ ":" ++ i.code ++ "] " ++ i.message
  match i.location with
  | some place => head ++ " (at " ++ place ++ ")"
  | none => head

/-- Issues on one line. -/
def joined (issues : List Issue) : String := String.intercalate "; " (issues.map text)

def toJson (i : Issue) : Json :=
  .obj [("code", .str i.code), ("phase", .str i.phase.name), ("message", .str i.message),
    ("location", Json.nullable .str i.location)]

end Issue

/-- An issue with its severity. -/
inductive Finding where
  | blocking (issue : Issue)
  | advisory (issue : Issue)
  deriving DecidableEq, Repr

namespace Finding

def issue : Finding → Issue
  | .blocking i | .advisory i => i

def isBlocking : Finding → Bool
  | .blocking _ => true
  | .advisory _ => false

def toJson (f : Finding) : Json :=
  .obj [("severity", .str (if f.isBlocking then "blocking" else "advisory")),
    ("issue", f.issue.toJson)]

/-- The issues that block, in order. -/
def blocks (findings : List Finding) : List Issue :=
  findings.filterMap fun
    | .blocking i => some i
    | .advisory _ => none

/-- The issues that only advise, in order. -/
def advice (findings : List Finding) : List Issue :=
  findings.filterMap fun
    | .blocking _ => none
    | .advisory i => some i

theorem blocks_eq_nil_iff {findings : List Finding} :
    blocks findings = [] ↔ findings.any isBlocking = false := by
  induction findings with
  | nil => simp [blocks]
  | cons f rest ih => cases f <;> simp_all [blocks, isBlocking]

end Finding
end Flowline
