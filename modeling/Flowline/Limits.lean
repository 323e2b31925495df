import Flowline.Json.Decode
/-!
Ceilings of the checks.
-/
namespace Flowline
open Json Decode

/-- The top-level action counts that advise and block, the deepest nesting of branches, and the
shortest interval of a schedule. -/
structure Limits where
  warnActions : Nat := 20
  maxActions : Nat := 30
  maxBranchDepth : Nat := 10
  minIntervalMinutes : Nat := 5
  deriving DecidableEq, Repr, Inhabited

namespace Limits

structure Fields where
  warnActions : Option Nat := none
  maxActions : Option Nat := none
  maxBranchDepth : Option Nat := none
  minIntervalMinutes : Option Nat := none

def record : Record Fields Limits where
  name := "Limits"
  fields := ["warn_actions", "max_actions", "max_branch_depth", "min_interval_minutes"]
  start := {}
  put d key v := match key with
    | "warn_actions" => do
      .ok { d with warnActions := ← fill "warn_actions" d.warnActions (word64 v) }
    | "max_actions" => do
      .ok { d with maxActions := ← fill "max_actions" d.maxActions (word64 v) }
    | "max_branch_depth" => do
      .ok { d with maxBranchDepth := ← fill "max_branch_depth" d.maxBranchDepth (word64 v) }
    | "min_interval_minutes" => do
      let minutes ← fill "min_interval_minutes" d.minIntervalMinutes (word32 v)
      .ok { d with minIntervalMinutes := minutes }
    | _ => .ok d
  build d :=
    let standard : Limits := {}
    .ok {
      warnActions := d.warnActions.getD standard.warnActions
      maxActions := d.maxActions.getD standard.maxActions
      maxBranchDepth := d.maxBranchDepth.getD standard.maxBranchDepth
      minIntervalMinutes := d.minIntervalMinutes.getD standard.minIntervalMinutes }

def ofJson : Decoder Limits := record.decode false

def toJson (l : Limits) : Json :=
  .obj [("warn_actions", nat l.warnActions), ("max_actions", nat l.maxActions),
    ("max_branch_depth", nat l.maxBranchDepth),
    ("min_interval_minutes", nat l.minIntervalMinutes)]

end Limits
end Flowline
