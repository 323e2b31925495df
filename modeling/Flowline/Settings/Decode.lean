import Flowline.Settings.Basic
import Flowline.Settings.Error
import Flowline.Settings.Tree
/-!
Settings read from merged trees. A group of settings may also be a list of its settings in order;
what is not there keeps its standard value, and unknown keys do not matter.
-/
namespace Flowline.Settings

/-- A plain value read with `f`, where `expected` is needed. -/
def plain (expected : String) (f : Scalar → Except Scalar.Mismatch α) (key : String) :
    Tree → Except Error α
  | .leaf origin value => (f value).mapError fun m => .mismatch m.found m.expected key origin
  | .list origin _ => .error (.mismatch "sequence" expected key origin)
  | .table origin _ => .error (.mismatch "map" expected key origin)

def text : String → Tree → Except Error String := plain "a string" Scalar.asText

def flag : String → Tree → Except Error Bool := plain "a boolean" Scalar.asFlag

def word64 : String → Tree → Except Error Nat := plain "an integer" Scalar.asNat

/-- A number below `2 ^ 32`; the place of a larger one is not told. -/
def word32 (key : String) (tree : Tree) : Except Error Nat := do
  let n ← word64 key tree
  if n < Nat.pow 2 32 then .ok n
  else .error (.mismatch ("64-bit unsigned integer `" ++ toString n ++ "`")
    "an unsigned 32 bit integer" key none)

def optionalText (key : String) : Tree → Except Error (Option String)
  | .leaf _ .nothing => .ok none
  | tree => (text key tree).map some

/-- A group of settings by its name in messages, and how its setting of a given name is put. -/
structure Group (α : Type) where
  name : String
  fields : List String
  standard : α
  put : α → (field key : String) → Tree → Except Error α

namespace Group

/-- Puts the settings that are there, each with the key that names it in messages. -/
def putAll (g : Group α) (a : α) : List (String × String × Tree) → Except Error α
  | [] => .ok a
  | (field, key, tree) :: rest => do
    let a ← g.put a field key tree
    g.putAll a rest

def ofEntries (g : Group α) (place : String → String) (entries : Entries) : Except Error α :=
  g.putAll g.standard (entries.map fun e => (e.1, place e.1, e.2))

/-- The key of an element of a list. -/
def elementKey (key : String) (i : Nat) : String := key ++ "[" ++ toString i ++ "]"

def read (g : Group α) (key : String) : Tree → Except Error α
  | .table _ entries => g.ofEntries (fun field => key ++ "." ++ field) entries
  | .list _ elements =>
    g.putAll g.standard ((g.fields.zip elements).zipIdx.map fun ((field, tree), i) =>
      (field, elementKey key i, tree))
  | .leaf _ value => .error (.mismatch value.describeForGroup ("struct " ++ g.name) key none)

end Group

def engineGroup : Group Engine where
  name := "EngineSettings"
  fields := ["base_url", "project_id", "email", "password", "request_timeout_secs"]
  standard := {}
  put e field key tree := match field with
    | "base_url" => do .ok { e with baseUrl := ← text key tree }
    | "project_id" => do .ok { e with projectId := ← text key tree }
    | "email" => do .ok { e with email := ← text key tree }
    | "password" => do .ok { e with password := ← text key tree }
    | "request_timeout_secs" => do .ok { e with requestTimeoutSecs := ← word64 key tree }
    | _ => .ok e

def deployGroup : Group Deploy where
  name := "CompileSettings"
  fields := ["auto_publish", "default_timezone", "folder_id", "timeout_secs"]
  standard := {}
  put d field key tree := match field with
    | "auto_publish" => do .ok { d with autoPublish := ← flag key tree }
    | "default_timezone" => do .ok { d with defaultTimezone := ← text key tree }
    | "folder_id" => do .ok { d with folderId := ← optionalText key tree }
    | "timeout_secs" => do .ok { d with timeoutSecs := ← word64 key tree }
    | _ => .ok d

def limitsGroup : Group Limits where
  name := "Limits"
  fields := ["warn_actions", "max_actions", "max_branch_depth", "min_interval_minutes"]
  standard := {}
  put l field key tree := match field with
    | "warn_actions" => do .ok { l with warnActions := ← word64 key tree }
    | "max_actions" => do .ok { l with maxActions := ← word64 key tree }
    | "max_branch_depth" => do .ok { l with maxBranchDepth := ← word64 key tree }
    | "min_interval_minutes" => do .ok { l with minIntervalMinutes := ← word32 key tree }
    | _ => .ok l

def catalogGroup : Group Catalog where
  name := "CatalogSettings"
  fields := ["compact_limit", "refresh_interval_secs"]
  standard := {}
  put c field key tree := match field with
    | "compact_limit" => do .ok { c with compactLimit := ← word64 key tree }
    | "refresh_interval_secs" => do .ok { c with refreshIntervalSecs := ← word64 key tree }
    | _ => .ok c

def settingsGroup : Group Settings where
  name := "Settings"
  fields := ["engine", "compile", "limits", "catalog"]
  standard := {}
  put s field key tree := match field with
    | "engine" => do .ok { s with engine := ← engineGroup.read key tree }
    | "compile" => do .ok { s with deploy := ← deployGroup.read key tree }
    | "limits" => do .ok { s with limits := ← limitsGroup.read key tree }
    | "catalog" => do .ok { s with catalog := ← catalogGroup.read key tree }
    | _ => .ok s

def ofEntries (entries : Entries) : Except Error Settings := settingsGroup.ofEntries id entries

end Flowline.Settings
