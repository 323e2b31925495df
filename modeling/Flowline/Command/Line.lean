/-!
The command line: a command with its file, and options that may stand anywhere. An option may be
given once before the command and once behind it, where it has the last word.
-/
namespace Flowline.Command

inductive Action where
  | check
  | deploy (publish : Bool)
  deriving DecidableEq, Repr

/-- What the program is asked to do. -/
structure Line where
  action : Action
  file : String
  /-- A settings file. -/
  config : Option String
  /-- Whether flows are checked against the pieces that the engine lists. -/
  liveCatalog : Bool
  deriving DecidableEq, Repr

/-- Why a command line cannot be followed. -/
inductive UsageError where
  | noCommand
  | unknownCommand (name : String)
  | unexpected (argument : String)
  | noValue (option : String)
  | repeated (option : String)
  | noFile
  deriving DecidableEq, Repr

def UsageError.message : UsageError → String
  | noCommand => "error: a command is required: check or deploy"
  | unknownCommand name => "error: unrecognized subcommand '" ++ name ++ "'"
  | unexpected argument => "error: unexpected argument '" ++ argument ++ "' found"
  | noValue option => "error: a value is required for '" ++ option ++ "' but none was supplied"
  | repeated option => "error: the argument '" ++ option ++ "' cannot be used multiple times"
  | noFile => "error: the following required arguments were not provided:\n  <FILE>"

namespace Line

/-- What has been read of a command line. -/
structure Reading where
  command : Option String := none
  file : Option String := none
  config : Option String := none
  liveCatalog : Bool := false
  publish : Bool := false
  /-- The options on this side of the command. -/
  given : List String := []

/-- Marks an option as given. -/
def Reading.giveOnce (d : Reading) (option : String) : Except UsageError Reading :=
  if d.given.contains option then .error (.repeated option)
  else .ok { d with given := option :: d.given }

/-- The option that takes a value. -/
def configOption : String := "--config <CONFIG>"

def Reading.setConfig (d : Reading) (value : String) : Except UsageError Reading := do
  if value.isEmpty then .error (.noValue configOption)
  else .ok { ← d.giveOnce configOption with config := some value }

/-- The file of the command. -/
def Reading.setFile (d : Reading) (s : String) : Except UsageError Reading :=
  if d.command.isNone || d.file.isSome then .error (.unexpected s)
  else if s.isEmpty then .error (.noValue "<FILE>")
  else .ok { d with file := some s }

/-- A word that is no option: the command, then the file. -/
def Reading.word (d : Reading) (s : String) : Except UsageError Reading :=
  if d.command.isSome then d.setFile s
  else if s = "check" || s = "deploy" then .ok { d with command := some s, given := [] }
  else .error (.unknownCommand s)

/-- An option that stands alone. -/
def Reading.option (d : Reading) (s : String) : Except UsageError Reading := do
  if s = "--live-catalog" then .ok { ← d.giveOnce s with liveCatalog := true }
  else if s = "--publish" && d.command = some "deploy" then
    .ok { ← d.giveOnce s with publish := true }
  else .error (.unexpected s)

/-- Whether an argument can be no word. -/
def isOption (s : String) : Bool := "-".isPrefixOf s && s ≠ "-"

/-- How an argument that carries the value of `--config` begins. -/
def configMark : String := "--config="

def Reading.readAll (d : Reading) : List String → Except UsageError Reading
  | [] => .ok d
  | "--" :: rest => rest.foldlM Reading.setFile d
  | ["--config"] => .error (.noValue configOption)
  | "--config" :: value :: rest => do
    if isOption value then .error (.noValue configOption)
    else (← d.setConfig value).readAll rest
  | s :: rest => do
    let d ←
      if configMark.isPrefixOf s then d.setConfig (String.ofList (s.toList.drop configMark.length))
      else if isOption s then d.option s
      else d.word s
    d.readAll rest

def Reading.finish (d : Reading) : Except UsageError Line :=
  match d.command, d.file with
  | none, _ => .error .noCommand
  | some _, none => .error .noFile
  | some command, some file =>
    .ok ⟨if command = "deploy" then .deploy d.publish else .check, file, d.config, d.liveCatalog⟩

/-- Reads the arguments of the program. -/
def ofArguments (arguments : List String) : Except UsageError Line := do
  (← ({} : Reading).readAll arguments).finish

end Line
end Flowline.Command
