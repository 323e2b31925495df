import Flowline.Command.Run
import Flowline.Engine.Wire
import Flowline.Settings.Load
import Std.Async.DNS
import Std.Async.TCP
/-!
The program: reads its arguments, its environment and its files, talks to the engine, and prints
what the command says. Engines are reached without encryption only.
-/
namespace Flowline.Main
open Engine

/-- All bytes that a peer sends until it ends the connection. -/
partial def receive (socket : Std.Async.TCP.Socket.Client) (found : ByteArray) :
    Std.Async.Async ByteArray := do
  match ← socket.recv? 65536 with
  | none => return found
  | some bytes => receive socket (found ++ bytes)

/-- Sends a text to a peer and waits for what comes back. -/
def exchange (peer : Wire.Peer) (sent : String) : Std.Async.Async ByteArray := do
  let found ← Std.Async.DNS.getAddrInfo peer.host (toString peer.service)
  let some address := found[0]? | throw (IO.userError "unknown host")
  let service := peer.service.toUInt16
  let socket ← Std.Async.TCP.Socket.Client.mk
  socket.connect <| match address with
    | .v4 ip => .v4 ⟨ip, service⟩
    | .v6 ip => .v6 ⟨ip, service⟩
  socket.send sent.toUTF8
  receive socket .empty

/-- Waits for a task for some milliseconds. -/
partial def waitFor (task : Task α) (limit : Nat) : IO (Option α) := do
  if ← IO.hasFinished task then return some task.get
  if limit = 0 then return none
  IO.sleep 5
  waitFor task (limit - 5)

/-- What comes of a request, which may take some seconds. -/
def outcome (limit : Nat) (x : Exchange) : IO (Except Fault Response) := do
  let some peer := Wire.Peer.ofAddress x.address | return .error (.unreachable x.address)
  let task ← IO.asTask (exchange peer (Wire.requestText peer x)).block
  return match ← waitFor task (limit * 1000) with
    | none => .error { Fault.unreachable x.address with timedOut := true }
    | some (.error _) => .error (.unreachable x.address)
    | some (.ok bytes) => Wire.outcome x.address bytes.toList

def reply (limit : Nat) (x : Exchange) : IO Reply := do
  let start ← IO.monoMsNow
  let outcome ← outcome limit x
  return ⟨outcome, (← IO.monoMsNow) - start⟩

/-- Carries on a conversation with the engine. -/
def converse (limit : Nat) : Conversation α → IO α
  | .done a => return a
  | .ask x next => do converse limit (next (← reply limit x))

/-- The words of the system for a failure, with its number, which may have been negated. -/
def systemText (code : UInt32) (details : String) : String :=
  let number := if code.toNat < Nat.pow 2 31 then code.toNat else Nat.pow 2 32 - code.toNat
  details.capitalize ++ " (os error " ++ toString number ++ ")"

/-- Why a file cannot be read. -/
def failureText : IO.Error → String
  | .noFileOrDirectory _ code details => systemText code details
  | .inappropriateType _ code details => systemText code details
  | .permissionDenied _ code details => systemText code details
  | e => toString e

/-- The text of a file, or why it cannot be read. -/
def readText (path : String) : IO (Except String String) := do
  try
    let bytes ← IO.FS.readBinFile path
    return match String.fromUTF8? bytes with
      | some text => .ok text
      | none => .error "stream did not contain valid UTF-8"
  catch e => return .error (failureText e)

/-- The text of a file, if it can be read. -/
def readText? (path : String) : IO (Option String) := do
  return match ← readText path with
    | .ok text => some text
    | .error _ => none

/-- The variables of the process, as the system lists them. -/
def environment : IO (List (String × String)) := do
  let text ← readText? "/proc/self/environ"
  return ((text.getD "").splitOn "\x00").filterMap fun entry =>
    match entry.splitOn "=" with
    | name :: value@(_ :: _) => some (name, String.intercalate "=" value)
    | _ => none

def settingsFile (path : String) : IO Settings.File := do
  let directory := (← IO.currentDir).toString
  let found ← (Settings.File.candidates path).findSomeM? fun candidate => do
    return (← readText? candidate).map (candidate, ·)
  return ⟨directory, path, found⟩

def runLine (line : Command.Line) : IO Command.Output := do
  let file ← line.config.mapM settingsFile
  let settings := Settings.load file (← environment) (← readText? ".env")
  let limit := match settings with
    | .ok s => s.engine.requestTimeoutSecs
    | .error _ => 0
  converse limit (Command.run line settings (← readText line.file))

end Flowline.Main

def main (arguments : List String) : IO UInt32 := do
  let output ← match Flowline.Command.Line.ofArguments arguments with
    | .ok line => Flowline.Main.runLine line
    | .error e => pure (Flowline.Command.misused e)
  IO.print output.stdout
  IO.eprint output.stderr
  return output.exitCode.toUInt32
