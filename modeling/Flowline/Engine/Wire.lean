import Flowline.Engine.Client
import Flowline.Engine.Address
import Flowline.Text.Digits
import Flowline.Text.Utf8
/-!
Requests and responses as they go over a connection, which ends with the response.
-/
namespace Flowline.Engine.Wire
open Json

/-- The end of a connection. -/
structure Peer where
  host : String
  service : Nat
  deriving DecidableEq, Repr

def schemeMark : List Char := "http://".toList

/-- The peer of an address without encryption. -/
def Peer.ofAddress (address : String) : Option Peer :=
  let cs := address.toList
  if !schemeMark.isPrefixOf cs then none
  else
    let authority := (cs.drop schemeMark.length).takeWhile fun c => c != '/' && c != '?'
    let host := String.ofList (authority.takeWhile (· != ':'))
    match authority.dropWhile (· != ':') with
    | [] => some ⟨host, 80⟩
    | _ :: digits => (Text.readDigits (Nat.pow 2 16) digits).map fun service => ⟨host, service⟩

/-- The part of an address behind the peer. -/
def target (address : String) : String :=
  String.ofList ((address.toList.drop schemeMark.length).dropWhile (· != '/'))

def lineBreak : String := "\r\n"

/-- The header of a body, if there is one. -/
def bodyHeaders : Option Json → List (String × String)
  | none => []
  | some body =>
    [("Content-Type", "application/json"), ("Content-Length", toString body.compact.utf8ByteSize)]

def headers (peer : Peer) (x : Exchange) : List (String × String) :=
  [("Host", peer.host ++ ":" ++ toString peer.service), ("Accept", "*/*"), ("Connection", "close")] ++
    (x.token.map fun token => ("Authorization", "Bearer " ++ token)).toList ++
    bodyHeaders x.request.body

/-- The text of a request. -/
def requestText (peer : Peer) (x : Exchange) : String :=
  let headerLines := (headers peer x).map fun (name, v) => name ++ ": " ++ v ++ lineBreak
  x.request.method.name ++ " " ++ target x.address ++ " HTTP/1.1" ++ lineBreak ++
    String.join headerLines ++ lineBreak ++ ((x.request.body.map compact).getD "")

abbrev Bytes := List UInt8

/-- The bytes of a line and those behind it; none if the line does not end. -/
def line? : Bytes → Option (Bytes × Bytes)
  | 13 :: 10 :: rest => some ([], rest)
  | b :: rest => (line? rest).map fun (l, rest) => (b :: l, rest)
  | [] => none

structure Head where
  status : Nat
  /-- The headers, with their names in lower case. -/
  headers : List (String × String)
  deriving DecidableEq, Repr

def statusOf (firstLine : String) : Option Nat :=
  match firstLine.splitOn " " with
  | _ :: code :: _ => Text.readDigits 1000 code.toList
  | _ => none

def headerOf (l : String) : String × String :=
  let cs := l.toList
  (String.ofList ((cs.takeWhile (· != ':')).map Char.toLower),
    Text.trim (String.ofList ((cs.dropWhile (· != ':')).drop 1)))

/-- The header lines up to the blank one; every line takes at least two bytes. -/
def headerLines : Nat → Bytes → Option (List (String × String) × Bytes)
  | 0, _ => none
  | fuel + 1, bytes => do
    let (l, rest) ← line? bytes
    if l.isEmpty then some ([], rest)
    else
      let (more, rest) ← headerLines fuel rest
      some (headerOf (Text.Utf8.decode l) :: more, rest)

def head (bytes : Bytes) : Option (Head × Bytes) := do
  let (l, rest) ← line? bytes
  let status ← statusOf (Text.Utf8.decode l)
  let (headers, rest) ← headerLines bytes.length rest
  some (⟨status, headers⟩, rest)

/-- A body in chunks, each behind a line with its size; the chunk of size zero ends it. -/
def chunks : Nat → Bytes → Option Bytes
  | 0, _ => none
  | fuel + 1, bytes => do
    let (l, rest) ← line? bytes
    let size ← Text.readBase 16 ((Text.Utf8.decode l).toList.takeWhile (·.isAlphanum))
    if size = 0 then some []
    else if rest.length < size + 2 then none
    else (chunks fuel (rest.drop (size + 2))).map (rest.take size ++ ·)

/-- The whole body behind a head, unless it was cut short. -/
def body (h : Head) (bytes : Bytes) : Option Bytes :=
  if h.status = 204 then some []
  else if assoc "transfer-encoding" h.headers = some "chunked" then chunks bytes.length bytes
  else match assoc "content-length" h.headers with
    | none => some bytes
    | some digits => do
      let length ← Text.readNat (Nat.pow 2 64) digits.toList
      if length ≤ bytes.length then some (bytes.take length) else none

/-- What all the bytes that came from an address say. -/
def outcome (address : String) (bytes : Bytes) : Except Fault Response :=
  match head bytes with
  | none => .error (.unreachable address)
  | some (h, rest) =>
    match body h rest with
    | none => .error ⟨"error decoding response body", false⟩
    | some bytes => .ok ⟨h.status, Text.Utf8.decode bytes⟩

end Flowline.Engine.Wire
