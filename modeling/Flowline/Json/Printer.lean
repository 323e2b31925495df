import Flowline.Json.Basic
import Flowline.Number.Shortest
import Flowline.Text.Quoted
/-!
JSON text of a value: on one line without blanks, or indented by two blanks a level. Members keep
their order.
-/
namespace Flowline.Json

/-- Four hexadecimal digits of a control character. -/
def controlDigits (n : Nat) : List Char :=
  let ds := Text.hexDigits n
  List.replicate (4 - ds.length) '0' ++ ds

def escapeChar (c : Char) : List Char :=
  if c == '"' then ['\\', '"']
  else if c == '\\' then ['\\', '\\']
  else if c == '\x08' then ['\\', 'b']
  else if c == '\x0c' then ['\\', 'f']
  else if c == '\n' then ['\\', 'n']
  else if c == '\r' then ['\\', 'r']
  else if c == '\t' then ['\\', 't']
  else if c.val < 0x20 then ['\\', 'u'] ++ controlDigits c.val.toNat
  else [c]

/-- The text of a string value. -/
def quote (s : String) : String := String.ofList ('"' :: s.toList.flatMap escapeChar ++ ['"'])

def Number.text : Number → String
  | .int n => toString n
  | .float x => Number.Style.json.write x

mutual

/-- The text of a value on one line. -/
def compact : Json → String
  | .null => "null"
  | .bool b => toString b
  | .num n => n.text
  | .str s => quote s
  | .arr elements => "[" ++ String.intercalate "," (compactElements elements) ++ "]"
  | .obj members => "\x7b" ++ String.intercalate "," (compactMembers members) ++ "\x7d"

def compactElements : List Json → List String
  | [] => []
  | v :: vs => compact v :: compactElements vs

def compactMembers : List (String × Json) → List String
  | [] => []
  | (key, v) :: rest => (quote key ++ ":" ++ compact v) :: compactMembers rest

end

/-- A line break and the indentation of a level. -/
def lineBreak (level : Nat) : String := String.ofList ('\n' :: List.replicate (2 * level) ' ')

mutual

/-- The indented text of a value that stands at the given level. -/
def prettyAt (level : Nat) : Json → String
  | .null => "null"
  | .bool b => toString b
  | .num n => n.text
  | .str s => quote s
  | .arr [] => "[]"
  | .arr (v :: vs) =>
    "[" ++ String.intercalate "," (prettyElements (level + 1) (v :: vs)) ++ lineBreak level ++ "]"
  | .obj [] => "\x7b\x7d"
  | .obj (m :: ms) =>
    "\x7b" ++ String.intercalate "," (prettyMembers (level + 1) (m :: ms)) ++ lineBreak level ++
      "\x7d"

def prettyElements (level : Nat) : List Json → List String
  | [] => []
  | v :: vs => (lineBreak level ++ prettyAt level v) :: prettyElements level vs

def prettyMembers (level : Nat) : List (String × Json) → List String
  | [] => []
  | (key, v) :: rest =>
    (lineBreak level ++ quote key ++ ": " ++ prettyAt level v) :: prettyMembers level rest

end

def pretty (v : Json) : String := prettyAt 0 v

end Flowline.Json
