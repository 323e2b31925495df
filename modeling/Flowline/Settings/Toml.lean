import Flowline.Settings.Document
/-!
Settings in TOML documents: tables, dotted keys, strings on one line, numbers, flags, lists and
inline tables.
-/
namespace Flowline.Settings.Toml

/-- Skips blanks within a line. -/
def skipBlanks (cs : List Char) : List Char := cs.dropWhile fun c => c == ' ' || c == '\t'

/-- Skips a comment. -/
def skipComment : List Char → List Char
  | '#' :: cs => cs.dropWhile (· != '\n')
  | cs => cs

def isSpace (c : Char) : Bool := c == ' ' || c == '\t' || c == '\n' || c == '\r'

/-- Skips blanks, line ends and comments; every turn uses up a comment. -/
def skipLines : Nat → List Char → List Char
  | 0, cs => cs
  | fuel + 1, cs =>
    match cs.dropWhile isSpace with
    | '#' :: rest => skipLines fuel (rest.dropWhile (· != '\n'))
    | rest => rest

def skip (cs : List Char) : List Char := skipLines cs.length cs

/-- A character given by hexadecimal digits. -/
def charOfHex (digits : List Char) : Option Char :=
  (Text.readBase 16 digits).bind fun n => if n.isValidChar then some (Char.ofNat n) else none

/-- The character behind a backslash, and the rest. -/
def escape : List Char → Option (Char × List Char)
  | 'u' :: rest => (charOfHex (rest.take 4)).map (·, rest.drop 4)
  | 'U' :: rest => (charOfHex (rest.take 8)).map (·, rest.drop 8)
  | c :: rest =>
    (assoc (String.singleton c) [("b", '\x08'), ("t", '\t'), ("n", '\n'), ("f", '\x0c'),
      ("r", '\r'), ("\"", '"'), ("\\", '\\')]).map (·, rest)
  | [] => none

/-- The rest of a string in double quotes, read with fuel for every character. -/
def basic : Nat → List Char → Option (List Char × List Char)
  | fuel + 1, c :: cs =>
    if c == '"' then some ([], cs)
    else if c == '\n' then none
    else if c == '\\' then do
      let (plain, rest) ← escape cs
      let (more, rest) ← basic fuel rest
      some (plain :: more, rest)
    else do
      let (more, rest) ← basic fuel cs
      some (c :: more, rest)
  | _, _ => none

/-- The rest of a string in single quotes. -/
def literal (cs : List Char) : Option (List Char × List Char) :=
  match cs.dropWhile fun c => c != '\'' && c != '\n' with
  | '\'' :: rest => some (cs.takeWhile (· != '\''), rest)
  | _ => none

def string : List Char → Option (String × List Char)
  | '"' :: cs => (basic cs.length cs).map fun (s, rest) => (String.ofList s, rest)
  | '\'' :: cs => (literal cs).map fun (s, rest) => (String.ofList s, rest)
  | _ => none

/-- One name of a key: bare or a string. -/
def name (cs : List Char) : Option (String × List Char) :=
  match string cs with
  | some found => some found
  | none =>
    let bare := cs.takeWhile isNameChar
    if bare.isEmpty then none else some (String.ofList bare, cs.drop bare.length)

/-- Names with dots between them, at most one for every unit of fuel. -/
def keyNames : Nat → List Char → Option (List Step × List Char)
  | 0, _ => none
  | fuel + 1, cs => do
    let (first, rest) ← name (skipBlanks cs)
    match skipBlanks rest with
    | '.' :: rest =>
      let (others, rest) ← keyNames fuel rest
      some (.name first :: others, rest)
    | rest => some ([.name first], rest)

/-- The path that a key stands for. -/
def key (cs : List Char) : Option (List Step × List Char) := keyNames cs.length cs

/-- A number in plain digits or behind `0x`, `0o` or `0b`; underscores do not count. -/
def number (cs : List Char) : Option Scalar :=
  let plain := cs.filter (· != '_')
  match plain with
  | '0' :: 'x' :: ds => (Text.readBase 16 ds).map fun n => .whole n
  | '0' :: 'o' :: ds => (Text.readBase 8 ds).map fun n => .whole n
  | '0' :: 'b' :: ds => (Text.readBase 2 ds).map fun n => .whole n
  | _ =>
    match Text.readInt (Nat.pow 2 63) plain with
    | some n => some (.whole n)
    | none => (Number.Extended.ofText? (String.ofList plain)).map .real

def plainValue (cs : List Char) : Option Scalar :=
  match String.ofList cs with
  | "true" => some (.flag true)
  | "false" => some (.flag false)
  | _ => number cs

def isValueChar (c : Char) : Bool := c.isAlphanum || c == '_' || c == '-' || c == '+' || c == '.'

mutual

/-- A value, read with fuel for every character. -/
def value (file : String) : Nat → List Char → Option (Tree × List Char)
  | 0, _ => none
  | fuel + 1, cs =>
    match cs with
    | '[' :: rest => elements file fuel [] (skip rest)
    | '{' :: rest => members file fuel (.table (some file) []) (skip rest)
    | _ =>
      match string cs with
      | some (s, rest) => some (.leaf (some file) (.text s), rest)
      | none =>
        let word := cs.takeWhile isValueChar
        (plainValue word).map fun v => (.leaf (some file) v, cs.drop word.length)

/-- The rest of a list, whose elements so far are given the last first. -/
def elements (file : String) : Nat → List Tree → List Char → Option (Tree × List Char)
  | 0, _, _ => none
  | fuel + 1, found, cs =>
    match cs with
    | ']' :: rest => some (.list (some file) found.reverse, rest)
    | _ => do
      let (v, rest) ← value file fuel cs
      match skip rest with
      | ',' :: rest => elements file fuel (v :: found) (skip rest)
      | ']' :: rest => some (.list (some file) (v :: found).reverse, rest)
      | _ => none

/-- The rest of an inline table with the entries so far. -/
def members (file : String) : Nat → Tree → List Char → Option (Tree × List Char)
  | 0, _, _ => none
  | fuel + 1, found, cs =>
    match cs with
    | '}' :: rest => some (found, rest)
    | _ => do
      let (path, rest) ← key cs
      match rest with
      | '=' :: rest =>
        let (v, rest) ← value file fuel (skipBlanks rest)
        let found := v.overlayAt path found
        match skip rest with
        | ',' :: rest => members file fuel found (skip rest)
        | '}' :: rest => some (found, rest)
        | _ => none
      | _ => none

end

/-- The end of a line. -/
def lineEnd (cs : List Char) : Option (List Char) :=
  match skipComment (skipBlanks cs) with
  | [] => some []
  | '\n' :: rest => some rest
  | '\r' :: '\n' :: rest => some rest
  | _ => none

/-- The lines of a document that stand in `table`, with the tree so far; every turn uses up a
line. -/
def lines (file : String) : Nat → List Step → Tree → List Char → Option Tree
  | 0, _, _, _ => none
  | fuel + 1, table, found, cs =>
    match skip cs with
    | [] => some found
    | '[' :: rest => do
      let (path, rest) ← key rest
      match rest with
      | ']' :: rest =>
        let opened := (Tree.table (some file) []).overlayAt path found
        lines file fuel path opened (← lineEnd rest)
      | _ => none
    | rest => do
      let (path, rest) ← key rest
      match rest with
      | '=' :: rest =>
        let start := skipBlanks rest
        let (v, rest) ← value file (2 * start.length + 2) start
        lines file fuel table (v.overlayAt (table ++ path) found) (← lineEnd rest)
      | _ => none

/-- The entries of a TOML document. -/
def ofText (file text : String) : Except Error Entries :=
  let cs := text.toList
  match lines file (cs.length + 1) [] (.table (some file) []) cs with
  | some tree => .ok tree.entries
  | none => .error (.unreadable "TOML parse error" file)

end Flowline.Settings.Toml
