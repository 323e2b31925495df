import Flowline.Settings.Document
/-!
Settings in YAML documents: mappings and lists by indentation or in brackets on one line, and
scalars that are plain or in quotes.
-/
namespace Flowline.Settings.Yaml

/-- A line with its indentation; it is neither blank nor a comment. -/
structure Line where
  indent : Nat
  chars : List Char
  deriving DecidableEq, Repr

def isSpace (c : Char) : Bool := c == ' ' || c == '\t' || c == '\r'

/-- Cuts a comment off a line: a number sign outside quotes that stands at the beginning or behind a
blank. -/
def cutComment (quote : Option Char) (afterBlank : Bool) : List Char → List Char
  | [] => []
  | c :: cs =>
    match quote with
    | some q => c :: cutComment (if c == q then none else some q) false cs
    | none =>
      if c == '#' && afterBlank then []
      else if (c == '"' || c == '\'') && afterBlank then c :: cutComment (some c) false cs
      else c :: cutComment none (isSpace c) cs

/-- A line without its comment and the blanks at its end. -/
def Line.ofText (s : String) : Line :=
  let cs := ((cutComment none true s.toList).reverse.dropWhile isSpace).reverse
  ⟨(cs.takeWhile (· == ' ')).length, cs.dropWhile (· == ' ')⟩

/-- The lines of a document; a line that marks its beginning does not count. -/
def linesOf (text : String) : List Line :=
  ((text.splitOn "\n").map Line.ofText).filter fun l =>
    !l.chars.isEmpty && String.ofList l.chars != "---"

/-- A string in single quotes, in which two quotes stand for one, and the text behind it. -/
def single : List Char → Option (List Char × List Char)
  | '\'' :: '\'' :: cs => (single cs).map fun (s, rest) => ('\'' :: s, rest)
  | '\'' :: cs => some ([], cs)
  | c :: cs => (single cs).map fun (s, rest) => (c :: s, rest)
  | [] => none

def unescape : Char → Option Char
  | 'n' => some '\n'
  | 't' => some '\t'
  | 'r' => some '\r'
  | '0' => some '\x00'
  | c => if ['\\', '"', '/', ' '].contains c then some c else none

/-- A string in double quotes and the text behind it. -/
def double : List Char → Option (List Char × List Char)
  | '\\' :: c :: cs =>
    (unescape c).bind fun plain => (double cs).map fun (s, rest) => (plain :: s, rest)
  | '"' :: cs => some ([], cs)
  | c :: cs => (double cs).map fun (s, rest) => (c :: s, rest)
  | [] => none

/-- A string in quotes, and the text behind it without blanks. -/
def string (cs : List Char) : Option (String × List Char) := do
  let (s, rest) ← match cs with
    | '\'' :: rest => single rest
    | '"' :: rest => double rest
    | _ => none
  some (String.ofList s, rest.dropWhile isSpace)

/-- A number that is not an integer; words for infinities begin with a point. -/
def real (s : String) : Option Number.Extended :=
  match s with
  | ".inf" | ".Inf" | ".INF" | "+.inf" | "+.Inf" | "+.INF" => some (.infinite false)
  | "-.inf" | "-.Inf" | "-.INF" => some (.infinite true)
  | ".nan" | ".NaN" | ".NAN" => some .notANumber
  | _ => if s.toList.any Char.isDigit then Number.Extended.ofText? s else none

/-- An integer in decimal digits, or behind `0x` or `0o` in others. -/
def integer : List Char → Option Int
  | '0' :: 'x' :: ds => (Text.readBase 16 ds).bind fun n => if n < Nat.pow 2 63 then some n else none
  | '0' :: 'o' :: ds => (Text.readBase 8 ds).bind fun n => if n < Nat.pow 2 63 then some n else none
  | cs => Text.readInt (Nat.pow 2 63) cs

/-- A scalar without quotes. -/
def plain (s : String) : Scalar :=
  if ["", "~", "null"].contains s then .nothing
  else if ["true", "True", "TRUE"].contains s then .flag true
  else if ["false", "False", "FALSE"].contains s then .flag false
  else match integer s.toList with
    | some n => .whole n
    | none =>
      match real s with
      | some x => .real x
      | none => .text s

/-- The characters of a plain scalar between brackets, which ends before a comma, a bracket or a
colon with a blank behind it. -/
def plainRun : List Char → List Char
  | [] => []
  | [':'] => []
  | ':' :: c :: cs => if isSpace c then [] else ':' :: plainRun (c :: cs)
  | c :: cs => if [',', '[', ']', '\x7b', '\x7d'].contains c then [] else c :: plainRun cs

/-- The text of a plain scalar between brackets, and what is behind it. -/
def plainWord (cs : List Char) : String × List Char :=
  let run := plainRun cs
  (String.ofList (run.reverse.dropWhile isSpace).reverse, cs.drop run.length)

mutual

/-- A value between brackets, and the text behind it without blanks; every call uses up a unit of
fuel. -/
def inner (file : String) : Nat → List Char → Option (Tree × List Char)
  | 0, _ => none
  | fuel + 1, cs =>
    match cs with
    | '[' :: rest => innerElements file fuel [] (rest.dropWhile isSpace)
    | '\x7b' :: rest => innerMembers file fuel [] (rest.dropWhile isSpace)
    | _ =>
      match string cs with
      | some (s, rest) => some (.leaf (some file) (.text s), rest)
      | none => some (.leaf (some file) (plain (plainWord cs).1), (plainWord cs).2)

/-- The rest of a list, whose elements so far are given the last first. -/
def innerElements (file : String) : Nat → List Tree → List Char → Option (Tree × List Char)
  | 0, _, _ => none
  | fuel + 1, found, cs =>
    match cs with
    | ']' :: rest => some (.list (some file) found.reverse, rest.dropWhile isSpace)
    | _ => do
      let (v, rest) ← inner file fuel cs
      match rest with
      | ',' :: rest => innerElements file fuel (v :: found) (rest.dropWhile isSpace)
      | ']' :: _ => innerElements file fuel (v :: found) rest
      | _ => none

/-- The rest of a mapping with the entries so far. -/
def innerMembers (file : String) : Nat → Entries → List Char → Option (Tree × List Char)
  | 0, _, _ => none
  | fuel + 1, found, cs =>
    match cs with
    | '\x7d' :: rest => some (.table (some file) found, rest.dropWhile isSpace)
    | _ => do
      let (key, rest) := (string cs).getD (plainWord cs)
      let (v, rest) ← match rest with
        | ':' :: rest => inner file fuel (rest.dropWhile isSpace)
        | _ => some (.leaf (some file) .nothing, rest)
      let found := Dict.insertEntry key v found
      match rest with
      | ',' :: rest => innerMembers file fuel found (rest.dropWhile isSpace)
      | '\x7d' :: _ => innerMembers file fuel found rest
      | _ => none

end

/-- A value that stands on its line. -/
def value (file : String) (cs : List Char) : Option Tree :=
  match cs with
  | '\'' :: _ | '"' :: _ | '[' :: _ | '\x7b' :: _ =>
    match inner file (3 * cs.length) cs with
    | some (tree, []) => some tree
    | _ => none
  | _ => some (.leaf (some file) (plain (String.ofList cs)))

/-- The key of a line, and what stands behind its colon. -/
def splitKey (found : List Char) : List Char → Option (String × List Char)
  | [':'] => some (String.ofList found.reverse, [])
  | ':' :: ' ' :: cs => some (String.ofList found.reverse, cs.dropWhile isSpace)
  | c :: cs => splitKey (c :: found) cs
  | [] => none

/-- The key without its quotes. -/
def keyText (s : String) : Option String :=
  match s.toList with
  | '\'' :: _ | '"' :: _ =>
    match string s.toList with
    | some (key, []) => some key
    | _ => none
  | cs => some (String.ofList ((cs.reverse.dropWhile isSpace).reverse))

/-- What stands behind the dash of an element. -/
def element? : List Char → Option (List Char)
  | ['-'] => some []
  | '-' :: ' ' :: cs => some (cs.dropWhile isSpace)
  | _ => none

mutual

/-- The value that a line leaves to the lines below it, which are further in; every call uses up a
unit of fuel or a line. -/
def below (file : String) (indent : Nat) : Nat → List Line → Option (Tree × List Line)
  | 0, _ => none
  | fuel + 1, ls =>
    match ls with
    | [] => some (.leaf (some file) .nothing, [])
    | l :: rest =>
      if l.indent < indent then some (.leaf (some file) .nothing, l :: rest)
      else if (element? l.chars).isSome then elements file l.indent fuel [] (l :: rest)
      else mapping file l.indent fuel [] (l :: rest)

/-- The elements of a list at the given indentation; those so far are given the last first. -/
def elements (file : String) (indent : Nat) : Nat → List Tree → List Line →
    Option (Tree × List Line)
  | 0, _, _ => none
  | fuel + 1, found, ls =>
    match ls with
    | [] => some (.list (some file) found.reverse, [])
    | l :: rest =>
      if l.indent < indent then some (.list (some file) found.reverse, l :: rest)
      else match element? l.chars with
        | none => if l.indent = indent then some (.list (some file) found.reverse, l :: rest) else none
        | some [] => do
          let (v, rest) ← below file (indent + 1) fuel rest
          elements file indent fuel (v :: found) rest
        | some cs => do
          let v ← value file cs
          elements file indent fuel (v :: found) rest

/-- The entries of a mapping at the given indentation, with those so far. -/
def mapping (file : String) (indent : Nat) : Nat → Entries → List Line → Option (Tree × List Line)
  | 0, _, _ => none
  | fuel + 1, found, ls =>
    match ls with
    | [] => some (.table (some file) found, [])
    | l :: rest =>
      if l.indent < indent then some (.table (some file) found, l :: rest)
      else if indent < l.indent then none
      else do
        let (key, behind) ← splitKey [] l.chars
        let key ← keyText key
        if behind.isEmpty then
          let startsList := match rest with
            | next :: _ => next.indent == indent && (element? next.chars).isSome
            | [] => false
          let (v, rest) ← below file (if startsList then indent else indent + 1) fuel rest
          mapping file indent fuel (Dict.insertEntry key v found) rest
        else
          let v ← value file behind
          mapping file indent fuel (Dict.insertEntry key v found) rest

end

/-- The tree of a document; one without lines is an empty mapping. -/
def tree (file : String) (ls : List Line) : Option Tree :=
  let fuel := 2 * ls.length + 2
  match ls with
  | [] => some (.table (some file) [])
  | l :: _ =>
    let whole :=
      if (element? l.chars).isSome then elements file l.indent fuel [] ls
      else if (splitKey [] l.chars).isSome then mapping file l.indent fuel [] ls
      else match ls with
        | [l] => (value file l.chars).map (·, [])
        | _ => none
    whole.bind fun (t, rest) => if rest.isEmpty then some t else none

/-- The entries of a YAML document. -/
def ofText (file text : String) : Except Error Entries :=
  match tree file (linesOf text) with
  | some t => t.document file
  | none => .error (.unreadable "YAML parse error" file)

end Flowline.Settings.Yaml
