import Flowline.Dict
import Flowline.Text.Alphanumeric
import Flowline.Text.Blank
import Flowline.Text.ByteOrderMark
/-!
Files of variables: lines `NAME=value`, with `export` before the name or not, quotes, comments and
the values of other variables behind a dollar sign. A line goes on as long as its quotes are open.
-/
namespace Flowline.Settings.Dotenv

abbrev Variables := List (String × String)

/-- What the end of a line is judged by: whether quotes are open, and what stands before it, a
backslash or a blank. Of several blanks in a row only every other one counts, so a comment begins
behind an odd number of them. -/
inductive Reach where
  | complete
  | blank
  | escape
  | single (escape : Bool)
  | double (escape : Bool)
  deriving DecidableEq, Repr

/-- Goes on over one character. -/
def Reach.step (c : Char) : Reach → Reach
  | .escape => .complete
  | .single true => .single false
  | .double true => .double false
  | .single false => if c == '\'' then .complete else .single (c == '\\')
  | .double false => if c == '"' then .complete else .double (c == '\\')
  | reach =>
    if c == '\\' then .escape
    else if c == '"' then .double false
    else if c == '\'' then .single false
    else if reach == .complete && Text.isBlank c && c != '\n' && c != '\r' then .blank
    else .complete

/-- Whether nothing but a comment is left. -/
def isDone : List Char → Bool
  | [] => true
  | c :: _ => c == '#'

/-- The lines of a text; `line` holds what the one at hand has so far, the last character first. A
line that the text ends in before it is complete is none. -/
def linesFrom (reach : Reach) (line : List Char) : List Char → List (Option (List Char))
  | [] => if reach == .complete then (if line.isEmpty then [] else [some line.reverse]) else [none]
  | c :: cs =>
    if reach == .blank && c == '#' then some line.reverse :: skipComment cs
    else if c == '#' && line.all Text.isBlank then skipComment cs
    else
      let reach := reach.step c
      if c == '\n' && reach == .complete then some line.reverse :: linesFrom .complete [] cs
      else linesFrom reach (c :: line) cs
where
  skipComment : List Char → List (Option (List Char))
    | [] => []
    | c :: cs => if c == '\n' then linesFrom .complete [] cs else skipComment cs

/-- Where a reader of a value stands. -/
inductive Mode where
  | bare
  | single
  | double
  /-- Behind a backslash, in double quotes or not. -/
  | escaped (quoted : Bool)
  /-- In the name of a variable, the last character first, in braces or not. -/
  | name (braced quoted : Bool) (chars : List Char)
  /-- Behind the value. -/
  | ended
  deriving DecidableEq, Repr

def Mode.within (quoted : Bool) : Mode := if quoted then .double else .bare

/-- What a backslash and a character stand for. -/
def unescape : Char → Option Char
  | 'n' => some '\n'
  | c => if ['\\', '\'', '"', '$', ' '].contains c then some c else none

/-- The value in the rest of a line; `out` holds what has been read, the last character first. -/
def value (lookup : String → String) : Mode → List Char → List Char → Option String
  | mode, out, [] =>
    match mode with
    | .bare | .ended | .escaped false => some (String.ofList out.reverse)
    | .name false false chars =>
      some (String.ofList out.reverse ++ lookup (String.ofList chars.reverse))
    | _ => none
  | .ended, out, c :: cs =>
    if c == ' ' || c == '\t' then value lookup .ended out cs
    else if c == '#' then some (String.ofList out.reverse)
    else none
  | .escaped quoted, out, c :: cs =>
    (unescape c).bind fun plain => value lookup (.within quoted) (plain :: out) cs
  | .single, out, c :: cs =>
    if c == '\'' then value lookup .bare out cs else value lookup .single (c :: out) cs
  | .name braced quoted chars, out, c :: cs =>
    let found := (lookup (String.ofList chars.reverse)).toList.reverse
    if Text.isAlphanumeric c then value lookup (.name braced quoted (c :: chars)) out cs
    else if braced then
      if c == '}' then value lookup (.within quoted) (found ++ out) cs
      else value lookup (.name true quoted (c :: chars)) out cs
    else if c == '{' && chars.isEmpty then value lookup (.name true quoted []) out cs
    else if c == '$' then value lookup (.name false quoted []) (found ++ out) cs
    else value lookup (.within quoted) (c :: (found ++ out)) cs
  | .double, out, c :: cs =>
    if c == '$' then value lookup (.name false true []) out cs
    else if c == '"' then value lookup .bare out cs
    else if c == '\\' then value lookup (.escaped true) out cs
    else value lookup .double (c :: out) cs
  | .bare, out, c :: cs =>
    if c == '$' then value lookup (.name false false []) out cs
    else if c == '\'' then value lookup .single out cs
    else if c == '"' then value lookup .double out cs
    else if c == '\\' then value lookup (.escaped false) out cs
    else if c == ' ' || c == '\t' then value lookup .ended out cs
    else value lookup .bare (c :: out) cs

/-- The name at the beginning of a text, and the rest behind blanks. -/
def name (cs : List Char) : Option (String × List Char) :=
  let isChar := fun c : Char => c.isAlphanum || c == '_' || c == '.'
  match cs with
  | [] => none
  | c :: _ =>
    if c.isAlpha || c == '_' then
      some (String.ofList (cs.takeWhile isChar), (cs.dropWhile isChar).dropWhile Text.isBlank)
    else none

/-- The name and the text of its value, behind an equals sign and blanks. -/
def assignment (cs : List Char) : Option (String × List Char) :=
  match name cs with
  | some (n, '=' :: rest) => some (n, rest.dropWhile Text.isBlank)
  | some ("export", rest) =>
    match name rest with
    | some (n, '=' :: rest) => some (n, rest.dropWhile Text.isBlank)
    | _ => none
  | _ => none

/-- The variable that a line gives a value to; the outer option is none for a malformed line. -/
def definition? (lookup : String → String) (line : List Char) : Option (Option (String × String)) :=
  let cs := Text.trimChars line
  if isDone cs then some none
  else (assignment cs).bind fun (n, rest) =>
    if isDone rest then some (some (n, ""))
    else (value lookup .bare [] rest).map fun v => some (n, v)

/-- Adds the variables of lines to those there are, which stay as they are; the first malformed line
ends the reading. -/
def addLines (there : Variables) (known : Variables) : List (Option (List Char)) → Variables
  | [] => there
  | line :: rest =>
    let lookup := fun n => ((assoc n there).orElse fun _ => assoc n known).getD ""
    match line.bind (definition? lookup) with
    | none => there
    | some none => addLines there known rest
    | some (some (n, v)) =>
      let there := if (assoc n there).isSome then there else there ++ [(n, v)]
      addLines there ((n, v) :: known) rest

/-- The variables there are, with those of a file. -/
def add (there : Variables) (file : String) : Variables :=
  addLines there [] (linesFrom .complete [] (Text.dropMark file.toList))

end Flowline.Settings.Dotenv
