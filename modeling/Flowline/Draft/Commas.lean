import Flowline.Text.Blank
/-!
Trailing commas: a comma outside string literals with only blanks between it and a closing brace or
bracket. Literals are tracked by their quotes and backslashes, whether or not the text is JSON.
-/
namespace Flowline.Commas

/-- Where a reader stands: between literals, in one, or behind a backslash in one. -/
inductive Mode where
  | outside | inside | escaped
  deriving DecidableEq, Repr

/-- The mode behind a character. -/
def Mode.next : Mode → Char → Mode
  | .outside, '"' => .inside
  | .outside, _ => .outside
  | .inside, '\\' => .escaped
  | .inside, '"' => .outside
  | .inside, _ => .inside
  | .escaped, _ => .inside

/-- Whether the first character that is not blank closes a list or an object. -/
def closes (cs : List Char) : Bool :=
  match cs.dropWhile Text.isBlank with
  | '}' :: _ | ']' :: _ => true
  | _ => false

/-- Whether the comma or other character `c` before `cs` is a trailing comma. -/
def isTrailing (mode : Mode) (c : Char) (cs : List Char) : Bool :=
  mode == .outside && c == ',' && closes cs

/-- The text without its trailing commas, read from the given mode on. -/
def stripFrom (mode : Mode) : List Char → List Char
  | [] => []
  | c :: cs =>
    if isTrailing mode c cs then stripFrom mode cs else c :: stripFrom (mode.next c) cs

def strip (cs : List Char) : List Char := stripFrom .outside cs

end Flowline.Commas
