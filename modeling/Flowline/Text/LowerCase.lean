import Flowline.Text.Ranges
import Flowline.Text.Case.Table
/-!
Full lower-casing of a text. Every character maps on its own, except the capital sigma, which
becomes a final sigma at the end of a word.
-/
namespace Flowline.Text

namespace Case

def isCased (c : Char) : Bool := inRanges casedRanges c.val.toNat

def isIgnorable (c : Char) : Bool := inRanges ignorableRanges c.val.toNat

/-- The image of one character; the capital I with a dot has two. -/
def lowerChar (c : Char) : List Char :=
  let n := c.val.toNat
  if n == 0x130 then ['i', Char.ofNat 0x307]
  else match lowerRuns.find? fun r => r.first ≤ n && n ≤ r.last && (n - r.first) % r.step == 0 with
    | some r => [Char.ofNat (r.target + (n - r.first))]
    | none => [c]

/-- Whether the first character that is not ignorable is cased. -/
def meetsCased (cs : List Char) : Bool :=
  match cs.dropWhile isIgnorable with
  | [] => false
  | c :: _ => isCased c

/-- A sigma is final when a cased character stands before it and none after it, ignorable
characters aside. -/
def sigma (before after : List Char) : Char :=
  if meetsCased before && !meetsCased after then 'ς' else 'σ'

/-- Lower-cases `cs`, which follows the characters `before` (last first). -/
def lowerFrom (before : List Char) : List Char → List Char
  | [] => []
  | c :: cs =>
    (if c == 'Σ' then [sigma before cs] else lowerChar c) ++ lowerFrom (c :: before) cs

end Case

/-- The text in lower case. -/
def lowerCase (s : String) : String := String.ofList (Case.lowerFrom [] s.toList)

end Flowline.Text
