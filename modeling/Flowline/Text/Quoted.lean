import Flowline.Text.Ranges
import Flowline.Text.Print.Table
/-!
Quoted text for messages: double quotes around the text, short escapes for the usual controls, a
code point in braces for what would not show.
-/
namespace Flowline.Text

/-- Lower-case hexadecimal digits without leading zeros. -/
def hexDigits (n : Nat) : List Char := Nat.toDigits 16 n

/-- Whether a character shows as itself. -/
def isVisible (c : Char) : Bool :=
  let n := c.val.toNat
  !inRanges Print.hiddenRanges n && !inRanges Print.extendRanges n

/-- One character inside a quoted text. -/
def quoteChar (c : Char) : List Char :=
  if c == '"' then ['\\', '"']
  else if c == '\\' then ['\\', '\\']
  else if c == '\n' then ['\\', 'n']
  else if c == '\r' then ['\\', 'r']
  else if c == '\t' then ['\\', 't']
  else if c == Char.ofNat 0 then ['\\', '0']
  else if isVisible c then [c]
  else ['\\', 'u', '\x7b'] ++ hexDigits c.val.toNat ++ ['\x7d']

/-- The text in quotes. -/
def quoted (s : String) : String :=
  String.ofList ('"' :: s.toList.flatMap quoteChar ++ ['"'])

end Flowline.Text
