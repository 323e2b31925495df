/-!
Numbers in digits.
-/
namespace Flowline.Text

def digitsValue (ds : List Char) : Nat := ds.foldl (fun n d => n * 10 + (d.toNat - 48)) 0

/-- Whether the text is one or more digits. -/
def isDigits (cs : List Char) : Bool := !cs.isEmpty && cs.all Char.isDigit

/-- The number that the digits are, if it is below `bound`. -/
def readDigits (bound : Nat) (cs : List Char) : Option Nat :=
  if isDigits cs && digitsValue cs < bound then some (digitsValue cs) else none

/-- A number below `bound` in digits, with an optional plus sign. -/
def readNat (bound : Nat) : List Char → Option Nat
  | '+' :: rest => readDigits bound rest
  | cs => readDigits bound cs

/-- An integer from `-bound` up to but without `bound`. -/
def readInt (bound : Nat) : List Char → Option Int
  | '-' :: rest => (readDigits (bound + 1) rest).map fun n => -(n : Int)
  | cs => (readNat bound cs).map Int.ofNat

/-- The value of a hexadecimal digit. -/
def hexValue (c : Char) : Option Nat :=
  if c.isDigit then some (c.toNat - 48)
  else if 'a' ≤ c && c ≤ 'f' then some (c.toNat - 87)
  else if 'A' ≤ c && c ≤ 'F' then some (c.toNat - 55)
  else none

/-- A number in one or more digits of a base up to sixteen. -/
def readBase (base : Nat) (ds : List Char) : Option Nat :=
  if ds.isEmpty then none
  else ds.foldlM (fun n d =>
    (hexValue d).bind fun v => if v < base then some (n * base + v) else none) 0

end Flowline.Text
