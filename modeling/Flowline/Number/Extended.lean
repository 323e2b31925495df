import Flowline.Number.Shortest
import Flowline.Text.Digits
/-!
Binary64 numbers with the infinities and the value that is not a number, and how they are read from
plain text.
-/
namespace Flowline.Number

inductive Extended where
  | finite (value : Binary64)
  | infinite (negative : Bool)
  | notANumber
  deriving DecidableEq, Repr

namespace Extended

def write (style : Style) : Extended → String
  | finite x => style.write x
  | infinite negative => if negative then "-inf" else "inf"
  | notANumber => "NaN"

def isZero : Extended → Bool
  | finite x => x.word == 0
  | _ => false

/-- The integer nearest to the number among those below `bound`, a half away from zero. -/
def toNatBelow (bound : Nat) : Extended → Nat
  | finite x => min x.roundToInt.toNat (bound - 1)
  | infinite negative => if negative then 0 else bound - 1
  | notANumber => 0

/-- The value nearest to `n * 10 ^ k`. Beyond the places of binary64 the exponent does not
matter. -/
def ofDecimal (negative : Bool) (n : Nat) (k : Int) : Extended :=
  let lead := k + (toString n).length
  let rounded :=
    if n = 0 || lead < -400 then some ⟨negative, 0⟩
    else if 400 < lead then none
    else if 0 ≤ k then Binary64.ofRatio negative (n * Nat.pow 10 k.toNat) 1
    else Binary64.ofRatio negative n (Nat.pow 10 (-k).toNat)
  match rounded with
  | some x => .finite x
  | none => .infinite negative

/-- A sign, if there is one, and the rest. -/
def splitSign : List Char → Bool × List Char
  | '-' :: rest => (true, rest)
  | '+' :: rest => (false, rest)
  | cs => (false, cs)

/-- The exponent of ten behind the digits: none at the end of the text, or `e` and an integer. -/
def readExponent : List Char → Option Int
  | [] => some 0
  | c :: rest =>
    let (negative, ds) := splitSign rest
    if (c == 'e' || c == 'E') && Text.isDigits ds then
      let n : Int := Text.digitsValue ds
      some (if negative then -n else n)
    else none

/-- Digits with a point among them or not, then an exponent or not. -/
def readDecimal (negative : Bool) (cs : List Char) : Option Extended :=
  let whole := cs.takeWhile Char.isDigit
  let rest := cs.dropWhile Char.isDigit
  let (fraction, rest) := match rest with
    | '.' :: more => (more.takeWhile Char.isDigit, more.dropWhile Char.isDigit)
    | rest => ([], rest)
  if whole.isEmpty && fraction.isEmpty then none
  else (readExponent rest).map fun k =>
    ofDecimal negative (Text.digitsValue (whole ++ fraction)) (k - fraction.length)

/-- The number that a text is. -/
def ofText? (s : String) : Option Extended :=
  let (negative, cs) := splitSign s.toList
  match String.ofList (cs.map Char.toLower) with
  | "inf" | "infinity" => some (.infinite negative)
  | "nan" => some .notANumber
  | _ => readDecimal negative cs

end Extended
end Flowline.Number
