/-!
Finite binary64 numbers as exact dyadic values, with correct rounding of ratios. The carry of a
rounded mantissa runs into the exponent field, so one addition builds the word.
-/
namespace Flowline.Number

/-- A finite binary64 number: its sign, and the word of its magnitude. -/
structure Binary64 where
  negative : Bool
  word : Nat
  deriving DecidableEq, Repr, Inhabited

namespace Binary64

def zero : Binary64 := ⟨false, 0⟩

/-- The magnitude words below this one are finite. -/
def infinityWord : Nat := 2047 * Nat.pow 2 52

/-- The magnitude is `mantissa * 2 ^ exponent`. -/
def mantissa (x : Binary64) : Nat :=
  if x.word / Nat.pow 2 52 = 0 then x.word else Nat.pow 2 52 + x.word % Nat.pow 2 52

def exponent (x : Binary64) : Int :=
  if x.word / Nat.pow 2 52 = 0 then -1074 else (x.word / Nat.pow 2 52 : Int) - 1075

/-- Numerator and denominator of the magnitude. -/
def toRatio (x : Binary64) : Nat × Nat :=
  if 0 ≤ x.exponent then (x.mantissa * Nat.pow 2 x.exponent.toNat, 1)
  else (x.mantissa, Nat.pow 2 (-x.exponent).toNat)

/-- `n / d` to the nearest integer, a half to the even one. -/
def roundDiv (n d : Nat) : Nat :=
  let q := n / d
  let r := n % d
  if d < 2 * r || (2 * r == d && q % 2 == 1) then q + 1 else q

/-- The place of the leading bit of `n / d`. -/
def leadingBit (n d : Nat) : Int :=
  let k : Int := (n.log2 : Int) - (d.log2 : Int)
  let below := if 0 ≤ k then n < d * Nat.pow 2 k.toNat else n * Nat.pow 2 (-k).toNat < d
  if below then k - 1 else k

/-- The magnitude word nearest to `n / d`, ties to the even word; none beyond the finite range. -/
def wordOfRatio (n d : Nat) : Option Nat :=
  if n = 0 then some 0
  else
    let e := max (-1074) (leadingBit n d - 52)
    let q := if 0 ≤ e then roundDiv n (d * Nat.pow 2 e.toNat)
      else roundDiv (n * Nat.pow 2 (-e).toNat) d
    let w := (e + 1074).toNat * Nat.pow 2 52 + q
    if w < infinityWord then some w else none

def ofRatio (negative : Bool) (n d : Nat) : Option Binary64 :=
  (wordOfRatio n d).map (⟨negative, ·⟩)

/-- The power of ten nearest to `10 ^ k`, for `k` up to 308. -/
def powerOfTen (k : Nat) : Binary64 := (ofRatio false (Nat.pow 10 k) 1).getD zero

def mul (x y : Binary64) : Option Binary64 :=
  let (a, b) := x.toRatio
  let (c, d) := y.toRatio
  ofRatio (x.negative != y.negative) (a * c) (b * d)

def div (x y : Binary64) : Option Binary64 :=
  let (a, b) := x.toRatio
  let (c, d) := y.toRatio
  ofRatio (x.negative != y.negative) (a * d) (b * c)

/-- Scales `x` by `10 ^ k` with at most one power of ten a step; a step down by 308 precedes a
larger shift. None when the value leaves the finite range upwards. -/
def scale : Nat → Binary64 → Int → Option Binary64
  | 0, x, _ => some x
  | fuel + 1, x, k =>
    if k.natAbs ≤ 308 then
      if 0 ≤ k then x.mul (powerOfTen k.toNat) else x.div (powerOfTen (-k).toNat)
    else if x.word = 0 then some x
    else if 0 ≤ k then none
    else (x.div (powerOfTen 308)).bind fun y => scale fuel y (k + 308)

/-- The value read for the digits `significand` with the exponent `k` of ten. Three steps of 308
bring every significand below `2 ^ 64` to zero, so four suffice. -/
def ofDecimal (negative : Bool) (significand : Nat) (k : Int) : Option Binary64 :=
  ((ofRatio false significand 1).bind fun x => scale 4 x k).map fun x => ⟨negative, x.word⟩

/-- The number as an integer, a half away from zero. -/
def roundToInt (x : Binary64) : Int :=
  let (n, d) := x.toRatio
  let q : Int := (2 * n + d) / (2 * d)
  if x.negative then -q else q

end Binary64
end Flowline.Number
