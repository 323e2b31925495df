import Flowline.Number.Binary64
/-!
The shortest decimal that reads back as a given binary64 number, and two ways to write it.

A decimal reads back when it lies in the interval of reals that round to the number; both ends
belong to it when the mantissa is even. Grids of 1, 2, … digits are tried in turn, and of two grid
points in the interval the nearer is taken, the even one on a tie.
-/
namespace Flowline.Number

/-- The positive decimal `digits * 10 ^ exponent`. -/
structure Decimal where
  digits : Nat
  exponent : Int
  deriving DecidableEq, Repr

namespace Shortest

/-- `n / d` and the ends of its rounding interval over one denominator. -/
structure Interval where
  low : Nat
  value : Nat
  high : Nat
  den : Nat
  closed : Bool

/-- The gap below a power of two is half the gap above it. -/
def interval (x : Binary64) : Interval :=
  let m := x.mantissa
  let q := x.exponent - 2
  let narrow := m == Nat.pow 2 52 && 1 < x.word / Nat.pow 2 52
  let low := 4 * m - (if narrow then 1 else 2)
  let closed := m % 2 == 0
  if 0 ≤ q then
    let s := Nat.pow 2 q.toNat
    ⟨low * s, 4 * m * s, (4 * m + 2) * s, 1, closed⟩
  else ⟨low, 4 * m, 4 * m + 2, Nat.pow 2 (-q).toNat, closed⟩

/-- Whether `c * 10 ^ k` lies in the interval. -/
def Interval.holds (i : Interval) (c : Nat) (k : Int) : Bool :=
  let (a, s) := if 0 ≤ k then (c * Nat.pow 10 k.toNat * i.den, 1)
    else (c * i.den, Nat.pow 10 (-k).toNat)
  if i.closed then i.low * s ≤ a && a ≤ i.high * s else i.low * s < a && a < i.high * s

/-- The last place `k` from `start` downwards with `10 ^ k ≤ n / d`. -/
def leadingPlace (n d : Nat) : Nat → Int → Int
  | 0, k => k
  | fuel + 1, k =>
    let fits := if 0 ≤ k then Nat.pow 10 k.toNat * d ≤ n else d ≤ n * Nat.pow 10 (-k).toNat
    if fits then k else leadingPlace n d fuel (k - 1)

/-- The better of the two neighbours of the value on the grid of multiples of `10 ^ k`. -/
def onGrid (i : Interval) (k : Int) : Option Nat :=
  let (n, d) := if 0 ≤ k then (i.value, i.den * Nat.pow 10 k.toNat)
    else (i.value * Nat.pow 10 (-k).toNat, i.den)
  let c := n / d
  let twice := 2 * (n % d)
  match i.holds c k && c != 0, i.holds (c + 1) k with
  | true, true =>
    some (if twice < d || (twice == d && c % 2 == 0) then c else c + 1)
  | true, false => some c
  | false, true => some (c + 1)
  | false, false => none

/-- The first hit on the grids of places `k`, `k - 1`, …; seventeen digits always give one. -/
def search (i : Interval) : Nat → Int → Decimal
  | 0, k => ⟨i.value, k⟩
  | fuel + 1, k =>
    match onGrid i k with
    | some c => ⟨c, k⟩
    | none => search i fuel (k - 1)

end Shortest

/-- The shortest decimal that reads back as the magnitude of a number other than zero. -/
def shortest (x : Binary64) : Decimal :=
  let i := Shortest.interval x
  Shortest.search i 18 (Shortest.leadingPlace i.value i.den 640 309)

/-- A way to write numbers: the leading places, from `least` up to but without `most`, that are
written without an exponent, and whether whole numbers written so end in `.0`. -/
structure Style where
  least : Int
  most : Int
  pointed : Bool

def zeros (n : Nat) : List Char := List.replicate n '0'

/-- What follows the digits of a whole number. -/
def Style.ending (style : Style) : List Char := if style.pointed then ".0".toList else []

/-- Digits with the point after the place `lead` of the first one. -/
def Style.positional (style : Style) (ds : List Char) (lead : Int) : List Char :=
  if lead < 0 then "0.".toList ++ zeros (-lead - 1).toNat ++ ds
  else
    let whole := lead.toNat + 1
    if ds.length ≤ whole then ds ++ zeros (whole - ds.length) ++ style.ending
    else ds.take whole ++ '.' :: ds.drop whole

/-- One digit before the point, and an exponent that always has a sign. -/
def scientific (ds : List Char) (lead : Int) : List Char :=
  let mantissa := match ds with
    | [] => []
    | [d] => [d]
    | d :: rest => d :: '.' :: rest
  let sign := if lead < 0 then '-' else '+'
  mantissa ++ 'e' :: sign :: lead.natAbs.repr.toList

def dropZeros (ds : List Char) : List Char := (ds.reverse.dropWhile (· == '0')).reverse

/-- The number in the given style. -/
def Style.write (style : Style) (x : Binary64) : String :=
  let sign := if x.negative then ['-'] else []
  let body :=
    if x.word = 0 then '0' :: style.ending
    else
      let d := shortest x
      let all := d.digits.repr.toList
      let lead := d.exponent + (all.length : Int) - 1
      let ds := dropZeros all
      if style.least ≤ lead && lead < style.most then style.positional ds lead
      else scientific ds lead
  String.ofList (sign ++ body)

/-- Numbers in JSON text: an exponent from `1e+16` up and from `1e-6` down. -/
def Style.json : Style := ⟨-5, 16, true⟩

/-- Never an exponent; every place of a binary64 number lies between the bounds. -/
def Style.plain : Style := ⟨-400, 400, false⟩

/-- As `plain`, but a whole number can be told from an integer. -/
def Style.marked : Style := ⟨-400, 400, true⟩

end Flowline.Number
