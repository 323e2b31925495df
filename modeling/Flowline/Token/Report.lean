import Flowline.Token.Keeper
/-!
Keepers in reports. A duration has the largest of the units s, ms and ns that is not above it.
-/
namespace Flowline.Token

/-- A duration in milliseconds, with a fraction where it has one. -/
def durationText (ms : Nat) : String :=
  if ms < 1000 then
    if ms = 0 then "0ns" else toString ms ++ "ms"
  else
    let fraction := ms % 1000
    let digits := (toString (1000 + fraction)).toList.drop 1
    let kept := (digits.reverse.dropWhile (· == '0')).reverse
    let tail := if kept.isEmpty then "" else "." ++ String.ofList kept
    toString (ms / 1000) ++ tail ++ "s"

/-- The keeper as a text for reports, without the token. -/
def Keeper.text (k : Keeper) : String :=
  "AuthTokenProvider \x7b validity: " ++ durationText k.validity ++ ", .. \x7d"

end Flowline.Token
