import Flowline.Number.Extended
import Flowline.Text.LowerCase
import Flowline.Text.Quoted
/-!
Plain values of settings. A source may give any kind of value for a setting; the kind that is needed
decides what the value means.
-/
namespace Flowline.Settings

inductive Scalar where
  | nothing
  | flag (value : Bool)
  | whole (value : Int)
  | real (value : Number.Extended)
  | text (value : String)
  deriving DecidableEq, Repr

namespace Scalar

/-- A value given as plain text: a flag in any letter case, a 64-bit integer, another number, or
else the text itself. -/
def ofText (s : String) : Scalar :=
  match Text.lowerCase s with
  | "true" => .flag true
  | "false" => .flag false
  | _ =>
    match Text.readInt (Nat.pow 2 63) s.toList with
    | some n => .whole n
    | none =>
      match Number.Extended.ofText? s with
      | some x => .real x
      | none => .text s

/-- A value where a plain value of another kind is needed. -/
def describe : Scalar → String
  | nothing => "unit value"
  | flag b => "boolean `" ++ toString b ++ "`"
  | whole n =>
    (if n < Nat.pow 2 63 then "64-bit integer `" else "64-bit unsigned integer `") ++
      toString n ++ "`"
  | real x => "floating point `" ++ x.write .plain ++ "`"
  | text s => "string " ++ Text.quoted s

/-- A value where a group of settings is needed. -/
def describeForGroup : Scalar → String
  | whole n => "integer `" ++ toString n ++ "`"
  | real x => "floating point `" ++ x.write .marked ++ "`"
  | s => s.describe

/-- Why a value is not of the needed kind: what was found, and what was expected. -/
structure Mismatch where
  found : String
  expected : String
  deriving DecidableEq, Repr

/-- Numbers and flags have a text too. -/
def asText : Scalar → Except Mismatch String
  | text s => .ok s
  | flag b => .ok (toString b)
  | whole n => .ok (toString n)
  | real x => .ok (x.write .plain)
  | nothing => .error ⟨nothing.describe, "a string"⟩

/-- A number other than zero is true. -/
def asFlag : Scalar → Except Mismatch Bool
  | flag b => .ok b
  | whole n => .ok (n != 0)
  | real x => .ok (!x.isZero)
  | text s =>
    let lowered := Text.lowerCase s
    if ["1", "true", "on", "yes"].contains lowered then .ok true
    else if ["0", "false", "off", "no"].contains lowered then .ok false
    else .error ⟨(text lowered).describe, "a boolean"⟩
  | nothing => .error ⟨nothing.describe, "a boolean"⟩

/-- A number below `2 ^ 64`; other numbers than integers are rounded into this range. -/
def asNat : Scalar → Except Mismatch Nat
  | whole n =>
    if 0 ≤ n then .ok n.toNat
    else .error ⟨(whole n).describe, "an unsigned 64 bit or less integer"⟩
  | flag b => .ok b.toNat
  | real x => .ok (x.toNatBelow (Nat.pow 2 64))
  | text s =>
    let lowered := Text.lowerCase s
    if ["true", "on", "yes"].contains lowered then .ok 1
    else if ["false", "off", "no"].contains lowered then .ok 0
    else match Text.readNat (Nat.pow 2 64) s.toList with
      | some n => .ok n
      | none => .error ⟨(text s).describe, "an integer"⟩
  | nothing => .error ⟨nothing.describe, "an integer"⟩

end Scalar
end Flowline.Settings
