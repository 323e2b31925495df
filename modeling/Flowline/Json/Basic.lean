import Flowline.Dict
import Flowline.Number.Binary64
/-!
JSON values. An object keeps its members in the order given; values read from text have their
members in ascending key order, each key once.
-/
namespace Flowline

/-- A JSON number: an integer, or a binary64 number where the text has a fraction, an exponent or
more digits than a 64-bit integer holds. -/
inductive Json.Number where
  | int (value : Int)
  | float (value : Number.Binary64)
  deriving DecidableEq, Repr, Inhabited

inductive Json where
  | null
  | bool (value : Bool)
  | num (value : Json.Number)
  | str (value : String)
  | arr (elements : List Json)
  | obj (members : List (String × Json))
  deriving Inhabited

namespace Json

/-- The members of an object in the order of the text. -/
abbrev Members := List (String × Json)

def nat (n : Nat) : Json := .num (.int n)

def strings (l : List String) : Json := .arr (l.map .str)

/-- Null, or what `f` gives for the value. -/
def nullable (f : α → Json) : Option α → Json
  | none => .null
  | some a => f a

/-- A member that is left out when there is no value. -/
def optional (key : String) (f : α → Json) : Option α → Members
  | none => []
  | some a => [(key, f a)]

def asObject : Json → Option Members
  | .obj members => some members
  | _ => none

def asArray : Json → Option (List Json)
  | .arr elements => some elements
  | _ => none

def asString : Json → Option String
  | .str s => some s
  | _ => none

def isNull : Json → Bool
  | .null => true
  | _ => false

def isString (v : Json) : Bool := v.asString.isSome
def isArray (v : Json) : Bool := v.asArray.isSome
def isObject (v : Json) : Bool := v.asObject.isSome

/-- The member of an object with the given key. -/
def member? (v : Json) (key : String) : Option Json := v.asObject.bind (assoc key)

mutual

/-- The two are one value. -/
def same : Json → Json → Bool
  | .null, .null => true
  | .bool b, .bool c => b == c
  | .num m, .num n => m == n
  | .str s, .str t => s == t
  | .arr vs, .arr ws => sameAll vs ws
  | .obj vs, .obj ws => sameMembers vs ws
  | _, _ => false

def sameAll : List Json → List Json → Bool
  | [], [] => true
  | v :: vs, w :: ws => same v w && sameAll vs ws
  | _, _ => false

def sameMembers : List (String × Json) → List (String × Json) → Bool
  | [], [] => true
  | (key, v) :: vs, (key', w) :: ws => key == key' && same v w && sameMembers vs ws
  | _, _ => false

end

mutual

theorem same_iff : (v w : Json) → same v w = true ↔ v = w
  | .null, w | .bool _, w | .num _, w | .str _, w => by cases w <;> simp [same]
  | .arr vs, w => by cases w <;> simp [same, sameAll_iff vs]
  | .obj vs, w => by cases w <;> simp [same, sameMembers_iff vs]

theorem sameAll_iff : (vs ws : List Json) → sameAll vs ws = true ↔ vs = ws
  | [], ws => by cases ws <;> simp [sameAll]
  | v :: vs, ws => by cases ws <;> simp [sameAll, same_iff v, sameAll_iff vs]

theorem sameMembers_iff : (vs ws : List (String × Json)) → sameMembers vs ws = true ↔ vs = ws
  | [], ws => by cases ws <;> simp [sameMembers]
  | (key, v) :: vs, ws => by
    cases ws <;> simp [sameMembers, same_iff v, sameMembers_iff vs, Prod.ext_iff, and_assoc]

end

instance : DecidableEq Json := fun v w => decidable_of_iff (same v w = true) (same_iff v w)

end Json
end Flowline
